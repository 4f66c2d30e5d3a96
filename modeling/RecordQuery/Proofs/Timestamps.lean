import RecordQuery.Instant.Reader
import RecordQuery.Proofs.Chronology
import RecordQuery.Proofs.Numerals

namespace RecordQuery

/-!
# Written timestamps read back

The text of an instant in universal time is read as the same instant when its
year has four digits: every part has the width that is read, the calendar finds
the day of a date again, and a leap second is told from the second before by its
number (`read?_rfc3339`).  A year outside 0 to 9999 is written with a sign, and
no timestamp that is read begins with one (`read?_rfc3339_of_not_plain`).
-/

namespace Calendar

/--
The month found for a day of a year is one of those listed, the day of the month
is within its length, and both together count the days again.
-/
theorem monthAndDay_parts
    {lengths : List Nat}
    (month : Nat)
    {days : Nat}
    (within : days < lengths.sum) :
    ∃ passed,
      passed < lengths.length ∧
        (monthAndDay lengths month days).1 = month + passed ∧
        1 ≤ (monthAndDay lengths month days).2 ∧
        (monthAndDay lengths month days).2 ≤ lengths.getD passed 0 ∧
        (lengths.take passed).sum + (monthAndDay lengths month days).2 =
          days + 1 := by
  -- Induction on the months to come; a month that is passed adds its days.
  induction lengths generalizing month days with
  | nil =>
      exact absurd within (Nat.not_lt_zero days)
  | cons length later inductionHypothesis =>
      rw [List.sum_cons] at within
      by_cases here : days < length
      · refine ⟨0, Nat.succ_pos _, ?_⟩
        simp only [monthAndDay, here, ↓reduceIte]
        exact ⟨rfl, Nat.succ_pos _, here, Nat.zero_add _⟩
      · have withinLater : days - length < later.sum := by omega
        obtain ⟨passed, listed, isMonth, first, fits, whole⟩ :=
          inductionHypothesis (month + 1) withinLater
        refine ⟨passed + 1, Nat.succ_lt_succ listed, ?_⟩
        simp only [monthAndDay, here, ↓reduceIte, List.take_succ_cons,
          List.sum_cons, List.getD_cons_succ]
        exact ⟨by omega, first, fits, by omega⟩

end Calendar

namespace Date

/-- The days of a year that have passed before a day number. -/
theorem daysInto_lt (day : Int) :
    (day - Calendar.daysBeforeYear (Calendar.yearOfDay day)).toNat <
      (Calendar.monthLengths
        (Calendar.isLeapYear (Calendar.yearOfDay day))).sum := by
  have begins := Calendar.daysBeforeYear_yearOfDay_le day
  have ends := Calendar.lt_daysBeforeYear_yearOfDay_add_one day
  have months := Calendar.sum_monthLengths (Calendar.yearOfDay day)
  omega

theorem daysBeforeMonth_eq (leap : Bool) (passed : Nat) :
    Calendar.daysBeforeMonth leap (1 + passed) =
      ((Calendar.monthLengths leap).take passed).sum := by
  rw [Calendar.daysBeforeMonth, Nat.add_sub_cancel_left]
  rfl

/-- The date found for a day number exists and has this number. -/
theorem ofDayNumber_spec (day : Int) :
    (ofDayNumber day).isValid = true ∧
      (ofDayNumber day).dayNumber = day := by
  obtain ⟨passed, listed, isMonth, first, fits, whole⟩ :=
    Calendar.monthAndDay_parts 1 (daysInto_lt day)
  have month : (ofDayNumber day).month = 1 + passed := isMonth
  have year : (ofDayNumber day).year = Calendar.yearOfDay day := rfl
  have begins := Calendar.daysBeforeYear_yearOfDay_le day
  constructor
  · have twelve : passed < 12 := listed
    have dayFits :
        (ofDayNumber day).day ≤
          Calendar.monthLength
            (Calendar.isLeapYear (Calendar.yearOfDay day))
            (1 + passed) := by
      rw [Calendar.monthLength, Nat.add_sub_cancel_left]
      exact fits
    simp only [isValid, Bool.and_eq_true, decide_eq_true_eq, month, year]
    exact ⟨⟨⟨by omega, by omega⟩, first⟩, dayFits⟩
  · have dayOfMonth :
        ((Calendar.monthLengths
            (Calendar.isLeapYear (Calendar.yearOfDay day))).take
          passed).sum + (ofDayNumber day).day =
          (day - Calendar.daysBeforeYear
            (Calendar.yearOfDay day)).toNat + 1 := whole
    rw [dayNumber, month, year, daysBeforeMonth_eq]
    omega

end Date

namespace Instant

/-- A padded number is read with its width, and what follows is left. -/
theorem fixedDigits?_padded
    {width value : Nat}
    (fits : value < 10 ^ (width + 1))
    (rest : List Char) :
    fixedDigits? (width + 1) (Decimal.padded (width + 1) value ++ rest) =
      some (value, rest) := by
  have length := Decimal.length_padded fits
  have allDigits :
      (Decimal.padded (width + 1) value).all Decimal.isDigit = true :=
    List.all_eq_true.mpr fun _ => Decimal.isDigit_of_mem_padded
  rw [fixedDigits?, List.take_left' length, List.drop_left' length]
  simp [length, allDigits]

@[simp] theorem expect?_cons (character : Char) (rest : List Char) :
    expect? character (character :: rest) = some rest :=
  if_pos rfl

/-- A written date is read with its calendar date. -/
theorem date?_padded
    {date : Date}
    (isValid : date.isValid = true)
    (fits :
      0 ≤ date.year ∧ date.year ≤ 9999 ∧ date.month < 100 ∧ date.day < 100)
    (rest : List Char) :
    date?
        (Decimal.padded 4 date.year.toNat ++
          '-' :: (Decimal.padded 2 date.month ++
            '-' :: (Decimal.padded 2 date.day ++ rest))) =
      some (date, rest) := by
  obtain ⟨plain, short, monthFits, dayFits⟩ := fits
  have yearFits : date.year.toNat < 10 ^ (3 + 1) := by omega
  have sameYear : (date.year.toNat : Int) = date.year :=
    Int.toNat_of_nonneg plain
  have readYear := fixedDigits?_padded yearFits
  have readMonth := @fixedDigits?_padded 1 date.month monthFits
  have readDay := @fixedDigits?_padded 1 date.day dayFits
  simp only [date?, readYear, readMonth, readDay, expect?_cons,
    Option.bind_eq_bind, Option.bind_some, sameYear]
  exact if_pos isValid

/-- Digits after a point count in steps of their last place. -/
theorem fraction?_padded
    {width value : Nat}
    (short : width + 1 ≤ 9)
    (fits : value < 10 ^ (width + 1)) :
    fraction? ('.' :: (Decimal.padded (width + 1) value ++ offsetText)) =
      some (value * 10 ^ (9 - (width + 1)), offsetText) := by
  have ends :
      ∀ character, offsetText.head? = some character →
        Decimal.isDigit character = false := by
    rintro character starts
    obtain rfl := Option.some.inj starts
    decide
  have allDigits :
      ∀ character ∈ Decimal.padded (width + 1) value,
        Decimal.isDigit character = true :=
    fun _ => Decimal.isDigit_of_mem_padded
  have ⟨taken, dropped⟩ := Decimal.run_of_digits allDigits ends
  have length := Decimal.length_padded fits
  have notEmpty : Decimal.padded (width + 1) value ≠ [] :=
    List.ne_nil_of_length_pos (by omega)
  have kept :
      (Decimal.padded (width + 1) value).take 9 =
        Decimal.padded (width + 1) value :=
    List.take_of_length_le (by omega)
  simp [fraction?, taken, dropped, notEmpty, kept, length]

/-- A written fraction is read as its nanoseconds. -/
theorem fraction?_fractionText
    {nanoseconds : Nat}
    (fits : nanoseconds < 1000000000) :
    fraction? (fractionText nanoseconds ++ offsetText) =
      some (nanoseconds, offsetText) := by
  unfold fractionText
  split
  next zero =>
    rw [zero]
    rfl
  next =>
  split
  next wholeMillis =>
    have millis : nanoseconds / 1000000 * 10 ^ (9 - (2 + 1)) = nanoseconds :=
      Nat.div_mul_cancel (Nat.dvd_of_mod_eq_zero wholeMillis)
    rw [List.cons_append, fraction?_padded (by decide) (by omega), millis]
  next =>
  split
  next wholeMicros =>
    have micros : nanoseconds / 1000 * 10 ^ (9 - (5 + 1)) = nanoseconds :=
      Nat.div_mul_cancel (Nat.dvd_of_mod_eq_zero wholeMicros)
    rw [List.cons_append, fraction?_padded (by decide) (by omega), micros]
  next =>
    rw [List.cons_append, fraction?_padded (by decide) (by omega),
      Nat.sub_self, Nat.pow_zero, Nat.mul_one]

/-- The hour of an instant exists, and so do its minute and its second. -/
theorem clock_exists (instant : Instant) :
    instant.hour ≤ 23 ∧ instant.minute ≤ 59 ∧ instant.second ≤ 60 := by
  have bound := instant.nanoseconds_lt
  simp only [hour, minute, second, secondOfDay, secondsPerDay]
  omega

/-- Second sixty is the last second of its minute, extended. -/
theorem second_parts (instant : Instant) :
    3600 * instant.hour + 60 * instant.minute + min instant.second 59 =
        instant.secondOfDay ∧
      (if instant.second = 60 then
          1000000000 + instant.fraction
        else
          instant.fraction) =
        instant.nanoseconds := by
  have bound := instant.nanoseconds_lt
  have leap := instant.leap_at_end
  constructor
  · simp only [hour, minute, second, secondOfDay, secondsPerDay]
    omega
  · by_cases isLeap : instant.second = 60
    · rw [if_pos isLeap]
      simp only [second, fraction, secondOfDay, secondsPerDay] at isLeap ⊢
      omega
    · rw [if_neg isLeap]
      simp only [second, fraction, secondOfDay, secondsPerDay] at isLeap ⊢
      omega

/-- A written time of day is read to the nanosecond. -/
theorem clock?_clockText (instant : Instant) :
    clock?
        (Decimal.padded 2 instant.hour ++
          ':' :: (Decimal.padded 2 instant.minute ++
            ':' :: (Decimal.padded 2 instant.second ++
              (fractionText instant.fraction ++ offsetText)))) =
      some
        (⟨instant.secondOfDay, instant.nanoseconds⟩, offsetText) := by
  obtain ⟨hourFits, minuteFits, secondFits, fractionFits⟩ :=
    instant.clock_bounds
  have readHour := @fixedDigits?_padded 1 instant.hour hourFits
  have readMinute := @fixedDigits?_padded 1 instant.minute minuteFits
  have readSecond := @fixedDigits?_padded 1 instant.second secondFits
  have ⟨sameSeconds, sameNanoseconds⟩ := instant.second_parts
  simp only [clock?, readHour, readMinute, readSecond, expect?_cons,
    fraction?_fractionText fractionFits, Option.bind_eq_bind,
    Option.bind_some, instant.clock_exists, and_self, ↓reduceIte,
    sameSeconds, sameNanoseconds]

/-- An instant is the second and the nanoseconds that it holds. -/
theorem ofParts?_self (instant : Instant) :
    ofParts? instant.seconds instant.nanoseconds = some instant :=
  dif_pos ⟨instant.nanoseconds_lt, instant.leap_at_end⟩

/-- The text of an instant with a year of four digits is read as it. -/
theorem read?_rfc3339
    {instant : Instant}
    (plain : instant.hasPlainYear = true) :
    read? instant.rfc3339 = some instant := by
  have ⟨isValid, sameDay⟩ :=
    Date.ofDayNumber_spec (instant.seconds / secondsPerDay + epochDay)
  have ⟨monthFits, dayFits⟩ :=
    Date.ofDayNumber_bounds (instant.seconds / secondsPerDay + epochDay)
  have sameSeconds :
      (instant.date.dayNumber - epochDay) * secondsPerDay +
          instant.secondOfDay - 0 =
        instant.seconds := by
    rw [date, sameDay, secondOfDay, secondsPerDay]
    omega
  rw [rfc3339_eq_parts plain, read?, String.toList_ofList]
  simp only [hasPlainYear, Bool.and_eq_true, decide_eq_true_eq] at plain
  have readDate :=
    @date?_padded instant.date isValid
      ⟨plain.1, plain.2, monthFits, dayFits⟩
  have readOffset : offset? offsetText = some (0, []) := rfl
  simp only [readDate, separator?, clock?_clockText, readOffset,
    Option.bind_eq_bind, Option.bind_some, true_or, ↓reduceIte,
    List.isEmpty_nil, sameSeconds, ofParts?_self]

/-- A timestamp that is read begins with a digit. -/
theorem date?_eq_none
    {first : Char}
    (notDigit : Decimal.isDigit first = false)
    (rest : List Char) :
    date? (first :: rest) = none := by
  have noYear : fixedDigits? 4 (first :: rest) = none := by
    simp [fixedDigits?, notDigit]
  rw [date?, noYear]
  rfl

/-- The text of any other instant begins with a sign and is refused. -/
theorem read?_rfc3339_of_not_plain
    {instant : Instant}
    (notPlain : instant.hasPlainYear = false) :
    read? instant.rfc3339 = none := by
  have outside :
      ¬(0 ≤ instant.date.year ∧ instant.date.year ≤ 9999) := by
    simpa [hasPlainYear] using notPlain
  rw [read?, rfc3339, String.toList_ofList, localText, dateText, yearText,
    if_neg outside]
  split
  next =>
    simp [date?_eq_none (show Decimal.isDigit '-' = false by decide)]
  next =>
    simp [date?_eq_none (show Decimal.isDigit '+' = false by decide)]

theorem isSolid_yearText (year : Int) : Text.IsSolid (yearText year) := by
  unfold yearText
  split
  next =>
    exact Decimal.isSolid_padded _ _
  next =>
    rw [Text.isSolid_cons]
    refine ⟨?_, Decimal.isSolid_padded _ _⟩
    split <;> decide

theorem isSolid_fractionText (nanoseconds : Nat) :
    Text.IsSolid (fractionText nanoseconds) := by
  have pointSolid : Text.isBlank '.' = false := by decide
  unfold fractionText
  split_ifs <;> simp [pointSolid]

/-- No blank stands in the text of an instant. -/
theorem trim_rfc3339 (instant : Instant) :
    Text.trim instant.rfc3339 = instant.rfc3339 := by
  have marksSolid :
      Text.isBlank '-' = false ∧ Text.isBlank ':' = false ∧
        Text.isBlank 'T' = false ∧ Text.isBlank '+' = false ∧
        Text.isBlank '0' = false := by
    decide
  apply Text.trim_eq_self_of_isSolid
  simp [rfc3339, localText, dateText, clockText, isSolid_yearText,
    isSolid_fractionText, marksSolid]

end Instant

end RecordQuery
