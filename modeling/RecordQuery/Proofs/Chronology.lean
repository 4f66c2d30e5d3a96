import Mathlib.Algebra.Ring.Nat
import RecordQuery.Instant.Printer

namespace RecordQuery

/-!
# Timestamps in the order of their texts

A database that keeps timestamps as texts compares them character by character.
For years of four digits this is the order of time: every part of the text up to
the fraction has a fixed width, so the first part that differs decides, and a
fraction that ends early is followed by a plus sign, which comes before every
digit and before the point.

The main statement is `compare_rfc3339`: comparing two texts gives the
chronological order of the instants.
-/

namespace Text

/-- Of two texts that begin with parts of one length the lesser part decides. -/
theorem append_lt_append_of_lt
    {left right : List Char}
    (sameLength : left.length = right.length)
    (less : left < right)
    (leftRest rightRest : List Char) :
    left ++ leftRest < right ++ rightRest := by
  induction left generalizing right with
  | nil =>
      have rightNil : right = [] :=
        List.length_eq_zero_iff.mp sameLength.symm
      subst rightNil
      exact absurd less (List.not_lt_nil [])
  | cons first others inductionHypothesis =>
      cases right with
      | nil =>
          exact absurd less (List.not_lt_nil _)
      | cons second more =>
          have restLength : others.length = more.length := by
            simpa using sameLength
          rw [List.cons_append, List.cons_append, List.cons_lt_cons_iff]
          rcases List.cons_lt_cons_iff.mp less with
              firstLess | ⟨same, restLess⟩
          · exact Or.inl firstLess
          · exact Or.inr ⟨same, inductionHypothesis restLength restLess⟩

theorem compare_eq_lt
    {left right : String}
    (less : left < right) :
    compare left right = .lt :=
  compareOfLessAndEq_eq_lt.mpr less

end Text

namespace Decimal

/-- The last digit of a padded number stands apart from the others. -/
theorem padded_succ_succ (width value : Nat) :
    padded (width + 2) value =
      padded (width + 1) (value / 10) ++ [Nat.digitChar (value % 10)] := by
  by_cases small : value < 10
  · have quotient : value / 10 = 0 := Nat.div_eq_of_lt small
    have remainder : value % 10 = value := Nat.mod_eq_of_lt small
    simp [padded, digits, quotient, remainder,
      Nat.toDigits_of_lt_base small, List.replicate_succ']
  · have large : 10 ≤ value := Nat.le_of_not_lt small
    simp [padded, digits, Nat.toDigits_of_base_le (by decide) large]

theorem length_padded
    {width value : Nat}
    (fits : value < 10 ^ (width + 1)) :
    (padded (width + 1) value).length = width + 1 := by
  have short : (digits value).length ≤ width + 1 :=
    (Nat.length_toDigits_le_iff (by decide) (Nat.succ_pos width)).mpr fits
  simp only [padded, List.length_append, List.length_replicate]
  omega

theorem digitChar_lt_digitChar
    {left right : Nat}
    (isDigit : right < 10)
    (less : left < right) :
    Nat.digitChar left < Nat.digitChar right := by
  have onDigits :
      ∀ second : Fin 10, ∀ first : Fin 10, first < second →
        Nat.digitChar first < Nat.digitChar second := by
    decide
  exact onDigits ⟨right, isDigit⟩ ⟨left, Nat.lt_trans less isDigit⟩ less

theorem padded_lt_padded
    {width left right : Nat}
    (fits : right < 10 ^ (width + 1))
    (less : left < right) :
    padded (width + 1) left < padded (width + 1) right := by
  induction width generalizing left right with
  | zero =>
      have isDigit : right < 10 := by simpa using fits
      have leftDigit : left < 10 := Nat.lt_trans less isDigit
      simpa [padded, digits, Nat.toDigits_of_lt_base isDigit,
        Nat.toDigits_of_lt_base leftDigit, List.cons_lt_cons_iff] using
        digitChar_lt_digitChar isDigit less
  | succ width inductionHypothesis =>
      have rightFits : right / 10 < 10 ^ (width + 1) := by
        rw [Nat.div_lt_iff_lt_mul (by decide), ← Nat.pow_succ]
        exact fits
      have leftFits : left / 10 < 10 ^ (width + 1) :=
        Nat.lt_of_le_of_lt (Nat.div_le_div_right (Nat.le_of_lt less))
          rightFits
      rw [padded_succ_succ, padded_succ_succ]
      rcases Nat.lt_or_ge (left / 10) (right / 10) with
          lessBefore | notLess
      · apply Text.append_lt_append_of_lt _
          (inductionHypothesis rightFits lessBefore)
        rw [length_padded leftFits, length_padded rightFits]
      · have sameBefore : left / 10 = right / 10 := by omega
        have lessDigit : left % 10 < right % 10 := by omega
        rw [sameBefore]
        apply List.append_left_lt
        rw [List.cons_lt_cons_iff]
        exact Or.inl
          (digitChar_lt_digitChar (Nat.mod_lt _ (by decide)) lessDigit)

/-- The last three digits of a padded number stand apart from the others. -/
theorem padded_add_three (width value : Nat) :
    padded (width + 4) value =
      padded (width + 1) (value / 1000) ++ padded 3 (value % 1000) := by
  have hundreds : value / 100 % 10 = value % 1000 / 100 := by omega
  have tens : value / 10 % 10 = value % 1000 / 10 % 10 := by omega
  have ones : value % 10 = value % 1000 % 10 := by omega
  have firstOfThree :
      padded 1 (value % 1000 / 100) =
        [Nat.digitChar (value % 1000 / 100)] := by
    have isDigit : value % 1000 / 100 < 10 := by omega
    simp [padded, digits, Nat.toDigits_of_lt_base isDigit]
  rw [padded_succ_succ (width + 2), padded_succ_succ (width + 1),
    padded_succ_succ width, padded_succ_succ 1, padded_succ_succ 0]
  simp only [Nat.div_div_eq_div_mul, Nat.reduceMul, firstOfThree, hundreds,
    ← tens, ← ones, List.append_assoc, List.cons_append, List.nil_append]

end Decimal

namespace Calendar

theorem daysBeforeYear_le_daysBeforeYear
    {left right : Int}
    (ordered : left ≤ right) :
    daysBeforeYear left ≤ daysBeforeYear right := by
  unfold daysBeforeYear
  omega

theorem yearOfDay_le_yearOfDay
    {left right : Int}
    (ordered : left ≤ right) :
    yearOfDay left ≤ yearOfDay right := by
  apply Int.not_lt.mp
  intro later
  have beginsBefore :
      daysBeforeYear (yearOfDay right + 1) ≤
        daysBeforeYear (yearOfDay left) :=
    daysBeforeYear_le_daysBeforeYear later
  have leftBegins := daysBeforeYear_yearOfDay_le left
  have rightEnds := lt_daysBeforeYear_yearOfDay_add_one right
  omega

/-- The months of a year take up all its days. -/
theorem sum_monthLengths (year : Int) :
    daysBeforeYear year + (monthLengths (isLeapYear year)).sum =
      daysBeforeYear (year + 1) := by
  cases leap : isLeapYear year
  · simp only [isLeapYear, Bool.and_eq_false_iff, Bool.or_eq_false_iff,
      beq_eq_false_iff_ne, bne_eq_false_iff_eq] at leap
    simp only [monthLengths, daysBeforeYear, List.sum_cons, List.sum_nil]
    grind
  · simp only [isLeapYear, Bool.and_eq_true, Bool.or_eq_true,
      beq_iff_eq, bne_iff_ne] at leap
    simp only [monthLengths, daysBeforeYear, List.sum_cons, List.sum_nil]
    grind

theorem le_monthAndDay (lengths : List Nat) (month days : Nat) :
    month ≤ (monthAndDay lengths month days).1 := by
  induction lengths generalizing month days with
  | nil =>
      exact Nat.le_refl month
  | cons length later inductionHypothesis =>
      simp only [monthAndDay]
      split
      · exact Nat.le_refl month
      · exact Nat.le_trans (Nat.le_succ month) (inductionHypothesis _ _)

/-- Of two days of a year the later has a later month, or day of the month. -/
theorem monthAndDay_lt_monthAndDay
    (lengths : List Nat)
    (month : Nat)
    {left right : Nat}
    (less : left < right) :
    (monthAndDay lengths month left).1 <
        (monthAndDay lengths month right).1 ∨
      (monthAndDay lengths month left).1 =
          (monthAndDay lengths month right).1 ∧
        (monthAndDay lengths month left).2 <
          (monthAndDay lengths month right).2 := by
  induction lengths generalizing month left right with
  | nil =>
      exact Or.inr ⟨rfl, Nat.succ_lt_succ less⟩
  | cons length later inductionHypothesis =>
      by_cases rightHere : right < length
      · have leftHere : left < length := Nat.lt_trans less rightHere
        simpa [monthAndDay, leftHere, rightHere] using less
      · by_cases leftHere : left < length
        · simp only [monthAndDay, leftHere, rightHere, ↓reduceIte]
          exact Or.inl (le_monthAndDay later (month + 1) (right - length))
        · simp only [monthAndDay, leftHere, rightHere, ↓reduceIte]
          have lessAfter : left - length < right - length := by omega
          exact inductionHypothesis (month + 1) lessAfter

/-- A day within the listed months has one of them and a day within it. -/
theorem monthAndDay_bounds
    {lengths : List Nat}
    {bound : Nat}
    (short : ∀ length ∈ lengths, length ≤ bound)
    (month : Nat)
    {days : Nat}
    (within : days < lengths.sum) :
    (monthAndDay lengths month days).1 < month + lengths.length ∧
      (monthAndDay lengths month days).2 ≤ bound := by
  induction lengths generalizing month days with
  | nil =>
      exact absurd within (Nat.not_lt_zero days)
  | cons length later inductionHypothesis =>
      rw [List.sum_cons] at within
      by_cases here : days < length
      · simp only [monthAndDay, here, ↓reduceIte, List.length_cons]
        exact ⟨by omega,
          Nat.le_trans here (short length List.mem_cons_self)⟩
      · simp only [monthAndDay, here, ↓reduceIte, List.length_cons]
        have laterShort : ∀ other ∈ later, other ≤ bound :=
          fun other member =>
            short other (List.mem_cons_of_mem length member)
        have bounds :=
          inductionHypothesis laterShort (month + 1)
            (show days - length < later.sum by omega)
        exact ⟨by omega, bounds.2⟩

end Calendar

namespace Date

/-- One date before another, by year, month and day. -/
def IsBefore (left right : Date) : Prop :=
  left.year < right.year ∨
    left.year = right.year ∧
      (left.month < right.month ∨
        left.month = right.month ∧ left.day < right.day)

/-- The date of an earlier day comes before the date of a later one. -/
theorem ofDayNumber_isBefore_ofDayNumber
    {left right : Int}
    (less : left < right) :
    (ofDayNumber left).IsBefore (ofDayNumber right) := by
  rcases Int.lt_or_eq_of_le
      (Calendar.yearOfDay_le_yearOfDay (Int.le_of_lt less)) with
      lessYear | sameYear
  · exact Or.inl lessYear
  · have begins := Calendar.daysBeforeYear_yearOfDay_le left
    have lessDay :
        (left - Calendar.daysBeforeYear
            (Calendar.yearOfDay right)).toNat <
          (right - Calendar.daysBeforeYear
            (Calendar.yearOfDay right)).toNat := by
      rw [← sameYear]
      omega
    refine Or.inr ⟨sameYear, ?_⟩
    simp only [ofDayNumber, sameYear]
    exact Calendar.monthAndDay_lt_monthAndDay _ 1 lessDay

/-- The month of a day number has two digits, and so has its day. -/
theorem ofDayNumber_bounds (day : Int) :
    (ofDayNumber day).month < 100 ∧ (ofDayNumber day).day < 100 := by
  have begins := Calendar.daysBeforeYear_yearOfDay_le day
  have ends := Calendar.lt_daysBeforeYear_yearOfDay_add_one day
  have months := Calendar.sum_monthLengths (Calendar.yearOfDay day)
  have short :
      ∀ length ∈
          Calendar.monthLengths
            (Calendar.isLeapYear (Calendar.yearOfDay day)),
        length ≤ 31 := by
    cases Calendar.isLeapYear (Calendar.yearOfDay day) <;> decide
  have bounds :=
    Calendar.monthAndDay_bounds short 1
      (show (day - Calendar.daysBeforeYear
          (Calendar.yearOfDay day)).toNat <
        (Calendar.monthLengths
          (Calendar.isLeapYear (Calendar.yearOfDay day))).sum by omega)
  have twelve :
      (Calendar.monthLengths
        (Calendar.isLeapYear (Calendar.yearOfDay day))).length = 12 := rfl
  simp only [ofDayNumber]
  omega

end Date

namespace Decimal

/--
Texts that begin with padded numbers are in the order of the numbers; equal
numbers leave the decision to what follows.
-/
theorem padded_append_lt_padded_append
    {width left right : Nat}
    {leftRest rightRest : List Char}
    (leftFits : left < 10 ^ (width + 1))
    (rightFits : right < 10 ^ (width + 1))
    (less : left < right ∨ left = right ∧ leftRest < rightRest) :
    padded (width + 1) left ++ leftRest <
      padded (width + 1) right ++ rightRest := by
  rcases less with lessNumber | ⟨same, lessRest⟩
  · apply Text.append_lt_append_of_lt _ (padded_lt_padded rightFits lessNumber)
    rw [length_padded leftFits, length_padded rightFits]
  · subst same
    exact List.append_left_lt lessRest

/-- A plus sign comes before every digit. -/
theorem plus_lt_padded_append
    {width value : Nat}
    (fits : value < 10 ^ (width + 1))
    (afterPlus rest : List Char) :
    '+' :: afterPlus < padded (width + 1) value ++ rest := by
  induction width generalizing value rest with
  | zero =>
      have isDigit : value < 10 := by simpa using fits
      have plusFirst : ∀ digit : Fin 10, '+' < Nat.digitChar digit := by
        decide
      simp only [padded, digits, Nat.toDigits_of_lt_base isDigit,
        List.length_singleton, Nat.sub_self, List.replicate_zero,
        List.nil_append, List.cons_append, List.cons_lt_cons_iff]
      exact Or.inl (plusFirst ⟨value, isDigit⟩)
  | succ width inductionHypothesis =>
      have fitsBefore : value / 10 < 10 ^ (width + 1) := by
        rw [Nat.div_lt_iff_lt_mul (by decide), ← Nat.pow_succ]
        exact fits
      rw [padded_succ_succ, List.append_assoc]
      exact inductionHypothesis fitsBefore _

end Decimal

namespace Instant

/-- The offset at the end of a text. -/
def offsetText : List Char := ['+', '0', '0', ':', '0', '0']

/--
A number below a power of a thousand in groups of three digits, the groups of
zeros at its end left out, and the offset after it.
-/
def groupsText : Nat → Nat → List Char
  | 0, _ => offsetText
  | groups + 1, value =>
      if value = 0 then
        offsetText
      else
        Decimal.padded 3 (value / 1000 ^ groups) ++
          groupsText groups (value % 1000 ^ groups)

/-- Leaving out groups of zeros keeps the order of numbers. -/
theorem groupsText_lt_groupsText
    {groups left right : Nat}
    (fits : right < 1000 ^ groups)
    (less : left < right) :
    groupsText groups left < groupsText groups right := by
  induction groups generalizing left right with
  | zero =>
      rw [Nat.pow_zero] at fits
      omega
  | succ groups inductionHypothesis =>
      have positive : 0 < 1000 ^ groups := Nat.pow_pos (by decide)
      have rightFits : right / 1000 ^ groups < 10 ^ 3 := by
        have thousand : 10 ^ 3 = 1000 := by decide
        rw [Nat.pow_succ, Nat.mul_comm] at fits
        rw [thousand, Nat.div_lt_iff_lt_mul positive]
        exact fits
      have rightNonzero : right ≠ 0 := by omega
      by_cases leftZero : left = 0
      · simp only [groupsText, leftZero, rightNonzero, ↓reduceIte]
        exact Decimal.plus_lt_padded_append rightFits _ _
      · simp only [groupsText, leftZero, rightNonzero, ↓reduceIte]
        have ordered : left / 1000 ^ groups ≤ right / 1000 ^ groups :=
          Nat.div_le_div_right (Nat.le_of_lt less)
        apply Decimal.padded_append_lt_padded_append
          (Nat.lt_of_le_of_lt ordered rightFits) rightFits
        rcases Nat.lt_or_eq_of_le ordered with lessGroup | sameGroup
        · exact Or.inl lessGroup
        · refine Or.inr ⟨sameGroup,
            inductionHypothesis (Nat.mod_lt right positive) ?_⟩
          have leftParts := Nat.div_add_mod left (1000 ^ groups)
          have rightParts := Nat.div_add_mod right (1000 ^ groups)
          rw [sameGroup] at leftParts
          omega

/-- A fraction is written in groups of three digits after a point. -/
theorem fractionText_append_offsetText
    (nanoseconds : Nat) :
    fractionText nanoseconds ++ offsetText =
      if nanoseconds = 0 then
        offsetText
      else
        '.' :: groupsText 3 nanoseconds := by
  by_cases zero : nanoseconds = 0
  · simp [fractionText, zero]
  have milliseconds : nanoseconds / 1000 / 1000 = nanoseconds / 1000000 := by
    omega
  have microseconds :
      nanoseconds / 1000 % 1000 = nanoseconds % 1000000 / 1000 := by
    omega
  have rest : nanoseconds % 1000 = nanoseconds % 1000000 % 1000 := by
    omega
  by_cases wholeMillis : nanoseconds % 1000000 = 0
  · simp [fractionText, groupsText, zero, wholeMillis]
  by_cases wholeMicros : nanoseconds % 1000 = 0
  · have wholeRest : nanoseconds % 1000000 % 1000 = 0 := rest ▸ wholeMicros
    simp [fractionText, groupsText, zero, wholeMillis, wholeMicros,
      wholeRest, Decimal.padded_add_three 2, milliseconds, microseconds]
  · simp [fractionText, groupsText, zero, wholeMillis, wholeMicros,
      Decimal.padded_add_three 5, Decimal.padded_add_three 2,
      milliseconds, microseconds, ← rest]

/-- Whether the year has four digits and no sign: from 0 to 9999. -/
def hasPlainYear (instant : Instant) : Bool :=
  decide (0 ≤ instant.date.year) && decide (instant.date.year ≤ 9999)

/-- The chronological order of two instants. -/
def order (left right : Instant) : Ordering :=
  if left.isBefore right then
    .lt
  else if right.isBefore left then
    .gt
  else
    .eq

/-- The time of day of an instant as written is before that of another. -/
def ClockIsBefore (left right : Instant) : Prop :=
  left.hour < right.hour ∨ left.hour = right.hour ∧
    (left.minute < right.minute ∨ left.minute = right.minute ∧
      (left.second < right.second ∨ left.second = right.second ∧
        left.fraction < right.fraction))

/--
Of two instants the earlier has the earlier date, or the same date and the
earlier time of day.  A leap second is second sixty, after every second that
begins its minute.
-/
theorem date_or_clock_isBefore
    {left right : Instant}
    (before : left.isBefore right = true) :
    left.date.IsBefore right.date ∨
      left.date = right.date ∧ left.ClockIsBefore right := by
  have leftLeap := left.leap_at_end
  have leftBound := left.nanoseconds_lt
  have rightBound := right.nanoseconds_lt
  simp only [isBefore, Bool.or_eq_true, Bool.and_eq_true,
    decide_eq_true_eq, beq_iff_eq] at before
  rcases Int.lt_or_le (left.seconds / secondsPerDay)
      (right.seconds / secondsPerDay) with lessDay | notLessDay
  · left
    apply Date.ofDayNumber_isBefore_ofDayNumber
    omega
  · have sameDay :
        left.seconds / secondsPerDay = right.seconds / secondsPerDay := by
      unfold secondsPerDay at notLessDay ⊢
      omega
    refine Or.inr ⟨by rw [date, sameDay, date], ?_⟩
    simp only [ClockIsBefore, hour, minute, second, fraction, secondOfDay]
    unfold secondsPerDay at sameDay ⊢
    omega

/-- The offset ends the text of an instant, after its parts. -/
theorem rfc3339_eq_parts
    {instant : Instant}
    (plain : instant.hasPlainYear = true) :
    instant.rfc3339 =
      String.ofList
        (Decimal.padded 4 instant.date.year.toNat ++
          '-' :: (Decimal.padded 2 instant.date.month ++
            '-' :: (Decimal.padded 2 instant.date.day ++
              'T' :: (Decimal.padded 2 instant.hour ++
                ':' :: (Decimal.padded 2 instant.minute ++
                  ':' :: (Decimal.padded 2 instant.second ++
                    (fractionText instant.fraction ++ offsetText))))))) := by
  simp only [hasPlainYear, Bool.and_eq_true, decide_eq_true_eq] at plain
  simp [rfc3339, localText, dateText, clockText, yearText, offsetText, plain]

/-- The parts of the time of day have two digits, and the fraction nine. -/
theorem clock_bounds (instant : Instant) :
    instant.hour < 100 ∧ instant.minute < 100 ∧ instant.second < 100 ∧
      instant.fraction < 1000000000 := by
  have bound := instant.nanoseconds_lt
  simp only [hour, minute, second, fraction, secondOfDay, secondsPerDay]
  omega

/-- Lesser fractions come first, whatever groups of zeros are left out. -/
theorem fractionText_lt_fractionText
    {left right : Nat}
    (fits : right < 1000000000)
    (less : left < right) :
    fractionText left ++ offsetText < fractionText right ++ offsetText := by
  have rightNonzero : right ≠ 0 := by omega
  rw [fractionText_append_offsetText, fractionText_append_offsetText,
    if_neg rightNonzero]
  split
  · rw [offsetText, List.cons_lt_cons_iff]
    exact Or.inl (by decide)
  · rw [List.cons_lt_cons_self]
    exact groupsText_lt_groupsText fits less

/-- The text of an earlier instant comes before the text of a later one. -/
theorem rfc3339_lt_rfc3339
    {left right : Instant}
    (leftPlain : left.hasPlainYear = true)
    (rightPlain : right.hasPlainYear = true)
    (before : left.isBefore right = true) :
    left.rfc3339 < right.rfc3339 := by
  obtain ⟨leftMonth, leftDay⟩ :
      left.date.month < 100 ∧ left.date.day < 100 :=
    Date.ofDayNumber_bounds _
  obtain ⟨rightMonth, rightDay⟩ :
      right.date.month < 100 ∧ right.date.day < 100 :=
    Date.ofDayNumber_bounds _
  obtain ⟨leftHour, leftMinute, leftSecond, -⟩ := left.clock_bounds
  obtain ⟨rightHour, rightMinute, rightSecond, rightFraction⟩ :=
    right.clock_bounds
  have ordered := date_or_clock_isBefore before
  rw [rfc3339_eq_parts leftPlain, rfc3339_eq_parts rightPlain,
    String.lt_iff, String.toList_ofList, String.toList_ofList]
  simp only [hasPlainYear, Bool.and_eq_true, decide_eq_true_eq]
    at leftPlain rightPlain
  -- Each part either decides or is equal and leaves the decision to the rest.
  apply Decimal.padded_append_lt_padded_append (by omega) (by omega)
  rw [List.cons_lt_cons_self]
  rcases ordered with earlierDate | ⟨sameDate, earlierClock⟩
  · rcases earlierDate with lessYear | ⟨sameYear, lessInYear⟩
    · exact Or.inl (by omega)
    refine Or.inr ⟨by rw [sameYear], ?_⟩
    apply Decimal.padded_append_lt_padded_append leftMonth rightMonth
    rw [List.cons_lt_cons_self]
    rcases lessInYear with lessMonth | ⟨sameMonth, lessDay⟩
    · exact Or.inl lessMonth
    · exact Or.inr ⟨sameMonth,
        Decimal.padded_append_lt_padded_append leftDay rightDay
          (Or.inl lessDay)⟩
  · refine Or.inr ⟨by rw [sameDate], ?_⟩
    rw [sameDate]
    apply List.append_left_lt
    rw [List.cons_lt_cons_self]
    apply List.append_left_lt
    rw [List.cons_lt_cons_self]
    apply Decimal.padded_append_lt_padded_append leftHour rightHour
    rw [List.cons_lt_cons_self]
    refine earlierClock.imp_right fun ⟨sameHour, lessInHour⟩ =>
      ⟨sameHour, ?_⟩
    apply Decimal.padded_append_lt_padded_append leftMinute rightMinute
    rw [List.cons_lt_cons_self]
    refine lessInHour.imp_right fun ⟨sameMinute, lessInMinute⟩ =>
      ⟨sameMinute, ?_⟩
    apply Decimal.padded_append_lt_padded_append leftSecond rightSecond
    exact lessInMinute.imp_right fun ⟨sameSecond, lessFraction⟩ =>
      ⟨sameSecond, fractionText_lt_fractionText rightFraction lessFraction⟩

theorem isBefore_asymm
    {left right : Instant}
    (before : left.isBefore right = true) :
    right.isBefore left = false := by
  simp only [isBefore, Bool.or_eq_true, Bool.and_eq_true,
    Bool.or_eq_false_iff, Bool.and_eq_false_iff, decide_eq_true_eq,
    decide_eq_false_iff_not, beq_iff_eq, beq_eq_false_iff_ne] at before ⊢
  omega

/-- For years of four digits the order of texts is the order of time. -/
theorem compare_rfc3339
    {left right : Instant}
    (leftPlain : left.hasPlainYear = true)
    (rightPlain : right.hasPlainYear = true) :
    compare left.rfc3339 right.rfc3339 = left.order right := by
  rcases isBefore_or_eq_or_isBefore left right with before | same | after
  · have less := rfc3339_lt_rfc3339 leftPlain rightPlain before
    simp [order, before, Text.compare_eq_lt less]
  · subst same
    simp [order, isBefore_self]
  · have less := rfc3339_lt_rfc3339 rightPlain leftPlain after
    rw [Std.OrientedOrd.eq_swap, Text.compare_eq_lt less]
    simp [order, after, isBefore_asymm after]

end Instant

end RecordQuery
