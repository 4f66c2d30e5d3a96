namespace RecordQuery

/-!
# The proleptic Gregorian calendar

Days are numbered from the first of January of year zero, which is day zero.
`Date.dayNumber` counts the days before a date, and `Date.ofDayNumber` finds the
date of a day number again; years before zero are negative.
-/

namespace Calendar

/-- Whether a year has a twenty-ninth of February. -/
def isLeapYear (year : Int) : Bool :=
  year % 4 == 0 && (year % 100 != 0 || year % 400 == 0)

/-- The number of days before the first of January of a year. -/
def daysBeforeYear (year : Int) : Int :=
  365 * year + (year + 3) / 4 - (year + 99) / 100 + (year + 399) / 400

/-- The lengths of the twelve months of a year. -/
def monthLengths (leap : Bool) : List Nat :=
  [31, if leap then 29 else 28, 31, 30, 31, 30, 31, 31, 30, 31, 30, 31]

/-- The number of days of a year before one of its months. -/
def daysBeforeMonth (leap : Bool) (month : Nat) : Nat :=
  ((monthLengths leap).take (month - 1)).foldr (· + ·) 0

/-- The number of days of a month. -/
def monthLength (leap : Bool) (month : Nat) : Nat :=
  (monthLengths leap).getD (month - 1) 0

/--
The year that holds a day number.

The average length of a year gives the year or one of its neighbours.
-/
def yearOfDay (day : Int) : Int :=
  let guess := 400 * day / 146097
  if day < daysBeforeYear guess then
    guess - 1
  else if daysBeforeYear (guess + 1) ≤ day then
    guess + 1
  else
    guess

/--
The month and the day of the month after a number of days, both counted from
one, when the months still to come have the given lengths.
-/
def monthAndDay : List Nat → Nat → Nat → Nat × Nat
  | [], month, days => (month, days + 1)
  | length :: later, month, days =>
      if days < length then
        (month, days + 1)
      else
        monthAndDay later (month + 1) (days - length)

end Calendar

/-- A date of the proleptic Gregorian calendar. -/
structure Date where
  year : Int
  month : Nat
  day : Nat
  deriving Repr, DecidableEq

namespace Date

/-- Whether the month and the day exist in the year. -/
def isValid (date : Date) : Bool :=
  decide (1 ≤ date.month) && decide (date.month ≤ 12) &&
    decide (1 ≤ date.day) &&
    decide
      (date.day ≤
        Calendar.monthLength (Calendar.isLeapYear date.year) date.month)

/-- The number of a date's day. -/
def dayNumber (date : Date) : Int :=
  Calendar.daysBeforeYear date.year +
    Calendar.daysBeforeMonth
      (Calendar.isLeapYear date.year) date.month +
    date.day - 1

/-- The date of a day number. -/
def ofDayNumber (day : Int) : Date :=
  let year := Calendar.yearOfDay day
  let monthDay :=
    Calendar.monthAndDay
      (Calendar.monthLengths (Calendar.isLeapYear year)) 1
      (day - Calendar.daysBeforeYear year).toNat
  ⟨year, monthDay.1, monthDay.2⟩

end Date

namespace Calendar

/-- The year before the guess begins no later than the day. -/
theorem daysBeforeYear_guess_sub_one_le (day : Int) :
    daysBeforeYear (400 * day / 146097 - 1) ≤ day := by
  unfold daysBeforeYear
  omega

/-- The second year after the guess begins later than the day. -/
theorem lt_daysBeforeYear_guess_add_two (day : Int) :
    day < daysBeforeYear (400 * day / 146097 + 1 + 1) := by
  unfold daysBeforeYear
  omega

/-- The year found for a day begins no later than the day. -/
theorem daysBeforeYear_yearOfDay_le (day : Int) :
    daysBeforeYear (yearOfDay day) ≤ day := by
  have enough := daysBeforeYear_guess_sub_one_le day
  simp only [yearOfDay]
  split
  · exact enough
  · split <;> omega

/-- The year after the one found for a day begins later than the day. -/
theorem lt_daysBeforeYear_yearOfDay_add_one (day : Int) :
    day < daysBeforeYear (yearOfDay day + 1) := by
  have enough := lt_daysBeforeYear_guess_add_two day
  simp only [yearOfDay]
  split
  · rw [Int.sub_add_cancel]
    assumption
  · split <;> omega

end Calendar

end RecordQuery
