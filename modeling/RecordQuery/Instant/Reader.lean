import RecordQuery.Decimal.Whole
import RecordQuery.Instant.Basic

namespace RecordQuery

namespace Instant

/-!
# Reading RFC 3339 timestamps

A timestamp is a full date, one of `T`, `t` or a blank, a time to the second
with an optional fraction, and an offset.  A second of sixty is a leap second.
Fraction digits after the ninth are dropped.  The offset is `Z`, `z`, or a sign
(a plus, a hyphen or the minus sign U+2212) with hours and minutes.  The instant
read is in universal time.
-/

/-- Reads exactly `count` digits. -/
def fixedDigits? (count : Nat) (characters : List Char) :
    Option (Nat × List Char) :=
  let taken := characters.take count
  if taken.length = count ∧ taken.all Decimal.isDigit then
    some (Decimal.ofDigits taken, characters.drop count)
  else
    none

/-- Reads one expected character. -/
def expect? (expected : Char) : List Char → Option (List Char)
  | [] => none
  | character :: rest => if character = expected then some rest else none

/-- Reads a date and checks it against the calendar. -/
def date? (characters : List Char) : Option (Date × List Char) := do
  let (year, afterYear) ← fixedDigits? 4 characters
  let beforeMonth ← expect? '-' afterYear
  let (month, afterMonth) ← fixedDigits? 2 beforeMonth
  let beforeDay ← expect? '-' afterMonth
  let (day, rest) ← fixedDigits? 2 beforeDay
  let date : Date := ⟨year, month, day⟩
  if date.isValid then some (date, rest) else none

/-- Reads an optional fraction as nanoseconds. -/
def fraction? : List Char → Option (Nat × List Char)
  | '.' :: characters =>
      let digits := characters.takeWhile Decimal.isDigit
      if digits.isEmpty then
        none
      else
        let kept := digits.take 9
        some
          (Decimal.ofDigits kept * Nat.pow 10 (9 - kept.length),
            characters.dropWhile Decimal.isDigit)
  | characters => some (0, characters)

/-- A time of day: whole seconds and nanoseconds. -/
structure Clock where
  seconds : Nat
  nanoseconds : Nat

/-- Reads a time of day; second sixty becomes the second before, extended. -/
def clock? (characters : List Char) : Option (Clock × List Char) := do
  let (hour, afterHour) ← fixedDigits? 2 characters
  let beforeMinute ← expect? ':' afterHour
  let (minute, afterMinute) ← fixedDigits? 2 beforeMinute
  let beforeSecond ← expect? ':' afterMinute
  let (second, afterSecond) ← fixedDigits? 2 beforeSecond
  let (nanoseconds, rest) ← fraction? afterSecond
  if hour ≤ 23 ∧ minute ≤ 59 ∧ second ≤ 60 then
    some
      ( { seconds := 3600 * hour + 60 * minute + min second 59
          nanoseconds :=
            if second = 60 then 1000000000 + nanoseconds else nanoseconds },
        rest )
  else
    none

/-- The sign of a numeric offset. -/
def offsetSign? (character : Char) : Option Int :=
  if character = '+' then
    some 1
  else if character = '-' ∨ character = '\u2212' then
    some (-1)
  else
    none

/-- Reads an offset as seconds east of universal time. -/
def offset? : List Char → Option (Int × List Char)
  | [] => none
  | first :: characters =>
      if first = 'Z' ∨ first = 'z' then
        some (0, characters)
      else do
        let sign ← offsetSign? first
        let (hours, afterHours) ← fixedDigits? 2 characters
        let beforeMinutes ← expect? ':' afterHours
        let (minutes, rest) ← fixedDigits? 2 beforeMinutes
        if hours ≤ 23 ∧ minutes ≤ 59 then
          some (sign * (3600 * hours + 60 * minutes), rest)
        else
          none

/-- Reads the character between the date and the time. -/
def separator? : List Char → Option (List Char)
  | [] => none
  | character :: rest =>
      if character = 'T' ∨ character = 't' ∨ character = ' ' then
        some rest
      else
        none

/-- Reads a whole text as an RFC 3339 timestamp. -/
def read? (text : String) : Option Instant := do
  let (date, afterDate) ← date? text.toList
  let beforeClock ← separator? afterDate
  let (clock, afterClock) ← clock? beforeClock
  let (offset, rest) ← offset? afterClock
  if rest.isEmpty then
    ofParts?
      ((date.dayNumber - epochDay) * secondsPerDay + clock.seconds - offset)
      clock.nanoseconds
  else
    none

end Instant

end RecordQuery
