import RecordQuery.Decimal.Whole
import RecordQuery.Instant.Basic

namespace RecordQuery

namespace Instant

/-!
# Writing instants

`rfc3339` writes an instant in universal time with the offset `+00:00` and no,
three, six or nine fraction digits, as few as keep the value.  A leap second is
written as second sixty.  Years from 0 to 9999 have four digits; all others have
a sign and at least four.  For years of four digits the order of these texts is
the order of the instants.
-/

/-- A year with four digits, or with a sign outside 0 to 9999. -/
def yearText (year : Int) : List Char :=
  if 0 ≤ year ∧ year ≤ 9999 then
    Decimal.padded 4 year.toNat
  else
    (if year < 0 then '-' else '+') :: Decimal.padded 4 year.natAbs

/-- A fraction of a second with as few groups of three digits as keep it. -/
def fractionText (nanoseconds : Nat) : List Char :=
  if nanoseconds = 0 then
    []
  else if nanoseconds % 1000000 = 0 then
    '.' :: Decimal.padded 3 (nanoseconds / 1000000)
  else if nanoseconds % 1000 = 0 then
    '.' :: Decimal.padded 6 (nanoseconds / 1000)
  else
    '.' :: Decimal.padded 9 nanoseconds

/-- The date of an instant, its parts joined by hyphens. -/
def dateText (instant : Instant) : List Char :=
  let date := instant.date
  yearText date.year ++ '-' :: Decimal.padded 2 date.month ++
    '-' :: Decimal.padded 2 date.day

/-- The time of day of an instant to the second. -/
def clockText (instant : Instant) : List Char :=
  Decimal.padded 2 instant.hour ++ ':' :: Decimal.padded 2 instant.minute ++
    ':' :: Decimal.padded 2 instant.second

/-- Date and time of an instant with a fraction as short as it can be. -/
def localText (instant : Instant) : List Char :=
  dateText instant ++ 'T' :: clockText instant ++
    fractionText instant.fraction

/-- An instant as RFC 3339 text in universal time, with a numeric offset. -/
def rfc3339 (instant : Instant) : String :=
  String.ofList (localText instant ++ ['+', '0', '0', ':', '0', '0'])

/-- An instant as RFC 3339 text in universal time, marked with a `Z`. -/
def zulu (instant : Instant) : String :=
  String.ofList (localText instant ++ ['Z'])

/-- An instant as an SQL literal holds it: microseconds, the rest cut off. -/
def sqlText (instant : Instant) : String :=
  String.ofList
    (dateText instant ++ ' ' :: clockText instant ++
      '.' :: Decimal.padded 6 (instant.fraction / 1000)) ++
    " +00:00"

end Instant

end RecordQuery
