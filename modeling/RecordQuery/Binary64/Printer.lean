import RecordQuery.Binary64.Shortest
import RecordQuery.Decimal.Whole

namespace RecordQuery

namespace Binary64

/-!
# Writing a floating-point number

Both written forms use the shortest decimal that reads back.  The plain form is
always positional and writes a whole number without a point.  The marked form
always shows that a number is not an integer: positional numbers get a point,
and numbers below 10⁻⁴ or from 10¹⁶ on are written with an exponent.
-/

/-- A decimal in positional notation, without a sign. -/
def positional (decimal : Scaled) : List Char :=
  let digits := Decimal.digits decimal.digits
  if 0 ≤ decimal.exponent then
    digits ++ List.replicate decimal.exponent.toNat '0'
  else
    let places := (-decimal.exponent).toNat
    if places < digits.length then
      digits.take (digits.length - places) ++
        '.' :: digits.drop (digits.length - places)
    else
      '0' :: '.' ::
        (List.replicate (places - digits.length) '0' ++ digits)

/-- The exponent of the first digit of a decimal. -/
def Scaled.firstPlace (decimal : Scaled) : Int :=
  decimal.exponent + (Decimal.digits decimal.digits).length - 1

/-- A decimal with one digit before the point and an exponent. -/
def scientific (decimal : Scaled) : List Char :=
  let exponent := (Decimal.signedText decimal.firstPlace).toList
  match Decimal.digits decimal.digits with
  | [] => 'e' :: exponent
  | [digit] => digit :: 'e' :: exponent
  | first :: rest => first :: '.' :: (rest ++ 'e' :: exponent)

/-- Positional notation that always holds a point. -/
def pointed (decimal : Scaled) : List Char :=
  if 0 ≤ decimal.exponent then
    positional decimal ++ ['.', '0']
  else
    positional decimal

/-- The written form of a number, given how its finite magnitudes are written. -/
def written (body : Scaled → List Char) (number : Binary64) : String :=
  if number.isNaN then
    "NaN"
  else
    let sign := if number.isNegative then ['-'] else []
    if number.isFinite then
      String.ofList (sign ++ body (shortest number.magnitude))
    else
      String.ofList (sign ++ ['i', 'n', 'f'])

/-- The plain form: positional, the fewest digits, no needless point. -/
def plain (number : Binary64) : String :=
  written positional number

/-- The marked form: a point always, an exponent far from one. -/
def marked (number : Binary64) : String :=
  written
    (fun decimal =>
      if decimal.digits ≠ 0 ∧
          (decimal.firstPlace < -4 ∨ 16 ≤ decimal.firstPlace) then
        scientific decimal
      else
        pointed decimal)
    number

end Binary64

end RecordQuery
