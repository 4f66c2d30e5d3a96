import RecordQuery.Binary64.Rounding
import RecordQuery.Decimal.Whole

namespace RecordQuery

namespace Binary64

/-!
# Reading a floating-point number

A number is written as an optional sign, digits with at most one point among or
around them, and an optional exponent: `e` or `E`, an optional sign and digits.
At least one digit stands before the exponent, and at least one after its `e`.
The words `inf`, `infinity` and `nan`, in any ASCII case, are also read.  The
value read is the number nearest to what is written.
-/

/-- The value of an exponent part; the empty part is exponent zero. -/
def exponentPart? : List Char → Option Int
  | [] => some 0
  | marker :: rest =>
      if marker = 'e' ∨ marker = 'E' then
        Decimal.integer? rest
      else
        none

/-- Reads the digits, the point and the exponent of a number without a sign. -/
def unsigned? (negative : Bool) (characters : List Char) : Option Binary64 :=
  let wholePart := characters.takeWhile Decimal.isDigit
  let afterWhole := characters.dropWhile Decimal.isDigit
  let afterPoint :=
    match afterWhole with
    | '.' :: rest => rest
    | _ => []
  let fractionPart := afterPoint.takeWhile Decimal.isDigit
  let remainder :=
    match afterWhole with
    | '.' :: rest => rest.dropWhile Decimal.isDigit
    | rest => rest
  if wholePart.isEmpty && fractionPart.isEmpty then
    none
  else
    (exponentPart? remainder).map fun exponent =>
      ofDecimal negative
        (Decimal.ofDigits (wholePart ++ fractionPart))
        (exponent - fractionPart.length)

/-- Reads one of the words for a number that is not finite. -/
def word? (negative : Bool) (characters : List Char) : Option Binary64 :=
  let word := String.ofList (characters.map Char.toLower)
  if word = "inf" ∨ word = "infinity" then
    some (infinity negative)
  else if word = "nan" then
    some (notANumber negative)
  else
    none

/-- Reads a number or a word without a sign. -/
def signless? (negative : Bool) (characters : List Char) : Option Binary64 :=
  (unsigned? negative characters).or (word? negative characters)

/-- Reads a whole text as a number. -/
def read? (text : String) : Option Binary64 :=
  match text.toList with
  | '-' :: rest => signless? true rest
  | '+' :: rest => signless? false rest
  | characters => signless? false characters

end Binary64

end RecordQuery
