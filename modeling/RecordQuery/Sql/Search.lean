import RecordQuery.Value

namespace RecordQuery

/-!
# Searching contents

A database searches whatever a column holds.  Numbers are searched as decimal
texts, truth values as the numbers zero and one, timestamps as the texts that
they are stored as, and identifiers by their bytes.  A floating-point number is
written with a point, in fifteen digits at most, and with an exponent if it is
far from one.
-/

namespace Binary64

/-- How many digits of a number are searched. -/
def searchedDigits : Nat := 15

/-- A unit count in the digits that are searched, the last one rounded. -/
def rounded (units : Nat) : Scaled :=
  if units = 0 then
    ⟨0, 0⟩
  else
    let exponent := leadingExponent units + 1 - searchedDigits
    let ratio := stepsRatio units exponent
    Scaled.stripped ⟨(2 * ratio.1 + ratio.2) / (2 * ratio.2), exponent⟩

/-- A decimal with a point after its first digit and a signed exponent. -/
def pointedScientific (decimal : Scaled) : List Char :=
  let sign := if decimal.firstPlace < 0 then '-' else '+'
  let exponent := Decimal.padded 2 decimal.firstPlace.natAbs
  match Decimal.digits decimal.digits with
  | [] => []
  | [digit] => digit :: '.' :: '0' :: 'e' :: sign :: exponent
  | first :: rest => first :: '.' :: (rest ++ 'e' :: sign :: exponent)

/-- The text as which a number that is not a NaN is searched. -/
def searchedText (number : Binary64) : String :=
  let sign := if number.units < 0 then ['-'] else []
  if number.isFinite then
    let decimal := rounded (unitsOfMagnitude number.magnitude)
    if decimal.firstPlace < -4 ∨ searchedDigits ≤ decimal.firstPlace then
      String.ofList (sign ++ pointedScientific decimal)
    else
      String.ofList (sign ++ pointed decimal)
  else
    String.ofList (sign ++ ['I', 'n', 'f'])

end Binary64

namespace Uuid

/-- The sixteen bytes of an identifier, the most significant first. -/
def bytes (uuid : Uuid) : List UInt8 :=
  (List.range 16).map fun (index : Nat) =>
    UInt8.ofNat (uuid.value.toNat >>> (8 * (15 - index)))

end Uuid

namespace Sql

/-- Whether a list occurs in another without gaps. -/
def occursIn {Symbol : Type} [BEq Symbol] (part : List Symbol) :
    List Symbol → Bool
  | [] => part.isEmpty
  | symbol :: rest =>
      part.isPrefixOf (symbol :: rest) || occursIn part rest

/-- What is searched of a content. -/
inductive Searched where
  | text (text : String)
  | bytes (bytes : List UInt8)

/-- Whether a text occurs in what is searched; bytes are those of UTF-8. -/
def Searched.contains (needle : String) : Searched → Bool
  | text haystack => occursIn needle.toList haystack.toList
  | bytes haystack => occursIn needle.toUTF8.toList haystack

end Sql

/-- What is searched of a value, if it is not null. -/
def Value.searched? : Value → Option Sql.Searched
  | .integer value => some (.text (Decimal.signedText value.toInt))
  | .float value =>
      if value.isNaN then none else some (.text value.searchedText)
  | .text value => some (.text value)
  | .boolean value => some (.text (if value then "1" else "0"))
  | .timestamp value => some (.text value.rfc3339)
  | .uuid value => some (.bytes value.bytes)

end RecordQuery
