namespace RecordQuery.Decimal

/-!
# Whole numbers in decimal

Digits are the ten ASCII digits.  `natural?` reads one or more of them and
nothing else, `integer?` allows one sign in front, and the two bounded readers
add the range of the 64-bit words.  A signed text with a minus is never an
unsigned number, not even `-0`.
-/

/-- Whether a character is one of the ten ASCII digits. -/
def isDigit (character : Char) : Bool :=
  decide ('0' ≤ character) && decide (character ≤ '9')

/-- The value of a digit character. -/
def digitValue (character : Char) : Nat :=
  character.toNat - '0'.toNat

/-- The number that a run of digits writes; the empty run writes zero. -/
def ofDigits (digits : List Char) : Nat :=
  digits.foldl (fun value digit => 10 * value + digitValue digit) 0

/-- Reads one or more digits and nothing else. -/
def natural? (characters : List Char) : Option Nat :=
  if !characters.isEmpty && characters.all isDigit then
    some (ofDigits characters)
  else
    none

/-- Reads an optional sign and one or more digits. -/
def integer? : List Char → Option Int
  | '-' :: digits => (natural? digits).map fun value => -(value : Int)
  | '+' :: digits => (natural? digits).map Int.ofNat
  | digits => (natural? digits).map Int.ofNat

/-- Reads a signed number that fits 64 bits. -/
def int64? (text : String) : Option Int64 :=
  (integer? text.toList).bind fun value =>
    if Int64.minValue.toInt ≤ value ∧ value ≤ Int64.maxValue.toInt then
      some (Int64.ofInt value)
    else
      none

/-- Reads an optional plus and a number that fits 64 bits unsigned. -/
def uint64? (text : String) : Option UInt64 :=
  let digits :=
    match text.toList with
    | '+' :: rest => rest
    | characters => characters
  (natural? digits).bind fun value =>
    if value < UInt64.size then
      some (UInt64.ofNat value)
    else
      none

/-- The digits of a number without leading zeros. -/
def digits (value : Nat) : List Char :=
  Nat.toDigits 10 value

/-- The digits of a number, filled with zeros up to `width`. -/
def padded (width value : Nat) : List Char :=
  List.replicate (width - (digits value).length) '0' ++ digits value

/-- A number as text. -/
def text (value : Nat) : String :=
  String.ofList (digits value)

/-- A signed number as text; only negative numbers carry a sign. -/
def signedText (value : Int) : String :=
  if value < 0 then
    String.ofList ('-' :: digits value.natAbs)
  else
    text value.natAbs

end RecordQuery.Decimal
