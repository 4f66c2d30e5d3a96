import RecordQuery.Decimal.Whole

namespace RecordQuery.Json

/-!
# Reading JSON

The reader keeps what a strict consumer needs to decide for itself: numbers stay
as they are written, objects keep repeated names, and a text is a list of code
points, since an escape may write half of a surrogate pair, which is no
character.  `Value.text?` is the text of such a list if all of it are characters.
-/

/-- A text as written: code points, lone surrogates among them. -/
abbrev CodePoints := List Nat

/-- A JSON value. -/
inductive Value where
  | null
  | boolean (value : Bool)
  /-- A number in its written form. -/
  | number (written : List Char)
  | text (codePoints : CodePoints)
  | array (members : List Value)
  /-- The members in order, repeated names included. -/
  | object (members : List (CodePoints × Value))

/-- The text of code points that are all characters. -/
def textOf? (codePoints : CodePoints) : Option String :=
  (codePoints.mapM fun codePoint =>
    if Nat.isValidChar codePoint then
      some (Char.ofNat codePoint)
    else
      none).map String.ofList

/-- Characters without the blanks that JSON allows in front. -/
def skipBlanks (characters : List Char) : List Char :=
  characters.dropWhile fun character =>
    character == ' ' || character == '\t' || character == '\n' ||
      character == '\r'

/-- The value of a hexadecimal digit of either case. -/
def hexValue? (character : Char) : Option Nat :=
  if '0' ≤ character ∧ character ≤ '9' then
    some (character.toNat - 48)
  else if 'a' ≤ character ∧ character ≤ 'f' then
    some (character.toNat - 87)
  else if 'A' ≤ character ∧ character ≤ 'F' then
    some (character.toNat - 55)
  else
    none

/-- Reads four hexadecimal digits. -/
def hexFour? : List Char → Option (Nat × List Char)
  | first :: second :: third :: fourth :: rest => do
      let a ← hexValue? first
      let b ← hexValue? second
      let c ← hexValue? third
      let d ← hexValue? fourth
      some (((a * 16 + b) * 16 + c) * 16 + d, rest)
  | _ => none

/-- The code point that a one-letter escape writes. -/
def shortEscape? (character : Char) : Option Nat :=
  match character with
  | '\x22' => some 0x22
  | '\\' => some 0x5C
  | '/' => some 0x2F
  | 'b' => some 0x08
  | 'f' => some 0x0C
  | 'n' => some 0x0A
  | 'r' => some 0x0D
  | 't' => some 0x09
  | _ => none

/-- A code point in front of a text; the halves of a pair become one. -/
def joinPair (codePoint : Nat) : CodePoints → CodePoints
  | [] => [codePoint]
  | next :: rest =>
      if 0xD800 ≤ codePoint ∧ codePoint < 0xDC00 ∧
          0xDC00 ≤ next ∧ next < 0xE000 then
        (0x10000 + (codePoint - 0xD800) * 0x400 + (next - 0xDC00)) :: rest
      else
        codePoint :: next :: rest

/-- Reads a text after its first quotation mark, `fuel` bounding its length. -/
def textBody? : Nat → List Char → Option (CodePoints × List Char)
  | 0, _ => none
  | _ + 1, [] => none
  | fuel + 1, character :: rest =>
      if character = '\x22' then
        some ([], rest)
      else if character.toNat < 32 then
        none
      else if character = '\\' then
        match rest with
        | [] => none
        | escape :: afterEscape =>
            if escape = 'u' then
              match hexFour? afterEscape with
              | none => none
              | some (codePoint, remainder) =>
                  (textBody? fuel remainder).map fun tail =>
                    (joinPair codePoint tail.1, tail.2)
            else
              match shortEscape? escape with
              | none => none
              | some codePoint =>
                  (textBody? fuel afterEscape).map fun tail =>
                    (codePoint :: tail.1, tail.2)
      else
        (textBody? fuel rest).map fun tail =>
          (character.toNat :: tail.1, tail.2)

/-- Reads one or more digits. -/
def digits? (characters : List Char) : Option (List Char × List Char) :=
  let digits := characters.takeWhile Decimal.isDigit
  if digits.isEmpty then
    none
  else
    some (digits, characters.dropWhile Decimal.isDigit)

/-- Reads the whole part of a number, which has no needless zero in front. -/
def wholePart? : List Char → Option (List Char × List Char)
  | '0' :: rest => some (['0'], rest)
  | characters => digits? characters

/-- Reads the fraction of a number if there is one. -/
def fractionPart? : List Char → Option (List Char × List Char)
  | '.' :: rest =>
      (digits? rest).map fun part => ('.' :: part.1, part.2)
  | characters => some ([], characters)

/-- Reads the digits of an exponent, maybe after a sign. -/
def signedDigits? : List Char → Option (List Char × List Char)
  | '+' :: rest => (digits? rest).map fun part => ('+' :: part.1, part.2)
  | '-' :: rest => (digits? rest).map fun part => ('-' :: part.1, part.2)
  | characters => digits? characters

/-- Reads the exponent of a number if there is one. -/
def exponentPart? : List Char → Option (List Char × List Char)
  | 'e' :: rest =>
      (signedDigits? rest).map fun part => ('e' :: part.1, part.2)
  | 'E' :: rest =>
      (signedDigits? rest).map fun part => ('E' :: part.1, part.2)
  | characters => some ([], characters)

/-- Reads a number without a sign. -/
def unsigned? (characters : List Char) : Option (List Char × List Char) := do
  let (whole, afterWhole) ← wholePart? characters
  let (fraction, afterFraction) ← fractionPart? afterWhole
  let (exponent, rest) ← exponentPart? afterFraction
  some (whole ++ fraction ++ exponent, rest)

/-- Reads a number. -/
def number? : List Char → Option (List Char × List Char)
  | '-' :: rest => (unsigned? rest).map fun part => ('-' :: part.1, part.2)
  | characters => unsigned? characters

/-- Reads a word. -/
def word? (word : String) (result : Value) (characters : List Char) :
    Option (Value × List Char) :=
  if word.toList.isPrefixOf characters then
    some (result, characters.drop word.length)
  else
    none

mutual

/-- Reads a value; every step of the recursion uses a character. -/
def value? : Nat → List Char → Option (Value × List Char)
  | 0, _ => none
  | fuel + 1, characters =>
      match skipBlanks characters with
      | [] => none
      | '\x22' :: rest =>
          (textBody? (rest.length + 1) rest).map fun part =>
            (.text part.1, part.2)
      | '[' :: rest =>
          match skipBlanks rest with
          | ']' :: after => some (.array [], after)
          | _ =>
              (members? fuel rest).map fun part =>
                (.array part.1, part.2)
      | '\x7b' :: rest =>
          match skipBlanks rest with
          | '\x7d' :: after => some (.object [], after)
          | _ =>
              (named? fuel rest).map fun part =>
                (.object part.1, part.2)
      | 'n' :: rest => word? "null" .null ('n' :: rest)
      | 't' :: rest => word? "true" (.boolean true) ('t' :: rest)
      | 'f' :: rest => word? "false" (.boolean false) ('f' :: rest)
      | start =>
          (number? start).map fun part => (.number part.1, part.2)

/-- Reads the members of an array, up to its end. -/
def members? : Nat → List Char → Option (List Value × List Char)
  | 0, _ => none
  | fuel + 1, characters =>
      match value? fuel characters with
      | none => none
      | some (first, rest) =>
          match skipBlanks rest with
          | ']' :: after => some ([first], after)
          | ',' :: after =>
              (members? fuel after).map fun part =>
                (first :: part.1, part.2)
          | _ => none

/-- Reads the members of an object, up to its end. -/
def named? : Nat → List Char →
    Option (List (CodePoints × Value) × List Char)
  | 0, _ => none
  | fuel + 1, characters =>
      match skipBlanks characters with
      | '\x22' :: inside =>
          match textBody? (inside.length + 1) inside with
          | none => none
          | some (name, afterName) =>
              match skipBlanks afterName with
              | ':' :: afterColon =>
                  match value? fuel afterColon with
                  | none => none
                  | some (first, rest) =>
                      match skipBlanks rest with
                      | '\x7d' :: after => some ([(name, first)], after)
                      | ',' :: after =>
                          (named? fuel after).map fun part =>
                            ((name, first) :: part.1, part.2)
                      | _ => none
              | _ => none
      | _ => none

end

/-- Reads a whole text as one value with blanks around it. -/
def read? (text : String) : Option Value :=
  let characters := text.toList
  match value? (2 * characters.length + 2) characters with
  | none => none
  | some (value, rest) =>
      if (skipBlanks rest).isEmpty then some value else none

end RecordQuery.Json
