namespace RecordQuery

/-!
# Universally unique identifiers

An identifier is a number of 128 bits.  It is written in lower-case hexadecimal
with hyphens after 8, 12, 16 and 20 digits, and read in four forms: the bare 32
digits, the hyphenated form, the hyphenated form in braces, and the hyphenated
form after `urn:uuid:`.  Digits and the letters of that name are read in either
case.
-/

/-- A universally unique identifier, as a number. -/
structure Uuid where
  value : BitVec 128
  deriving Repr, DecidableEq

namespace Uuid

/-- The value of a hexadecimal digit of either case. -/
def hexValue? (character : Char) : Option Nat :=
  if '0' ≤ character ∧ character ≤ '9' then
    some (character.toNat - '0'.toNat)
  else if 'a' ≤ character ∧ character ≤ 'f' then
    some (character.toNat - 'a'.toNat + 10)
  else if 'A' ≤ character ∧ character ≤ 'F' then
    some (character.toNat - 'A'.toNat + 10)
  else
    none

/-- Reads characters that are all hexadecimal digits. -/
def ofHex? (characters : List Char) : Option Nat :=
  characters.foldlM
    (fun value character =>
      (hexValue? character).map fun digit => 16 * value + digit)
    0

/-- Reads exactly 32 hexadecimal digits. -/
def bare? (characters : List Char) : Option Uuid :=
  if characters.length = 32 then
    (ofHex? characters).map fun value => ⟨BitVec.ofNat 128 value⟩
  else
    none

/-- The characters of the hyphenated form without its hyphens. -/
def withoutHyphens? (characters : List Char) : Option (List Char) :=
  if characters.length = 36 ∧
      characters[8]? = some '-' ∧ characters[13]? = some '-' ∧
      characters[18]? = some '-' ∧ characters[23]? = some '-' then
    some
      (characters.take 8 ++ (characters.drop 9).take 4 ++
        (characters.drop 14).take 4 ++ (characters.drop 19).take 4 ++
        characters.drop 24)
  else
    none

/-- Reads the hyphenated form. -/
def hyphenated? (characters : List Char) : Option Uuid :=
  (withoutHyphens? characters).bind bare?

/-- Reads the hyphenated form between braces. -/
def braced? : List Char → Option Uuid
  | '\x7b' :: rest =>
      if rest.getLast? = some '\x7d' then
        hyphenated? rest.dropLast
      else
        none
  | _ => none

/-- Reads the hyphenated form as a uniform resource name. -/
def named? (characters : List Char) : Option Uuid :=
  if (characters.take 9).map Char.toLower = "urn:uuid:".toList then
    hyphenated? (characters.drop 9)
  else
    none

/-- Reads a whole text as an identifier in one of the four forms. -/
def read? (text : String) : Option Uuid :=
  let characters := text.toList
  (bare? characters).or <|
    (hyphenated? characters).or <|
      (braced? characters).or (named? characters)

/-- The 32 hexadecimal digits of an identifier. -/
def hexDigits (identifier : Uuid) : List Char :=
  let digits := Nat.toDigits 16 identifier.value.toNat
  List.replicate (32 - digits.length) '0' ++ digits

/-- The hyphenated form of an identifier. -/
def text (identifier : Uuid) : String :=
  let digits := identifier.hexDigits
  String.ofList
    (digits.take 8 ++ '-' :: (digits.drop 8).take 4 ++
      '-' :: (digits.drop 12).take 4 ++ '-' :: (digits.drop 16).take 4 ++
      '-' :: digits.drop 20)

end Uuid

end RecordQuery
