import RecordQuery.Decimal.Whole
import RecordQuery.Text.Cut

namespace RecordQuery.Json

/-!
# Writing JSON

Texts are quoted with the short escapes where JSON has them; other control
characters below U+0020 are written with four hexadecimal digits, and every
other character stands as it is.  Nothing is written between the parts.
-/

/-- A character as it stands inside a quoted text. -/
def quotedChar (character : Char) : List Char :=
  if character = '\x22' ∨ character = '\\' then
    ['\\', character]
  else if character = '\x08' then
    ['\\', 'b']
  else if character = '\t' then
    ['\\', 't']
  else if character = '\n' then
    ['\\', 'n']
  else if character = '\x0c' then
    ['\\', 'f']
  else if character = '\r' then
    ['\\', 'r']
  else if character.toNat < 32 then
    let digits := Nat.toDigits 16 character.toNat
    '\\' :: 'u' :: (List.replicate (4 - digits.length) '0' ++ digits)
  else
    [character]

/-- A quoted text. -/
def quoted (text : String) : String :=
  String.ofList
    ('\x22' :: (text.toList.flatMap quotedChar ++ ['\x22']))

/-- A list of written members. -/
def list (members : List String) : String :=
  "[" ++ Text.join "," members ++ "]"

/-- A record of named, written members. -/
def record (members : List (String × String)) : String :=
  "\x7b" ++
    Text.join "," (members.map fun member =>
      quoted member.1 ++ ":" ++ member.2) ++
    "\x7d"

/-- A written number. -/
def number (value : Nat) : String :=
  Decimal.text value

end RecordQuery.Json
