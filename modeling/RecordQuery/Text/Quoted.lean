import RecordQuery.Text.Hidden

namespace RecordQuery.Text

/-!
# Texts in quotation marks

`quoted` writes a text so that every character of it can be told: the quotation
mark and the backslash get a backslash, four control characters have short
names, and every other hidden or extending character is written as its code
point in braces.  What is between the marks holds no line break.
-/

/-- A code point in braces, in hexadecimal. -/
def escapedCode (character : Char) : List Char :=
  '\\' :: 'u' :: '\x7b' ::
    (Nat.toDigits 16 character.toNat ++ ['\x7d'])

/-- A character as it stands between quotation marks. -/
def quotedChar (character : Char) : List Char :=
  if character = '\x00' then
    ['\\', '0']
  else if character = '\t' then
    ['\\', 't']
  else if character = '\r' then
    ['\\', 'r']
  else if character = '\n' then
    ['\\', 'n']
  else if character = '\\' ∨ character = '\x22' then
    ['\\', character]
  else if isExtending character || isHidden character then
    escapedCode character
  else
    [character]

/-- A text in quotation marks. -/
def quoted (text : String) : String :=
  String.ofList
    ('\x22' :: (text.toList.flatMap quotedChar ++ ['\x22']))

end RecordQuery.Text
