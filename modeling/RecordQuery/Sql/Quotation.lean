namespace RecordQuery.Sql

/-!
# Quotations in statements

Whoever looks for the placeholders of a statement passes over quotations: texts
between apostrophes, quotation marks, grave accents or square brackets.  In each
of them a backslash keeps the character after it from closing the quotation, and
a doubled mark closes one quotation and opens the next.
-/

/-- Where a reader of a statement stands. -/
inductive Reading where
  /-- Between quotations. -/
  | outside
  /-- In a quotation up to a mark, maybe right after a backslash. -/
  | inside (closing : Char) (escaped : Bool)
  deriving Repr, DecidableEq

/-- The mark that closes the quotation which a character opens. -/
def closingMark? (character : Char) : Option Char :=
  if character = '\'' ∨ character = '\x22' ∨ character = '\x60' then
    some character
  else if character = '[' then
    some ']'
  else
    none

namespace Reading

/-- Where a reader stands after one more character. -/
def next : Reading → Char → Reading
  | outside, character =>
      match closingMark? character with
      | none => outside
      | some closing => inside closing false
  | inside closing true, _ => inside closing false
  | inside closing false, character =>
      if character = closing then
        outside
      else
        inside closing (character == '\\')

/-- Where a reader stands after a text. -/
def after (reading : Reading) (text : String) : Reading :=
  text.toList.foldl next reading

end Reading

end RecordQuery.Sql
