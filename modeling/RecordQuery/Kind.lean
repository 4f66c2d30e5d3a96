import RecordQuery.Operator
import RecordQuery.Value

namespace RecordQuery

/-!
# Kinds of fields

The kind of a field decides which operators apply to it and which values they
take.  Ranges need an ordered kind and substrings a text; every other operator
applies to all kinds.  A floating-point field also takes whole numbers, and an
enumeration takes exactly its variants.
-/

/-- The kind of a field. -/
inductive Kind where
  | integer
  | float
  | text
  | boolean
  | timestamp
  | uuid
  /-- Texts out of a fixed list of variants. -/
  | enumeration (variants : List String)
  deriving Repr, DecidableEq

namespace Kind

/-- The word for a kind in messages. -/
def name : Kind → String
  | integer => "integer"
  | float => "float"
  | text => "text"
  | boolean => "boolean"
  | timestamp => "timestamp"
  | uuid => "uuid"
  | enumeration _ => "enum"

/-- Whether the values of a kind are ordered. -/
def isOrdinal : Kind → Bool
  | integer | float | timestamp => true
  | _ => false

/-- Whether a kind is free text. -/
def isText : Kind → Bool
  | text => true
  | _ => false

theorem eq_text_of_isText {kind : Kind} (isText : kind.isText = true) :
    kind = text := by
  cases kind <;> first
    | rfl
    | exact absurd isText Bool.false_ne_true

/-- Whether an operator applies to fields of a kind. -/
def supports (kind : Kind) (operator : Operator) : Bool :=
  if operator.isRange then
    kind.isOrdinal
  else if operator.isSubstring then
    kind.isText
  else
    true

/-- Whether a value may be an operand on a field of a kind. -/
def accepts : Kind → Value → Bool
  | integer, .integer _ => true
  | float, .float _ => true
  | float, .integer _ => true
  | text, .text _ => true
  | boolean, .boolean _ => true
  | timestamp, .timestamp _ => true
  | uuid, .uuid _ => true
  | enumeration variants, .text value => variants.contains value
  | _, _ => false

/-- No kind supports both ranges and substrings. -/
theorem not_supports_range_and_substring
    {kind : Kind}
    {range substring : Operator}
    (isRange : range.isRange = true)
    (isSubstring : substring.isSubstring = true)
    (supportsRange : kind.supports range = true) :
    kind.supports substring = false := by
  have notRange : substring.isRange = false := by
    cases substring <;> simp_all [Operator.isRange, Operator.isSubstring]
  cases kind <;>
    simp_all [supports, isOrdinal, isText]

end Kind

end RecordQuery
