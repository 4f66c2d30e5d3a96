import RecordQuery.Binary64.Printer
import RecordQuery.Instant.Printer
import RecordQuery.Text.Quoted
import RecordQuery.Uuid

namespace RecordQuery

/-!
# Typed values

A value is an operand of a filter or the content of a record's column.  Its
`display` is the text that a request would use for it; its `inspect` also tells
the type, for messages.
-/

/-- A typed value. -/
inductive Value where
  | integer (value : Int64)
  | float (value : Binary64)
  | text (value : String)
  | boolean (value : Bool)
  | timestamp (value : Instant)
  | uuid (value : Uuid)
  deriving DecidableEq

/-- The word for a truth value. -/
def boolText (value : Bool) : String :=
  if value then "true" else "false"

namespace Value

/-- A value as a request writes it. -/
def display : Value → String
  | integer value => Decimal.signedText value.toInt
  | float value => value.plain
  | text value => value
  | boolean value => boolText value
  | timestamp value => value.rfc3339
  | uuid value => value.text

/-- A value with its type, for messages. -/
def inspect : Value → String
  | integer value => "Integer(" ++ Decimal.signedText value.toInt ++ ")"
  | float value => "Float(" ++ value.marked ++ ")"
  | text value => "Text(" ++ Text.quoted value ++ ")"
  | boolean value => "Boolean(" ++ boolText value ++ ")"
  | timestamp value => "Timestamp(" ++ value.zulu ++ ")"
  | uuid value => "Uuid(" ++ value.text ++ ")"

/--
Equality of values of one type.

Floating-point numbers are equal when their values are, so that a NaN differs
from itself and the two zeros agree; values of different types differ.
-/
def agrees : Value → Value → Bool
  | float left, float right => left.agrees right
  | left, right => left == right

/-- A value that is a NaN. -/
def isNaN : Value → Bool
  | float value => value.isNaN
  | _ => false

/-- Every value but a NaN agrees with itself. -/
theorem agrees_self
    {value : Value}
    (isNumber : value.isNaN = false) :
    value.agrees value = true := by
  cases value with
  | float number =>
      exact Binary64.agrees_self isNumber
  | _ =>
      simp [agrees]

end Value

/-- Whether two lists agree member by member. -/
def agreeList {Member : Type} (agree : Member → Member → Bool) :
    List Member → List Member → Bool
  | [], [] => true
  | left :: lefts, right :: rights =>
      agree left right && agreeList agree lefts rights
  | _, _ => false

/-- Whether two optional things are both absent, or present and agree. -/
def agreeOption {Member : Type} (agree : Member → Member → Bool) :
    Option Member → Option Member → Bool
  | none, none => true
  | some left, some right => agree left right
  | _, _ => false

end RecordQuery
