namespace RecordQuery

/-!
# Filter operators

The eleven operators that a filter may apply to a field, each with the name that
requests use.  They fall into four groups by their operands: two take a set of
values, one a flag, two a substring, and the others a single value.
-/

/-- An operator of a filter. -/
inductive Operator where
  /-- The value is the operand. -/
  | equals
  /-- The value is present and not the operand. -/
  | notEquals
  /-- The value is one of the operands. -/
  | oneOf
  /-- The value is none of the operands. -/
  | noneOf
  /-- The value is present, or absent. -/
  | specified
  /-- The value is greater than the operand. -/
  | greaterThan
  /-- The value is the operand or greater. -/
  | atLeast
  /-- The value is less than the operand. -/
  | lessThan
  /-- The value is the operand or less. -/
  | atMost
  /-- The text holds the operand. -/
  | contains
  /-- The text does not hold the operand. -/
  | lacks
  deriving Repr, DecidableEq

namespace Operator

/-- All operators, in the order of their declaration. -/
def all : List Operator :=
  [ equals, notEquals, oneOf, noneOf, specified,
    greaterThan, atLeast, lessThan, atMost, contains, lacks ]

/-- The name of an operator in requests. -/
def name : Operator → String
  | equals => "equals"
  | notEquals => "notEquals"
  | oneOf => "in"
  | noneOf => "notIn"
  | specified => "specified"
  | greaterThan => "greaterThan"
  | atLeast => "greaterThanOrEqual"
  | lessThan => "lessThan"
  | atMost => "lessThanOrEqual"
  | contains => "contains"
  | lacks => "doesNotContain"

/-- The operator of a name. -/
def ofName? (name : String) : Option Operator :=
  all.find? fun operator => operator.name == name

/-- Whether an operator compares by order. -/
def isRange : Operator → Bool
  | greaterThan | atLeast | lessThan | atMost => true
  | _ => false

/-- Whether an operator looks inside a text. -/
def isSubstring : Operator → Bool
  | contains | lacks => true
  | _ => false

/-- Whether the operand of an operator is a set of values. -/
def isSet : Operator → Bool
  | oneOf | noneOf => true
  | _ => false

/-- Every operator is listed. -/
theorem mem_all (operator : Operator) : operator ∈ all := by
  cases operator <;> decide

/-- No operator is listed twice. -/
theorem nodup_all : all.Nodup := by
  decide

/-- The name of an operator leads back to it. -/
@[simp] theorem ofName?_name (operator : Operator) :
    ofName? operator.name = some operator := by
  cases operator <;> decide

/-- Only the name of an operator leads to it. -/
theorem name_of_ofName?
    {name : String}
    {operator : Operator}
    (found : ofName? name = some operator) :
    operator.name = name := by
  simpa using List.find?_some found

end Operator

end RecordQuery
