import RecordQuery.Filter
import RecordQuery.NameMap

namespace RecordQuery

/-!
# Criteria

A criteria holds filters by field name and the hint whether equal records are to
be listed once.  A field may have an empty filter; such a filter can be looked
up and counts when two criteria are compared, but `fields`, `display` and
everything that uses a criteria pass over it.
-/

/-- All filters of one query, and the distinct hint. -/
structure Criteria where
  filters : NameMap Filter
  distinct : Option Bool

namespace Criteria

/-- The criteria without filters and without a hint. -/
def empty : Criteria where
  filters := NameMap.empty
  distinct := none

instance : Inhabited Criteria := ⟨empty⟩

/-- The filter of a field, empty or not. -/
def filter? (criteria : Criteria) (field : String) : Option Filter :=
  criteria.filters.get? field

/-- Replaces the filter of a field. -/
def insert (criteria : Criteria) (field : String) (filter : Filter) :
    Criteria :=
  { criteria with filters := criteria.filters.insert field filter }

/-- Removes the filter of a field. -/
def remove (criteria : Criteria) (field : String) : Criteria :=
  { criteria with filters := criteria.filters.erase field }

/-- The filter of a field, or the empty filter. -/
def filterOrEmpty (criteria : Criteria) (field : String) : Filter :=
  (criteria.filter? field).getD Filter.empty

/-- Gives a field an empty filter unless it has a filter. -/
def touch (criteria : Criteria) (field : String) : Criteria :=
  criteria.insert field (criteria.filterOrEmpty field)

/-- Sets the distinct hint. -/
def setDistinct (criteria : Criteria) (distinct : Option Bool) : Criteria :=
  { criteria with distinct := distinct }

/-- Clears an operator of a field; the field keeps a filter, maybe empty. -/
def clear (criteria : Criteria) (field : String) (operator : Operator) :
    Criteria :=
  criteria.insert field ((criteria.filterOrEmpty field).clear operator)

/--
Sets an operator of a field.

When the operand does not fit, the field still has a filter afterwards, as if it
had been touched, and the error is given beside the criteria.
-/
def setOperand
    (criteria : Criteria)
    (field : String)
    (operator : Operator)
    (operand : Operand) :
    Except QueryError Unit × Criteria :=
  match (criteria.filterOrEmpty field).set operator operand with
  | .ok filter => (.ok (), criteria.insert field filter)
  | .error error => (.error error, criteria.touch field)

/-- The filters that are not empty, in the order of their names. -/
def fields (criteria : Criteria) : List (String × Filter) :=
  criteria.filters.entries.filter fun entry => !entry.2.isEmpty

/-- Whether no field is constrained. -/
def isEmpty (criteria : Criteria) : Bool :=
  criteria.fields.isEmpty

/-- The parts of a criteria's text. -/
def parts (criteria : Criteria) : List String :=
  (criteria.fields.map fun entry =>
    entry.1 ++ ": [" ++ entry.2.display ++ "]") ++
    match criteria.distinct with
    | none => []
    | some distinct => ["distinct=" ++ boolText distinct]

/-- A criteria as text, fields in the order of their names. -/
def display (criteria : Criteria) : String :=
  "Criteria\x7b" ++ Text.join "; " criteria.parts ++ "\x7d"

/-- Whether two criteria agree, empty filters included. -/
def agrees (left right : Criteria) : Bool :=
  agreeList
      (fun entry other => entry.1 == other.1 && entry.2.agrees other.2)
      left.filters.entries right.filters.entries &&
    left.distinct == right.distinct

/-- Looking up after an insertion. -/
@[simp] theorem filter?_insert
    (criteria : Criteria)
    (field other : String)
    (filter : Filter) :
    (criteria.insert field filter).filter? other =
      if field = other then some filter else criteria.filter? other :=
  NameMap.get?_insert criteria.filters field other filter

/-- Looking up after a removal. -/
@[simp] theorem filter?_remove
    (criteria : Criteria)
    (field other : String) :
    (criteria.remove field).filter? other =
      if field = other then none else criteria.filter? other :=
  NameMap.get?_erase criteria.filters field other

/-- A text is all that `display` and `isEmpty` see of empty filters: nothing. -/
theorem display_eq_of_fields_eq
    {left right : Criteria}
    (sameFields : left.fields = right.fields)
    (sameDistinct : left.distinct = right.distinct) :
    left.display = right.display := by
  simp [display, parts, sameFields, sameDistinct]

end Criteria

end RecordQuery
