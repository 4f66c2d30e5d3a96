import RecordQuery.Entity
import RecordQuery.Event
import RecordQuery.Text.Blank

namespace RecordQuery

/-!
# Sort orders

A request sorts by properties, each written `property` or `property,direction`.
Only fields on own columns can be sorted by; other properties are passed over
with an event, and the entity's default column sorts when none is left.
-/

/-- The direction of a sort order. -/
inductive Direction where
  | ascending
  | descending
  deriving Repr, DecidableEq

namespace Direction

/-- The word for a direction. -/
def name : Direction → String
  | ascending => "asc"
  | descending => "desc"

/-- Reads a direction in any ASCII case, with blanks around it. -/
def read? (raw : String) : Option Direction :=
  let word := Text.lowerAscii (Text.trim raw)
  if word = "asc" then
    some ascending
  else if word = "desc" then
    some descending
  else
    none

end Direction

/-- One property to sort by. -/
structure SortOrder where
  property : String
  direction : Direction
  deriving Repr, DecidableEq

namespace SortOrder

/-- The name of the parameter that sorts. -/
def parameterName : String := "sort"

/-- An error in the parameter that sorts. -/
def refuse {Result : Type} (fault : ParameterFault) :
    Except QueryError Result :=
  .error (.invalidParameter parameterName fault)

/-- The order by a property, which must not be empty once trimmed. -/
def ofProperty (property : String) (direction : Direction) :
    Except QueryError SortOrder :=
  let trimmed := Text.trim property
  if trimmed.isEmpty then
    refuse .missingProperty
  else
    .ok ⟨trimmed, direction⟩

/--
Reads a sort order.

What follows the first comma is the direction; without a comma the default
direction is taken.  A bad direction is reported before a missing property.
-/
def read (raw : String) (default : Direction) :
    Except QueryError SortOrder :=
  match Text.cutAt? ',' raw with
  | none => ofProperty raw default
  | some (property, directionText) =>
      match Direction.read? directionText with
      | none => refuse (.unknownDirection directionText)
      | some direction => ofProperty property direction

end SortOrder

/-- A column to sort by. -/
structure SortKey where
  column : String
  direction : Direction
  deriving Repr, DecidableEq

namespace Entity

/-- The own column of the first field of a name that has one. -/
def sortColumn? (entity : Entity) (property : String) : Option String :=
  entity.fields.findSome? fun field =>
    if field.name = property then field.column? else none

/-- The columns of the orders that can be sorted by. -/
def sortKeys (entity : Entity) (orders : List SortOrder) : List SortKey :=
  orders.filterMap fun order =>
    (entity.sortColumn? order.property).map fun column =>
      ⟨column, order.direction⟩

/-- The events of the orders that cannot be sorted by. -/
def sortEvents (entity : Entity) (orders : List SortOrder) : List Event :=
  orders.filterMap fun order =>
    match entity.sortColumn? order.property with
    | some _ => none
    | none => some (.unsortable order.property entity.resource)

/-- The columns to sort by: those of the orders, or the default column. -/
def resolveSort (entity : Entity) (orders : List SortOrder) :
    Traced (List SortKey) where
  events := entity.sortEvents orders
  result :=
    match entity.sortKeys orders with
    | [] => [⟨entity.defaultSort, .ascending⟩]
    | keys => keys

/-- There is always a column to sort by. -/
theorem resolveSort_ne_nil (entity : Entity) (orders : List SortOrder) :
    (entity.resolveSort orders).result ≠ [] := by
  simp only [resolveSort]
  split <;> simp_all

end Entity

end RecordQuery
