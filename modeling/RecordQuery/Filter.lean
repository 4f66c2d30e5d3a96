import RecordQuery.Error

namespace RecordQuery

/-!
# Filters on one field

A filter has one slot for each operator.  The slots are seen through
`operand?`: setting an operator changes what `operand?` gives for it and for no
other, and so do clearing it and extending the filter by a comparison.  A filter
without operands is empty and constrains nothing.

The slots are enumerated wherever a filter is read or changed; `operators_eq`
and `values_eq` say that the lists read off a filter keep to the same slots as
`operand?`.
-/

/-- The operands of one field, one slot for each operator. -/
structure Filter where
  equals : Option Value
  notEquals : Option Value
  oneOf : Option (List Value)
  noneOf : Option (List Value)
  specified : Option Bool
  greaterThan : Option Value
  atLeast : Option Value
  lessThan : Option Value
  atMost : Option Value
  contains : Option String
  lacks : Option String
  deriving DecidableEq

namespace Filter

/-- The filter without operands. -/
def empty : Filter where
  equals := none
  notEquals := none
  oneOf := none
  noneOf := none
  specified := none
  greaterThan := none
  atLeast := none
  lessThan := none
  atMost := none
  contains := none
  lacks := none

instance : Inhabited Filter := ⟨empty⟩

/-- The operand of an operator. -/
def operand? (filter : Filter) : Operator → Option Operand
  | .equals => filter.equals.map .value
  | .notEquals => filter.notEquals.map .value
  | .oneOf => filter.oneOf.map .values
  | .noneOf => filter.noneOf.map .values
  | .specified => filter.specified.map .flag
  | .greaterThan => filter.greaterThan.map .value
  | .atLeast => filter.atLeast.map .value
  | .lessThan => filter.lessThan.map .value
  | .atMost => filter.atMost.map .value
  | .contains => filter.contains.map .substring
  | .lacks => filter.lacks.map .substring

/-- Sets the operand of an operator, or refuses an operand of another shape. -/
def set (filter : Filter) : Operator → Operand → Except QueryError Filter
  | .equals, .value value =>
      .ok { filter with equals := some value }
  | .notEquals, .value value =>
      .ok { filter with notEquals := some value }
  | .oneOf, .values values =>
      .ok { filter with oneOf := some values }
  | .noneOf, .values values =>
      .ok { filter with noneOf := some values }
  | .specified, .flag flag =>
      .ok { filter with specified := some flag }
  | .greaterThan, .value value =>
      .ok { filter with greaterThan := some value }
  | .atLeast, .value value =>
      .ok { filter with atLeast := some value }
  | .lessThan, .value value =>
      .ok { filter with lessThan := some value }
  | .atMost, .value value =>
      .ok { filter with atMost := some value }
  | .contains, .substring substring =>
      .ok { filter with contains := some substring }
  | .lacks, .substring substring =>
      .ok { filter with lacks := some substring }
  | operator, operand =>
      .error (.invalidFilter operator.name (.shape operator operand))

/-- Clears the operand of an operator. -/
def clear (filter : Filter) : Operator → Filter
  | .equals => { filter with equals := none }
  | .notEquals => { filter with notEquals := none }
  | .oneOf => { filter with oneOf := none }
  | .noneOf => { filter with noneOf := none }
  | .specified => { filter with specified := none }
  | .greaterThan => { filter with greaterThan := none }
  | .atLeast => { filter with atLeast := none }
  | .lessThan => { filter with lessThan := none }
  | .atMost => { filter with atMost := none }
  | .contains => { filter with contains := none }
  | .lacks => { filter with lacks := none }

/-- The comparisons that a filter can be extended by. -/
inductive Extension where
  | greaterThan
  | atLeast
  | lessThan
  | atMost
  | notEquals
  deriving Repr, DecidableEq

/-- The operator of an extension. -/
def Extension.operator : Extension → Operator
  | greaterThan => .greaterThan
  | atLeast => .atLeast
  | lessThan => .lessThan
  | atMost => .atMost
  | notEquals => .notEquals

/-- Extends a filter by a comparison, in place of an earlier one. -/
def extend (filter : Filter) : Extension → Value → Filter
  | .greaterThan, value => { filter with greaterThan := some value }
  | .atLeast, value => { filter with atLeast := some value }
  | .lessThan, value => { filter with lessThan := some value }
  | .atMost, value => { filter with atMost := some value }
  | .notEquals, value => { filter with notEquals := some value }

/-- Whether each slot is filled, in the order of the operators' declaration. -/
def filled (filter : Filter) : List Bool :=
  [ filter.equals.isSome, filter.notEquals.isSome, filter.oneOf.isSome,
    filter.noneOf.isSome, filter.specified.isSome,
    filter.greaterThan.isSome, filter.atLeast.isSome,
    filter.lessThan.isSome, filter.atMost.isSome, filter.contains.isSome,
    filter.lacks.isSome ]

/-- The populated operators, in the order of their declaration. -/
def operators (filter : Filter) : List Operator :=
  (Operator.all.zip filter.filled).filterMap fun entry =>
    if entry.2 then some entry.1 else none

/-- Whether no operator is populated. -/
def isEmpty (filter : Filter) : Bool :=
  filter.operators.isEmpty

/-- The slots for one value, each with its operator. -/
def scalars (filter : Filter) : List (Operator × Option Value) :=
  [ (.equals, filter.equals), (.notEquals, filter.notEquals),
    (.greaterThan, filter.greaterThan), (.atLeast, filter.atLeast),
    (.lessThan, filter.lessThan), (.atMost, filter.atMost) ]

/-- The slots for a set of values, each with its operator. -/
def sets (filter : Filter) : List (Operator × Option (List Value)) :=
  [(.oneOf, filter.oneOf), (.noneOf, filter.noneOf)]

/-- All typed values, those of single-valued operators first. -/
def values (filter : Filter) : List (Operator × Value) :=
  (filter.scalars.filterMap fun slot =>
      slot.2.map fun value => (slot.1, value)) ++
    filter.sets.flatMap fun slot =>
      (slot.2.getD []).map fun value => (slot.1, value)

/-- The operators that take one value, in the order they are listed in. -/
def scalarOperators : List Operator :=
  [.equals, .notEquals, .greaterThan, .atLeast, .lessThan, .atMost]

/-- The typed values of an operator, each with the operator. -/
def valuesOf (filter : Filter) (operator : Operator) :
    List (Operator × Value) :=
  match filter.operand? operator with
  | none => []
  | some operand => operand.members.map fun value => (operator, value)

/-- Why the populated operators do not go together. -/
def fault? (filter : Filter) : Option FilterFault :=
  let operators := filter.operators
  if filter.specified.isSome && decide (1 < operators.length) then
    some .specifiedNotAlone
  else if operators.any Operator.isRange &&
      operators.any Operator.isSubstring then
    some .rangeWithSubstring
  else
    none

/-- Checks that the populated operators go together. -/
def validate (filter : Filter) (field : String) : Except QueryError Unit :=
  match filter.fault? with
  | none => .ok ()
  | some fault => .error (.invalidFilter field fault)

/-- An operator and its operand as a request writes them. -/
def partText (operator : Operator) : Operand → String
  | .value value => operator.name ++ "=" ++ value.display
  | .values values =>
      operator.name ++ "=" ++ Text.join "," (values.map Value.display)
  | .flag flag => operator.name ++ "=" ++ boolText flag
  | .substring substring => operator.name ++ "=" ++ substring

/-- The order in which a filter is written. -/
def displayOrder : List Operator :=
  scalarOperators ++ [.oneOf, .noneOf, .specified, .contains, .lacks]

/-- A filter as text, its parts separated by commas. -/
def display (filter : Filter) : String :=
  Text.join ", "
    (displayOrder.filterMap fun operator =>
      (filter.operand? operator).map (partText operator))

/-- Whether two filters agree in every slot. -/
def agrees (left right : Filter) : Bool :=
  agreeOption Value.agrees left.equals right.equals &&
    agreeOption Value.agrees left.notEquals right.notEquals &&
    agreeOption (agreeList Value.agrees) left.oneOf right.oneOf &&
    agreeOption (agreeList Value.agrees) left.noneOf right.noneOf &&
    left.specified == right.specified &&
    agreeOption Value.agrees left.greaterThan right.greaterThan &&
    agreeOption Value.agrees left.atLeast right.atLeast &&
    agreeOption Value.agrees left.lessThan right.lessThan &&
    agreeOption Value.agrees left.atMost right.atMost &&
    left.contains == right.contains &&
    left.lacks == right.lacks

/-- The empty filter has no operand. -/
@[simp] theorem operand?_empty (operator : Operator) :
    empty.operand? operator = none := by
  cases operator <;> rfl

/-- Clearing empties the slot of the operator and no other. -/
@[simp] theorem operand?_clear
    (filter : Filter)
    (operator other : Operator) :
    (filter.clear operator).operand? other =
      if operator = other then none else filter.operand? other := by
  cases operator <;> cases other <;> rfl

/-- An operand of the right shape is set in its own slot and no other. -/
theorem operand?_set
    {filter changed : Filter}
    {operator : Operator}
    {operand : Operand}
    (succeeded : filter.set operator operand = .ok changed)
    (other : Operator) :
    changed.operand? other =
      if operator = other then some operand else filter.operand? other := by
  cases operator <;> cases operand <;>
    simp only [set, Except.ok.injEq, reduceCtorEq] at succeeded <;>
    subst succeeded <;> cases other <;> rfl

/-- Setting succeeds exactly with an operand of the right shape. -/
theorem set_isOk_iff
    (filter : Filter)
    (operator : Operator)
    (operand : Operand) :
    (∃ changed, filter.set operator operand = .ok changed) ↔
      operand.fits operator = true := by
  cases operator <;> cases operand <;> simp [set, Operand.fits,
    Operator.isSet, Operator.isSubstring]

/-- An extension fills the slot of its operator and no other. -/
theorem operand?_extend
    (filter : Filter)
    (extension : Extension)
    (value : Value)
    (other : Operator) :
    (filter.extend extension value).operand? other =
      if extension.operator = other then
        some (.value value)
      else
        filter.operand? other := by
  cases extension <;> cases other <;> rfl

/-- The slots are looked at in the order of the operators. -/
theorem filled_eq (filter : Filter) :
    filter.filled =
      Operator.all.map fun operator => (filter.operand? operator).isSome := by
  simp [filled, Operator.all, operand?]

/-- An operator is kept when its slot is filled. -/
theorem operators_eq (filter : Filter) :
    filter.operators =
      Operator.all.filter fun operator =>
        (filter.operand? operator).isSome := by
  rw [operators, filled_eq, ← List.map_prod_left_eq_zip]
  induction Operator.all with
  | nil =>
      rfl
  | cons operator rest inductionHypothesis =>
      rw [List.map_cons, List.filterMap_cons, List.filter_cons,
        inductionHypothesis]
      cases (filter.operand? operator).isSome <;> rfl

/-- An operator is listed exactly when it is populated. -/
theorem mem_operators
    {filter : Filter}
    {operator : Operator} :
    operator ∈ filter.operators ↔
      (filter.operand? operator).isSome = true := by
  simp [operators_eq, Operator.mem_all]

/-- No operator is listed twice. -/
theorem nodup_operators (filter : Filter) : filter.operators.Nodup := by
  rw [operators_eq]
  exact Operator.nodup_all.filter _

/-- Slots for one value each give the value or nothing. -/
theorem flatMap_valuesOf_scalars
    {filter : Filter}
    {slots : List (Operator × Option Value)}
    (areSlots :
      ∀ slot ∈ slots, filter.operand? slot.1 = slot.2.map .value) :
    (slots.map Prod.fst).flatMap filter.valuesOf =
      slots.filterMap fun slot =>
        slot.2.map fun value => (slot.1, value) := by
  induction slots with
  | nil =>
      rfl
  | cons slot rest inductionHypothesis =>
      obtain ⟨isSlot, areRest⟩ := List.forall_mem_cons.mp areSlots
      rw [List.map_cons, List.flatMap_cons, inductionHypothesis areRest,
        valuesOf, isSlot, List.filterMap_cons]
      cases slot.2 <;> rfl

/-- Slots for a set each give its members. -/
theorem flatMap_valuesOf_sets
    {filter : Filter}
    {slots : List (Operator × Option (List Value))}
    (areSlots :
      ∀ slot ∈ slots, filter.operand? slot.1 = slot.2.map .values) :
    (slots.map Prod.fst).flatMap filter.valuesOf =
      slots.flatMap fun slot =>
        (slot.2.getD []).map fun value => (slot.1, value) := by
  induction slots with
  | nil =>
      rfl
  | cons slot rest inductionHypothesis =>
      obtain ⟨isSlot, areRest⟩ := List.forall_mem_cons.mp areSlots
      rw [List.map_cons, List.flatMap_cons, inductionHypothesis areRest,
        valuesOf, isSlot, List.flatMap_cons]
      cases slot.2 <;> rfl

/-- The values are those of the operators, one operator after the other. -/
theorem values_eq (filter : Filter) :
    filter.values =
      (scalarOperators ++ [Operator.oneOf, Operator.noneOf]).flatMap
        filter.valuesOf := by
  have scalarSlots :
      ∀ slot ∈ filter.scalars,
        filter.operand? slot.1 = slot.2.map .value := by
    simp [scalars, operand?]
  have setSlots :
      ∀ slot ∈ filter.sets,
        filter.operand? slot.1 = slot.2.map .values := by
    simp [sets, operand?]
  rw [values, ← flatMap_valuesOf_scalars scalarSlots,
    ← flatMap_valuesOf_sets setSlots, List.flatMap_append]
  rfl

end Filter

end RecordQuery
