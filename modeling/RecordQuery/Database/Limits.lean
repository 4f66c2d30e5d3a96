import RecordQuery.Error
import RecordQuery.Predicate
import RecordQuery.Sort
import RecordQuery.Sql.Depth
import RecordQuery.Sql.Statement

namespace RecordQuery

/-!
# What a database refuses

A database takes a statement only up to a size, however many records it would
select: its tables, the levels of its condition, the values bound to it and the
columns that it sorts by have a greatest number each.  It also has to tell the
tables of a statement from one another, and it reads their names without the
case of ASCII letters.
-/

namespace Sql

/-- A name as a database reads it, without the case of ASCII letters. -/
def foldedName (name : String) : List Char :=
  name.toList.map Char.toLower

end Sql

/-- The tables of a predicate can be told from the queried one and apart. -/
def Predicate.NamesApart (predicate : Predicate) (table : String) : Prop :=
  ((table :: predicate.joins.map Join.label).map Sql.foldedName).Nodup

instance (predicate : Predicate) (table : String) :
    Decidable (predicate.NamesApart table) :=
  inferInstanceAs (Decidable (List.Nodup _))

/-- What the limits of a database are about. -/
structure StatementSize where
  /-- The number of tables, with the one that is queried. -/
  tables : Nat
  /-- The levels of the condition. -/
  depth : Nat
  /-- The number of bound values. -/
  values : Nat
  /-- The number of columns to sort by. -/
  sortKeys : Nat
  deriving Repr, DecidableEq

namespace StatementSize

/-- The greatest number of tables. -/
def mostTables : Nat := 64

/-- The greatest depth of a condition. -/
def greatestDepth : Nat := 1000

/-- The greatest number of bound values. -/
def mostValues : Nat := 32766

/-- The greatest number of columns to sort by. -/
def mostSortKeys : Nat := 2000

/-- The levels that a join has when its two columns are compared. -/
def joinDepth : Nat := 3

/-- The levels of a condition with those of the joins above it. -/
def predicateDepth (predicate : Predicate) : Nat :=
  predicate.joins.foldl (fun depth _ => max depth joinDepth + 1)
    predicate.condition.depth

/-- The size of the select of a predicate. -/
def ofSelect (predicate : Predicate) : StatementSize where
  tables := predicate.joins.length + 1
  depth := predicateDepth predicate
  values :=
    (Sql.boundValues (predicate.condition.pieces .sqlite)).length
  sortKeys := 0

/-- The size of a sorted select that also binds its offset and its limit. -/
def ofPage (predicate : Predicate) (keys : List SortKey) : StatementSize :=
  let size := ofSelect predicate
  { size with
    values := size.values + 2
    sortKeys := keys.length }

/-- Why a database refuses a statement of a size, if it does. -/
def refusal? (size : StatementSize) : Option StoreError :=
  if mostTables < size.tables then
    some .tooManyTables
  else if greatestDepth < size.depth then
    some .conditionTooDeep
  else if mostValues < size.values then
    some .tooManyValues
  else if mostSortKeys < size.sortKeys then
    some .tooManySortKeys
  else
    none

/-- The result of a statement of a size, unless the statement is refused. -/
def allow {Result : Type} (size : StatementSize) (result : Result) :
    Except StoreError Result :=
  match size.refusal? with
  | none => .ok result
  | some error => .error error

/-- A statement is taken exactly when it keeps to every limit. -/
theorem refusal?_eq_none (size : StatementSize) :
    size.refusal? = none ↔
      size.tables ≤ mostTables ∧ size.depth ≤ greatestDepth ∧
        size.values ≤ mostValues ∧ size.sortKeys ≤ mostSortKeys := by
  unfold refusal?
  split
  · simp; omega
  split
  · simp; omega
  split
  · simp; omega
  split
  · simp; omega
  · simp; omega

/-- A page is refused whenever its select alone would be. -/
theorem refusal?_ofSelect_of_ofPage
    (predicate : Predicate)
    (keys : List SortKey)
    (taken : (ofPage predicate keys).refusal? = none) :
    (ofSelect predicate).refusal? = none := by
  rw [refusal?_eq_none] at taken ⊢
  obtain ⟨fewTables, shallow, bound, -⟩ := taken
  refine ⟨fewTables, shallow, ?_, Nat.zero_le _⟩
  exact Nat.le_trans (Nat.le_add_right _ 2) bound

end StatementSize

/--
The result of a predicate as a statement of a size, unless the database refuses
it: it cannot tell the tables apart, or the statement is too large.

The columns of joined tables are not known here, so two tables of one name are
refused whether or not a column stands in both of them.
-/
def Predicate.allow {Result : Type}
    (predicate : Predicate)
    (table : String)
    (size : StatementSize)
    (result : Result) :
    Except StoreError Result :=
  if predicate.NamesApart table then
    size.allow result
  else
    .error .ambiguousName

end RecordQuery
