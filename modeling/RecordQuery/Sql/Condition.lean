import RecordQuery.Entity

namespace RecordQuery.Sql

/-!
# Conditions on joined rows

A condition is a tree of tests joined by `all` and `any`.  Tests name columns
and hold their operands as values; nothing here is text yet.  A junction with a
single member says no more than the member, and is replaced by it when it is
added to another junction.
-/

/-- The kinds of databases a statement can be written for. -/
inductive Dialect where
  | sqlite
  | postgres
  | mysql
  deriving Repr, DecidableEq

/-- A comparison of a column with an operand. -/
inductive Comparison where
  | equal
  | notEqual
  | greater
  | atLeast
  | less
  | atMost
  deriving Repr, DecidableEq

/-- A type that a column is converted to before it is tested. -/
inductive Cast where
  | text
  | binary
  deriving Repr, DecidableEq

/-- A column, maybe converted. -/
structure Target where
  column : ColumnRef
  cast : Option Cast
  deriving Repr, DecidableEq

namespace Target

/-- A column as it is. -/
def plain (column : ColumnRef) : Target :=
  ⟨column, none⟩

end Target

/-- A test of one column. -/
inductive Test where
  /-- Compares with a value. -/
  | compare (target : Target) (comparison : Comparison) (operand : Value)
  /-- Looks for the value in a list, or for its absence there. -/
  | member (target : Target) (negated : Bool) (operands : List Value)
  /-- Tests for null, or for not null. -/
  | null (target : Target) (negated : Bool)
  /-- Tests whether a text occurs, or does not, by its position. -/
  | position (target : Target) (negated : Bool) (needle : String)
  /-- Tests whether a pattern matches, or does not. -/
  | like (target : Target) (negated : Bool) (pattern : String)
  deriving DecidableEq

namespace Test

/-- The column that a test looks at. -/
def target : Test → Target
  | compare target _ _ => target
  | member target _ _ => target
  | null target _ => target
  | position target _ _ => target
  | like target _ _ => target

end Test

/-- A condition: a test, or a junction of conditions. -/
inductive Condition where
  | test (test : Test)
  /-- Every member must hold. -/
  | all (members : List Condition)
  /-- Some member must hold. -/
  | any (members : List Condition)

namespace Condition

/-- A condition without a junction around a single member. -/
def unwrapped : Condition → Condition
  | all [only] => only
  | any [only] => only
  | condition => condition

/-- A list of members with one more at its end. -/
def appended (members : List Condition) (condition : Condition) :
    List Condition :=
  members ++ [condition.unwrapped]

end Condition

end RecordQuery.Sql
