import RecordQuery.Sql.Condition

namespace RecordQuery

/-!
# Predicates

A predicate is a criteria made ready for a database: a conjunction of
conditions, the joins that they need, and the distinct hint.  The hint changes
how often a record is listed, never which records are.
-/

/-- A compiled criteria. -/
structure Predicate where
  /-- The conditions that must all hold. -/
  members : List Sql.Condition
  /-- The joins to apply before filtering, one for each label. -/
  joins : List Join
  /-- Whether equal records are to be listed once, if the criteria says. -/
  distinct : Option Bool

namespace Predicate

/-- The predicate that every record satisfies. -/
def everything : Predicate where
  members := []
  joins := []
  distinct := none

/-- The conditions of a predicate as one. -/
def condition (predicate : Predicate) : Sql.Condition :=
  .all predicate.members

/-- Whether equal records are to be listed once. -/
def isDistinct (predicate : Predicate) : Bool :=
  predicate.distinct == some true

/-- A predicate that also asks for another condition. -/
def and (predicate : Predicate) (condition : Sql.Condition) : Predicate :=
  { predicate with
    members := Sql.Condition.appended predicate.members condition }

/-- A predicate with one more join, unless its label is joined already. -/
def addJoin (predicate : Predicate) (join : Join) : Predicate :=
  if predicate.joins.any fun existing => existing.label == join.label then
    predicate
  else
    { predicate with joins := predicate.joins ++ [join] }

/-- A predicate with the join that a field needs. -/
def addJoinOf (predicate : Predicate) (field : Field) : Predicate :=
  match field.join? with
  | none => predicate
  | some join => predicate.addJoin join

end Predicate

end RecordQuery
