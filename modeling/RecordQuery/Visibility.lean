import RecordQuery.Predicate

namespace RecordQuery

/-!
# Visibility

Which records the current actor may see, on top of what a criteria asks for.
Finding out who the actor is happens elsewhere; this is only the outcome.
-/

/-- Which records may be seen. -/
inductive Visibility where
  /-- All of them. -/
  | everything
  /-- Those that satisfy a condition. -/
  | restricted (scope : Sql.Condition)
  /-- None, because nobody knows who is asking. -/
  | unresolved

namespace Visibility

/-- What an actor may see through a scope; nothing without an actor. -/
def forActor {Actor : Type}
    (actor : Option Actor)
    (scope : Actor → Sql.Condition) :
    Visibility :=
  match actor with
  | none => unresolved
  | some known => restricted (scope known)

/-- Whether the actor is unknown. -/
def isUnresolved : Visibility → Bool
  | unresolved => true
  | _ => false

/-- A predicate narrowed to what may be seen; none if that is nothing. -/
def apply (predicate : Predicate) : Visibility → Option Predicate
  | everything => some predicate
  | restricted scope => some (predicate.and scope)
  | unresolved => none

end Visibility

namespace Sql

/-- The test that an own column holds a key. -/
def ownColumnIs (table column : String) (key : Int64) : Condition :=
  .test (.compare (.plain ⟨.base table, column⟩) .equal (.integer key))

end Sql

end RecordQuery
