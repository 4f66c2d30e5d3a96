import RecordQuery.Sql.Condition

namespace RecordQuery.Sql

/-!
# The depth of conditions

A condition is read into a tree of expressions.  A column is two levels, its
table and its name; a bound value and a truth value are one.  Every operation is
one level above the deepest of its operands.  The members of a junction are
joined two at a time from the left, so that each member after the first adds a
level or more.  A list with other than one member is one operation, and a list
with one member is a comparison with it, which is as deep.
-/

/-- The levels of a target. -/
def Target.depth (target : Target) : Nat :=
  match target.cast with
  | none => 2
  | some _ => 3

/-- The levels of a test. -/
def Test.depth : Test → Nat
  | .compare target _ _ => target.depth + 1
  | .member _ _ [] => 2
  | .member target negated (_ :: _) =>
      target.depth + (if negated then 2 else 1)
  | .null target _ => target.depth + 1
  | .position target _ _ => target.depth + 2
  | .like target negated _ => target.depth + (if negated then 2 else 1)

mutual

/-- The levels of a condition. -/
def Condition.depth : Condition → Nat
  | .test test => test.depth
  | .all members => junctionDepth members
  | .any members => junctionDepth members

/-- The levels of a junction. -/
def junctionDepth : List Condition → Nat
  | [] => 1
  | first :: rest => laterDepth first.depth rest

/-- The levels of a junction when those of the members so far are known. -/
def laterDepth : Nat → List Condition → Nat
  | depth, [] => depth
  | depth, member :: rest => laterDepth (max depth member.depth + 1) rest

end

/-- Unwrapping a condition keeps its depth. -/
@[simp] theorem depth_unwrapped (condition : Condition) :
    condition.unwrapped.depth = condition.depth := by
  unfold Condition.unwrapped
  split <;> simp [Condition.depth, junctionDepth, laterDepth]

/-- One more member adds a level to the deeper of the two sides. -/
theorem laterDepth_append
    (depth : Nat)
    (members : List Condition)
    (last : Condition) :
    laterDepth depth (members ++ [last]) =
      max (laterDepth depth members) last.depth + 1 := by
  induction members generalizing depth with
  | nil =>
      simp [laterDepth]
  | cons member rest inductionHypothesis =>
      simp [laterDepth, inductionHypothesis]

/-- Every further member makes a junction deeper. -/
theorem add_length_le_laterDepth
    (depth : Nat)
    (members : List Condition) :
    depth + members.length ≤ laterDepth depth members := by
  induction members generalizing depth with
  | nil =>
      simp [laterDepth]
  | cons member rest inductionHypothesis =>
      have deeper := inductionHypothesis (max depth member.depth + 1)
      simp only [laterDepth, List.length_cons]
      omega

end RecordQuery.Sql
