import RecordQuery.Record
import RecordQuery.Sql.Like
import RecordQuery.Sql.Condition
import RecordQuery.Sql.Search
import RecordQuery.Sql.Storage

namespace RecordQuery.Sql

/-!
# The truth of conditions

Conditions have three truth values.  A comparison with null is unknown, `all`
takes the least of its members in the order fails, unknown, holds, and `any`
the greatest.  A record is selected when its condition holds; fails and unknown
both leave it out.  A list without members is the exception to the rule of
nulls: nothing is in it, and everything is outside it.

A column of texts reads a whole number that it is compared with as the decimal
text of the number.
-/

/-- A truth value of three-valued logic. -/
inductive Truth where
  | fails
  | unknown
  | holds
  deriving Repr, DecidableEq

namespace Truth

/-- The truth value of a decided question. -/
def ofBool (value : Bool) : Truth :=
  if value then holds else fails

/-- Both: false if one is, else unknown if one is. -/
def and : Truth → Truth → Truth
  | fails, _ => fails
  | _, fails => fails
  | holds, holds => holds
  | _, _ => unknown

/-- At least one: true if one is, else unknown if one is. -/
def or : Truth → Truth → Truth
  | holds, _ => holds
  | _, holds => holds
  | fails, fails => fails
  | _, _ => unknown

/-- The opposite; the opposite of unknown is unknown. -/
def not : Truth → Truth
  | fails => holds
  | unknown => unknown
  | holds => fails

/-- A conjunction holds exactly when both sides do. -/
@[simp] theorem and_eq_holds (left right : Truth) :
    left.and right = holds ↔ left = holds ∧ right = holds := by
  cases left <;> cases right <;> simp [and]

/-- A disjunction holds exactly when one side does. -/
@[simp] theorem or_eq_holds (left right : Truth) :
    left.or right = holds ↔ left = holds ∨ right = holds := by
  cases left <;> cases right <;> simp [or]

/-- A decided question holds exactly when the answer is yes. -/
@[simp] theorem ofBool_eq_holds (value : Bool) :
    ofBool value = holds ↔ value = true := by
  cases value <;> simp [ofBool]

end Truth

/-- Whether a comparison accepts the order of its two sides. -/
def Comparison.accepts : Comparison → Ordering → Bool
  | .equal, order => order.isEq
  | .notEqual, order => !order.isEq
  | .greater, order => order.isGT
  | .atLeast, order => order.isGE
  | .less, order => order.isLT
  | .atMost, order => order.isLE

/-- The truth of a comparison of two column contents. -/
def compareTruth
    (comparison : Comparison)
    (left right : Option Value) :
    Truth :=
  match storageOf left, storageOf right with
  | some leftStored, some rightStored =>
      .ofBool (comparison.accepts (leftStored.order rightStored))
  | _, _ => .unknown

/-- An operand as it is read by the column that it is compared with. -/
def readBy : Option Value → Value → Value
  | some (.text _), .integer number => .text (Value.integer number).display
  | _, operand => operand

/-- The truth of a comparison of a column content with an operand. -/
def operandTruth
    (comparison : Comparison)
    (content : Option Value)
    (operand : Value) :
    Truth :=
  compareTruth comparison content (some (readBy content operand))

/-- The truth that a column content is one of some values. -/
def memberTruth (content : Option Value) : List Value → Truth
  | [] => .fails
  | value :: rest =>
      (operandTruth .equal content value).or (memberTruth content rest)

/-- The truth that a text occurs in a content. -/
def occurrenceTruth (needle : String) (content : Option Value) : Truth :=
  match content.bind Value.searched? with
  | some searched => .ofBool (searched.contains needle)
  | none => .unknown

/--
The truth that a content matches a pattern.

Only one dialect asks for patterns, and it has them for texts alone.
-/
def patternTruth (pattern : String) : Option Value → Truth
  | some (.text text) => .ofBool (matchPattern pattern text)
  | _ => .unknown

/-- The truth of a statement, or of its opposite. -/
def Truth.negatedIf (negated : Bool) (truth : Truth) : Truth :=
  if negated then truth.not else truth

/-- A value converted to another type. -/
def Cast.apply : Cast → Value → Value
  | .text, value => .text value.display
  | .binary, value => value

/-- What a target reads in a row. -/
def Target.read (row : JoinedRow) (target : Target) : Option Value :=
  let content := row.get? target.column
  match target.cast with
  | none => content
  | some cast => content.map cast.apply

/-- The truth of a test on a row. -/
def Test.truth (row : JoinedRow) : Test → Truth
  | .compare target comparison operand =>
      operandTruth comparison (target.read row) operand
  | .member target negated operands =>
      (memberTruth (target.read row) operands).negatedIf negated
  | .null target negated =>
      .ofBool ((storageOf (target.read row)).isSome == negated)
  | .position target negated needle =>
      (occurrenceTruth needle (target.read row)).negatedIf negated
  | .like target negated pattern =>
      (patternTruth pattern (target.read row)).negatedIf negated

mutual

/-- The truth of a condition on a row. -/
def Condition.truth (row : JoinedRow) : Condition → Truth
  | .test test => test.truth row
  | .all members => allTruth row members
  | .any members => anyTruth row members

/-- The truth of a conjunction on a row. -/
def allTruth (row : JoinedRow) : List Condition → Truth
  | [] => .holds
  | member :: rest => (member.truth row).and (allTruth row rest)

/-- The truth of a disjunction on a row. -/
def anyTruth (row : JoinedRow) : List Condition → Truth
  | [] => .fails
  | member :: rest => (member.truth row).or (anyTruth row rest)

end

/-- A conjunction holds exactly when every member does. -/
theorem allTruth_eq_holds
    (row : JoinedRow)
    (members : List Condition) :
    allTruth row members = .holds ↔
      ∀ member ∈ members, member.truth row = .holds := by
  induction members with
  | nil =>
      simp [allTruth]
  | cons member rest inductionHypothesis =>
      simp [allTruth, inductionHypothesis]

/-- A disjunction holds exactly when some member does. -/
theorem anyTruth_eq_holds
    (row : JoinedRow)
    (members : List Condition) :
    anyTruth row members = .holds ↔
      ∃ member ∈ members, member.truth row = .holds := by
  induction members with
  | nil =>
      simp [anyTruth]
  | cons member rest inductionHypothesis =>
      simp [anyTruth, inductionHypothesis]

/-- Unwrapping a condition keeps its truth. -/
@[simp] theorem truth_unwrapped (row : JoinedRow) (condition : Condition) :
    condition.unwrapped.truth row = condition.truth row := by
  unfold Condition.unwrapped
  split
  next only =>
    simp only [Condition.truth, allTruth]
    cases only.truth row <;> rfl
  next only =>
    simp only [Condition.truth, anyTruth]
    cases only.truth row <;> rfl
  · rfl

end RecordQuery.Sql
