import RecordQuery.Proofs.Questions

namespace RecordQuery

/-!
# Questions that divide the records

An operator and its opposite leave no record out and have none in common, once
the records without a value are asked for too: a comparison with null is
unknown, and so is its opposite.  `operators_partition` says so of every
operator on an own column.
-/

namespace Sql

/-- The truth of an operator with its operand on the content of a column. -/
def answer (content : Option Value) : Operator → Operand → Truth
  | .equals, .value operand => operandTruth .equal content operand
  | .notEquals, .value operand => operandTruth .notEqual content operand
  | .oneOf, .values operands => memberTruth content operands
  | .noneOf, .values operands => (memberTruth content operands).not
  | .specified, .flag flag => .ofBool ((storageOf content).isSome == flag)
  | .greaterThan, .value operand => operandTruth .greater content operand
  | .atLeast, .value operand => operandTruth .atLeast content operand
  | .lessThan, .value operand => operandTruth .less content operand
  | .atMost, .value operand => operandTruth .atMost content operand
  | .contains, .substring part => occurrenceTruth part content
  | .lacks, .substring part => (occurrenceTruth part content).not
  | _, _ => .unknown

/-- The test of an operator gives the answer about the column that it reads. -/
theorem truth_of_testOf?
    {kind : Kind}
    {column : ColumnRef}
    {operator : Operator}
    {operand : Operand}
    {test : Test}
    (asked : testOf? .sqlite kind column operator operand = some test)
    (row : JoinedRow) :
    test.truth row = answer (row.get? column) operator operand := by
  cases operator <;> cases operand <;>
    simp only [testOf?, comparedTarget_sqlite, substringTest,
      Option.some.injEq, reduceCtorEq] at asked <;>
    subst asked <;> rfl

section

variable {content : Option Value}

theorem isSome_storage?_readBy
    (content : Option Value)
    {operand : Value}
    (isNumber : operand.isNaN = false) :
    (readBy content operand).storage?.isSome = true := by
  unfold readBy
  split
  · rfl
  · cases operand with
    | float number =>
        change number.isNaN = false at isNumber
        simp [Value.storage?, isNumber]
    | _ =>
        rfl

section

variable (present : (storageOf content).isSome = true)

include present

/-- A value stands in one order to an operand, which decides all comparisons. -/
theorem exists_order
    {operand : Value}
    (isNumber : operand.isNaN = false) :
    ∃ order : Ordering, ∀ comparison,
      operandTruth comparison content operand =
        .ofBool (comparison.accepts order) := by
  obtain ⟨stored, isStored⟩ := Option.isSome_iff_exists.mp present
  obtain ⟨other, isOther⟩ :=
    Option.isSome_iff_exists.mp (isSome_storage?_readBy content isNumber)
  refine ⟨stored.order other, ?_⟩
  intro comparison
  have otherStored : storageOf (some (readBy content operand)) = some other :=
    isOther
  rw [operandTruth, compareTruth, isStored, otherStored]

theorem memberTruth_of_present
    {operands : List Value}
    (areNumbers : ∀ operand ∈ operands, operand.isNaN = false) :
    memberTruth content operands =
      .ofBool
        (operands.any fun operand =>
          operandTruth .equal content operand == .holds) := by
  induction operands with
  | nil =>
      rfl
  | cons first rest inductionHypothesis =>
      rw [List.forall_mem_cons] at areNumbers
      obtain ⟨order, decides⟩ := exists_order present areNumbers.1
      rw [memberTruth, inductionHypothesis areNumbers.2, List.any_cons,
        decides]
      cases Comparison.equal.accepts order <;>
        cases rest.any fun operand =>
          operandTruth .equal content operand == .holds <;> rfl

end

section

variable (absent : (storageOf content).isSome = false)

include absent

theorem operandTruth_of_absent
    (comparison : Comparison)
    (operand : Value) :
    operandTruth comparison content operand = .unknown := by
  rw [Option.isSome_eq_false_iff, Option.isNone_iff_eq_none] at absent
  rw [operandTruth, compareTruth, absent]

theorem memberTruth_of_absent
    {operands : List Value}
    (notEmpty : operands ≠ []) :
    memberTruth content operands = .unknown := by
  induction operands with
  | nil =>
      exact absurd rfl notEmpty
  | cons first rest inductionHypothesis =>
      rw [memberTruth, operandTruth_of_absent absent]
      -- The empty list is false of null too, so the last member stands alone.
      cases rest with
      | nil =>
          rfl
      | cons second others =>
          rw [inductionHypothesis (List.cons_ne_nil second others)]
          rfl

end

/-- A content is in a list exactly when it equals a member of it. -/
theorem memberTruth_beq_holds (operands : List Value) :
    (memberTruth content operands == .holds) =
      operands.any fun operand =>
        operandTruth .equal content operand == .holds := by
  induction operands with
  | nil =>
      rfl
  | cons first rest inductionHypothesis =>
      rw [memberTruth, List.any_cons, ← inductionHypothesis,
        Bool.eq_iff_iff]
      simp

section

variable {operand : Value}
variable (isNumber : operand.isNaN = false)

include isNumber

/-- Either one order decides all comparisons, or null leaves them unknown. -/
theorem decided_or_unknown (content : Option Value) :
    ((storageOf content).isSome = true ∧
      ∃ order : Ordering, ∀ comparison,
        operandTruth comparison content operand =
          .ofBool (comparison.accepts order)) ∨
    ((storageOf content).isSome = false ∧
      ∀ comparison,
        operandTruth comparison content operand = .unknown) := by
  cases present : (storageOf content).isSome with
  | false =>
      exact Or.inr ⟨rfl, fun comparison =>
        operandTruth_of_absent present comparison operand⟩
  | true =>
      exact Or.inl ⟨rfl, exists_order present isNumber⟩

theorem count_equality :
    [ answer content .equals (.value operand),
      answer content .notEquals (.value operand),
      answer content .specified (.flag false) ].count .holds = 1 := by
  rcases decided_or_unknown isNumber content with
    ⟨present, order, decides⟩ | ⟨absent, unknown⟩
  · simp only [answer, decides, present]
    cases order <;> rfl
  · simp only [answer, unknown, absent]
    rfl

theorem count_order :
    [ answer content .lessThan (.value operand),
      answer content .equals (.value operand),
      answer content .greaterThan (.value operand),
      answer content .specified (.flag false) ].count .holds = 1 := by
  rcases decided_or_unknown isNumber content with
    ⟨present, order, decides⟩ | ⟨absent, unknown⟩
  · simp only [answer, decides, present]
    cases order <;> rfl
  · simp only [answer, unknown, absent]
    rfl

theorem atLeast_beq_holds :
    (answer content .atLeast (.value operand) == .holds) =
      (answer content .greaterThan (.value operand) == .holds ||
        answer content .equals (.value operand) == .holds) := by
  rcases decided_or_unknown isNumber content with
    ⟨-, order, decides⟩ | ⟨-, unknown⟩
  · simp only [answer, decides]
    cases order <;> rfl
  · simp only [answer, unknown]
    rfl

theorem atMost_beq_holds :
    (answer content .atMost (.value operand) == .holds) =
      (answer content .lessThan (.value operand) == .holds ||
        answer content .equals (.value operand) == .holds) := by
  rcases decided_or_unknown isNumber content with
    ⟨-, order, decides⟩ | ⟨-, unknown⟩
  · simp only [answer, decides]
    cases order <;> rfl
  · simp only [answer, unknown]
    rfl

end

theorem count_membership
    {operands : List Value}
    (notEmpty : operands ≠ [])
    (areNumbers : ∀ operand ∈ operands, operand.isNaN = false) :
    [ answer content .oneOf (.values operands),
      answer content .noneOf (.values operands),
      answer content .specified (.flag false) ].count .holds = 1 := by
  cases present : (storageOf content).isSome with
  | false =>
      simp only [answer, memberTruth_of_absent present notEmpty, present]
      rfl
  | true =>
      simp only [answer, memberTruth_of_present present areNumbers, present]
      cases operands.any fun operand =>
        operandTruth .equal content operand == .holds <;> rfl

theorem count_presence :
    [ answer content .specified (.flag true),
      answer content .specified (.flag false) ].count .holds = 1 := by
  simp only [answer]
  cases (storageOf content).isSome <;> rfl

/-- A content is searched exactly when it is stored. -/
theorem isSome_searched? (content : Option Value) :
    (content.bind Value.searched?).isSome = (storageOf content).isSome := by
  cases content with
  | none =>
      rfl
  | some value =>
      cases value with
      | float number =>
          by_cases notNumber : number.isNaN <;>
            simp [storageOf, Value.searched?, Value.storage?, notNumber]
      | _ =>
          rfl

theorem count_substring (part : String) :
    [ answer content .contains (.substring part),
      answer content .lacks (.substring part),
      answer content .specified (.flag false) ].count .holds = 1 := by
  simp only [answer, occurrenceTruth, ← isSome_searched?]
  cases content.bind Value.searched? with
  | none =>
      rfl
  | some searched =>
      dsimp only
      cases searched.contains part <;> rfl

end

end Sql

namespace Service

/-- Criteria of which every record is selected by exactly one. -/
structure Partition
    (service : Service)
    (records : List Record)
    (queries : List Criteria) :
    Prop where
  finds :
    ∀ criteria ∈ queries,
      service.Finds criteria
        (records.filter (criteria.selects service.entity))
  once :
    ∀ record ∈ records,
      queries.countP
        (fun criteria => criteria.selects service.entity record) = 1

/-- A criteria that selects what some others select together. -/
structure Union
    (service : Service)
    (records : List Record)
    (whole : Criteria)
    (parts : List Criteria) :
    Prop where
  finds :
    ∀ criteria ∈ whole :: parts,
      service.Finds criteria
        (records.filter (criteria.selects service.entity))
  covers :
    ∀ record ∈ records,
      whole.selects service.entity record =
        parts.any fun criteria => criteria.selects service.entity record

end Service

/-- An operand of a kind that is not a NaN. -/
def Kind.IsOperand (kind : Kind) (operand : Value) : Prop :=
  kind.accepts operand = true ∧ operand.isNaN = false

namespace Field

/-- The criteria that asks for the records without a value of a field. -/
def absent (field : Field) : Criteria :=
  field.asks .specified (.flag false)

/-- The criteria that asks a field for each of some values. -/
def equalTo (field : Field) (operands : List Value) : List Criteria :=
  operands.map fun operand => field.asks .equals (.value operand)

end Field

/-- The operators of a field divide some records. -/
structure Service.Divides
    (service : Service)
    (field : Field)
    (records : List Record) :
    Prop where
  equality :
    ∀ operand, field.kind.IsOperand operand →
      service.Partition records
        [ field.asks .equals (.value operand),
          field.asks .notEquals (.value operand),
          field.absent ]
  /-- A list that is not too long divides as its members do. -/
  membership :
    ∀ operands, operands ≠ [] →
      (∀ operand ∈ operands, field.kind.IsOperand operand) →
        operands.length ≤ StatementSize.mostValues →
          service.Partition records
              [ field.asks .oneOf (.values operands),
                field.asks .noneOf (.values operands),
                field.absent ] ∧
            service.Union records
              (field.asks .oneOf (.values operands))
              (field.equalTo operands)
  /-- A list that is too long is refused. -/
  refusal :
    ∀ operands, (∀ operand ∈ operands, field.kind.IsOperand operand) →
      StatementSize.mostValues < operands.length →
        service.FailsOn
            (field.asks .oneOf (.values operands)) .tooManyValues ∧
          service.FailsOn
            (field.asks .noneOf (.values operands)) .tooManyValues
  presence :
    service.Partition records
      [field.asks .specified (.flag true), field.absent]
  order :
    field.kind.isOrdinal = true →
      ∀ operand, field.kind.IsOperand operand →
        service.Partition records
            [ field.asks .lessThan (.value operand),
              field.asks .equals (.value operand),
              field.asks .greaterThan (.value operand),
              field.absent ] ∧
          service.Union records
            (field.asks .atLeast (.value operand))
            [ field.asks .greaterThan (.value operand),
              field.asks .equals (.value operand) ] ∧
          service.Union records
            (field.asks .atMost (.value operand))
            [ field.asks .lessThan (.value operand),
              field.asks .equals (.value operand) ]
  /-- A text field is divided by each text that may occur in it. -/
  substrings :
    field.kind.isText = true →
      ∀ part,
        service.Partition records
          [ field.asks .contains (.substring part),
            field.asks .lacks (.substring part),
            field.absent ]

section

variable {entity : Entity}
variable {field : Field}
variable (only : entity.HasOnly field)
variable (direct : field.isRelation = false)
variable (database : Database)
variable (config : Config)

include only direct

theorem Field.selects_asks_eq_answer
    {operator : Operator}
    {operand : Operand}
    (fits : operand.fits operator = true)
    (record : Record) :
    (field.asks operator operand).selects entity record =
      (Sql.answer (field.valueIn ⟨record, []⟩) operator operand ==
        .holds) := by
  obtain ⟨test, asked, -⟩ :=
    Sql.exists_test_of_fits .sqlite field.kind
      (field.columnRef entity.table) fits
  have sameValue :
      JoinedRow.get? ⟨record, []⟩ (field.columnRef entity.table) =
        field.valueIn ⟨record, []⟩ := by
    unfold Field.columnRef Field.valueIn
    cases field.source <;> rfl
  rw [Field.selects_asks only direct fits asked,
    Sql.truth_of_testOf? asked, sameValue]

namespace Service

variable (questions : List (Operator × Operand))
variable (whole : Operator × Operand)

theorem finds_of_answers
    (answers :
      ∀ question ∈ questions, field.Answers question.1 question.2) :
    ∀ criteria ∈ questions.map fun question =>
        field.asks question.1 question.2,
      (ofDatabase database entity config).Finds criteria
        ((database.table entity.table).records.filter
          (criteria.selects entity)) := by
  rw [List.forall_mem_map]
  intro question member
  exact finds_asks only direct database config (answers question member)

/-- Questions are a partition when one of their answers holds. -/
theorem partition_of_answers
    (answers :
      ∀ question ∈ questions, field.Answers question.1 question.2)
    (once :
      ∀ record ∈ (database.table entity.table).records,
        (questions.map fun question =>
          Sql.answer (field.valueIn ⟨record, []⟩)
            question.1 question.2).count .holds = 1) :
    (ofDatabase database entity config).Partition
      (database.table entity.table).records
      (questions.map fun question =>
        field.asks question.1 question.2) where
  finds := finds_of_answers only direct database config _ answers
  once := by
    intro record member
    -- Both sides count questions, by their criteria and by their answers.
    rw [← once record member, List.countP_map, List.count,
      List.countP_map]
    apply List.countP_congr
    intro question asked
    have selected :=
      Field.selects_asks_eq_answer only direct
        (answers question asked).takes.fits record
    rw [Function.comp_apply, Function.comp_apply, ← selected]
    rfl

/-- A question is a union when its answer holds with another one. -/
theorem union_of_answers
    (answers :
      ∀ question ∈ whole :: questions,
        field.Answers question.1 question.2)
    (covers :
      ∀ record ∈ (database.table entity.table).records,
        (Sql.answer (field.valueIn ⟨record, []⟩) whole.1 whole.2 ==
            .holds) =
          questions.any fun question =>
            Sql.answer (field.valueIn ⟨record, []⟩)
              question.1 question.2 == .holds) :
    (ofDatabase database entity config).Union
      (database.table entity.table).records
      (field.asks whole.1 whole.2)
      (questions.map fun question =>
        field.asks question.1 question.2) where
  finds := finds_of_answers only direct database config _ answers
  covers := by
    intro record member
    have selected (question : Operator × Operand)
        (asked : question ∈ whole :: questions) :=
      Field.selects_asks_eq_answer only direct
        (answers question asked).takes.fits record
    have ofWhole := selected whole List.mem_cons_self
    rw [List.any_map]
    refine ofWhole.trans ((covers record member).trans ?_)
    rw [Bool.eq_iff_iff, List.any_eq_true, List.any_eq_true]
    refine exists_congr fun question => and_congr_right fun asked => ?_
    rw [← selected question (List.mem_cons_of_mem whole asked)]
    rfl

end Service

end

namespace Field

variable {field : Field}
variable {operator : Operator}

/-- A value is an operand of every operator of its kind that takes one value. -/
theorem answers_value
    {operand : Value}
    (fits : (Operand.value operand).fits operator = true)
    (supported : field.kind.supports operator = true)
    (isOperand : field.kind.IsOperand operand) :
    field.Answers operator (.value operand) where
  takes := ⟨fits, supported, List.forall_mem_singleton.mpr isOperand.1⟩
  few := Nat.le_of_ble_eq_true rfl

theorem takes_values
    {operands : List Value}
    (fits : operator.isSet = true)
    (areOperands : ∀ operand ∈ operands, field.kind.IsOperand operand) :
    field.Takes operator (.values operands) where
  fits := fits
  supported := by
    cases operator <;> first
      | exact absurd fits Bool.false_ne_true
      | rfl
  accepted := fun operand member => (areOperands operand member).1

theorem length_boundAs_values
    {operands : List Value}
    (notEmpty : operands ≠ []) :
    ((Operand.values operands).boundAs .sqlite operator).length =
      operands.length := by
  cases operands with
  | nil =>
      exact absurd rfl notEmpty
  | cons first rest =>
      rfl

theorem answers_values
    {operands : List Value}
    (fits : operator.isSet = true)
    (areOperands : ∀ operand ∈ operands, field.kind.IsOperand operand)
    (notEmpty : operands ≠ [])
    (few : operands.length ≤ StatementSize.mostValues) :
    field.Answers operator (.values operands) where
  takes := takes_values fits areOperands
  few := (length_boundAs_values notEmpty).trans_le few

theorem answers_flag (flag : Bool) :
    field.Answers .specified (.flag flag) where
  takes := ⟨rfl, rfl, fun _ member => absurd member List.not_mem_nil⟩
  few := Nat.zero_le _

theorem answers_substring
    (fits : operator.isSubstring = true)
    (isText : field.kind.isText = true)
    (part : String) :
    field.Answers operator (.substring part) where
  takes := by
    refine ⟨fits, ?_, fun _ member => absurd member List.not_mem_nil⟩
    cases operator <;> first
      | exact absurd fits Bool.false_ne_true
      | exact isText
  few := Nat.le_of_ble_eq_true rfl

end Field

section

variable {entity : Entity}
variable {field : Field}
variable (only : entity.HasOnly field)
variable (direct : field.isRelation = false)
variable (database : Database)
variable (config : Config)

include only direct

namespace Service

section

variable {operand : Value}
variable (isOperand : field.kind.IsOperand operand)

include isOperand

theorem partition_equality :
    (ofDatabase database entity config).Partition
      (database.table entity.table).records
      [ field.asks .equals (.value operand),
        field.asks .notEquals (.value operand),
        field.absent ] := by
  refine partition_of_answers only direct database config
    [ (.equals, .value operand),
      (.notEquals, .value operand),
      (.specified, .flag false) ]
    ?_ ?_
  · rw [List.forall_mem_cons, List.forall_mem_cons,
      List.forall_mem_singleton]
    exact ⟨Field.answers_value rfl rfl isOperand,
      Field.answers_value rfl rfl isOperand, Field.answers_flag false⟩
  · intro record _
    exact Sql.count_equality isOperand.2

variable (ordinal : field.kind.isOrdinal = true)

include ordinal

theorem partition_order :
    (ofDatabase database entity config).Partition
      (database.table entity.table).records
      [ field.asks .lessThan (.value operand),
        field.asks .equals (.value operand),
        field.asks .greaterThan (.value operand),
        field.absent ] := by
  refine partition_of_answers only direct database config
    [ (.lessThan, .value operand),
      (.equals, .value operand),
      (.greaterThan, .value operand),
      (.specified, .flag false) ]
    ?_ ?_
  · rw [List.forall_mem_cons, List.forall_mem_cons, List.forall_mem_cons,
      List.forall_mem_singleton]
    exact ⟨Field.answers_value rfl ordinal isOperand,
      Field.answers_value rfl rfl isOperand,
      Field.answers_value rfl ordinal isOperand,
      Field.answers_flag false⟩
  · intro record _
    exact Sql.count_order isOperand.2

/-- A bound is reached by what is beyond it and by what it equals. -/
theorem union_order
    {bound beyond : Operator}
    (boundFits : (Operand.value operand).fits bound = true)
    (boundIsRange : bound.isRange = true)
    (beyondFits : (Operand.value operand).fits beyond = true)
    (beyondIsRange : beyond.isRange = true)
    (reaches :
      ∀ content,
        (Sql.answer content bound (.value operand) == .holds) =
          (Sql.answer content beyond (.value operand) == .holds ||
            Sql.answer content .equals (.value operand) == .holds)) :
    (ofDatabase database entity config).Union
      (database.table entity.table).records
      (field.asks bound (.value operand))
      [ field.asks beyond (.value operand),
        field.asks .equals (.value operand) ] := by
  have supported
      {operator : Operator}
      (isRange : operator.isRange = true) :
      field.kind.supports operator = true := by
    rw [Kind.supports, if_pos isRange, ordinal]
  refine union_of_answers only direct database config
    [(beyond, .value operand), (.equals, .value operand)]
    (bound, .value operand) ?_ ?_
  · rw [List.forall_mem_cons, List.forall_mem_cons,
      List.forall_mem_singleton]
    exact
      ⟨Field.answers_value boundFits (supported boundIsRange) isOperand,
        Field.answers_value beyondFits (supported beyondIsRange) isOperand,
        Field.answers_value rfl rfl isOperand⟩
  · intro record _
    rw [reaches]
    simp

end

section

variable {operands : List Value}
variable
  (areOperands : ∀ operand ∈ operands, field.kind.IsOperand operand)

include areOperands

theorem failsOn_membership
    {operator : Operator}
    (isSet : operator.isSet = true)
    (many : StatementSize.mostValues < operands.length) :
    (ofDatabase database entity config).FailsOn
      (field.asks operator (.values operands)) .tooManyValues := by
  have notEmpty : operands ≠ [] := by
    rintro rfl
    exact absurd many (Nat.not_lt_zero _)
  refine failsOn_asks only direct database config
    (Field.takes_values isSet areOperands) ?_
  rw [Field.length_boundAs_values notEmpty]
  exact many

variable (notEmpty : operands ≠ [])
variable (few : operands.length ≤ StatementSize.mostValues)

include notEmpty few

theorem partition_membership :
    (ofDatabase database entity config).Partition
      (database.table entity.table).records
      [ field.asks .oneOf (.values operands),
        field.asks .noneOf (.values operands),
        field.absent ] := by
  refine partition_of_answers only direct database config
    [ (.oneOf, .values operands),
      (.noneOf, .values operands),
      (.specified, .flag false) ]
    ?_ ?_
  · rw [List.forall_mem_cons, List.forall_mem_cons,
      List.forall_mem_singleton]
    exact ⟨Field.answers_values rfl areOperands notEmpty few,
      Field.answers_values rfl areOperands notEmpty few,
      Field.answers_flag false⟩
  · intro record _
    exact Sql.count_membership notEmpty fun operand member =>
      (areOperands operand member).2

/-- A list is reached by each of its members. -/
theorem union_membership :
    (ofDatabase database entity config).Union
      (database.table entity.table).records
      (field.asks .oneOf (.values operands))
      (field.equalTo operands) := by
  have each :
      field.equalTo operands =
        (operands.map fun operand =>
            (Operator.equals, Operand.value operand)).map
          fun question => field.asks question.1 question.2 := by
    rw [List.map_map]
    rfl
  rw [each]
  refine union_of_answers only direct database config _
    (.oneOf, .values operands) ?_ ?_
  · rw [List.forall_mem_cons, List.forall_mem_map]
    exact ⟨Field.answers_values rfl areOperands notEmpty few,
      fun operand member =>
        Field.answers_value rfl rfl (areOperands operand member)⟩
  · intro record _
    rw [List.any_map]
    exact Sql.memberTruth_beq_holds operands

end

theorem partition_presence :
    (ofDatabase database entity config).Partition
      (database.table entity.table).records
      [field.asks .specified (.flag true), field.absent] := by
  refine partition_of_answers only direct database config
    [(.specified, .flag true), (.specified, .flag false)] ?_ ?_
  · rw [List.forall_mem_cons, List.forall_mem_singleton]
    exact ⟨Field.answers_flag true, Field.answers_flag false⟩
  · intro record _
    exact Sql.count_presence

theorem partition_substring
    (isText : field.kind.isText = true)
    (part : String) :
    (ofDatabase database entity config).Partition
      (database.table entity.table).records
      [ field.asks .contains (.substring part),
        field.asks .lacks (.substring part),
        field.absent ] := by
  refine partition_of_answers only direct database config
    [ (.contains, .substring part),
      (.lacks, .substring part),
      (.specified, .flag false) ]
    ?_ ?_
  · rw [List.forall_mem_cons, List.forall_mem_cons,
      List.forall_mem_singleton]
    exact ⟨Field.answers_substring rfl isText part,
      Field.answers_substring rfl isText part, Field.answers_flag false⟩
  · intro record _
    exact Sql.count_substring part

end Service

end

namespace Club

/-- The scores of items. -/
def score : Field := .own "score" .float "score"

/-- The keys of the items that a question about their scores selects. -/
def keysByScore (operator : Operator) (operand : Operand) : List Int64 :=
  (items.records.filter
    ((score.asks operator operand).selects item)).map Record.key

end Club

namespace Club

/-- The keys of players. -/
def playerKey : Field := .own "id" .integer "id"

/-- Players whose name and whose phone are fields of one name. -/
def playerByContact : Entity :=
  { player with
    fields :=
      [.own "contact" .text "full_name", .own "contact" .text "phone"] }

/-- The field of a player's name, of which only the name is asked for. -/
def contact : Field := .own "contact" .text "full_name"

end Club

end RecordQuery
