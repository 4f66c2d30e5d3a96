import RecordQuery.Proofs.Composition

namespace RecordQuery

/-!
# Criteria that ask one question

The smallest criteria asks one operator of one field.  On an own column it is
compiled to a single test without a join, so it finds the records on which the
test holds, unless it lists more values than a database takes.
-/

/-- The filter with a single operator; empty if the operand does not fit. -/
def Filter.only (operator : Operator) (operand : Operand) : Filter :=
  match empty.set operator operand with
  | .ok filter => filter
  | .error _ => empty

/-- The criteria that asks a single operator of a field. -/
def Field.asks
    (field : Field)
    (operator : Operator)
    (operand : Operand) :
    Criteria :=
  Criteria.empty.insert field.name (.only operator operand)

/-- A field of an entity whose name no other field of the entity has. -/
def Entity.HasOnly (entity : Entity) (field : Field) : Prop :=
  entity.fields.filter (fun other => other.name == field.name) = [field]

/-- The predicate of a single test, without a join. -/
def Predicate.ofTest (test : Sql.Test) : Predicate :=
  everything.and (.test test)

/-- An operand that an operator of a field may be asked with. -/
structure Field.Takes
    (field : Field)
    (operator : Operator)
    (operand : Operand) :
    Prop where
  fits : operand.fits operator = true
  supported : field.kind.supports operator = true
  accepted : ∀ value ∈ operand.members, field.kind.accepts value = true

/-- An operand that also is small enough for a statement. -/
structure Field.Answers
    (field : Field)
    (operator : Operator)
    (operand : Operand) :
    Prop where
  takes : field.Takes operator operand
  few :
    (operand.boundAs .sqlite operator).length ≤ StatementSize.mostValues

theorem Predicate.truth_ofTest (test : Sql.Test) (row : JoinedRow) :
    (ofTest test).condition.truth row = test.truth row := by
  have alone : everything.condition.truth row = .holds := rfl
  rw [ofTest, truth_and, alone, Sql.Condition.truth]
  cases test.truth row <;> rfl

theorem Predicate.eq_ofTest
    {predicate : Predicate}
    {test : Sql.Test}
    (members : predicate.members = [.test test])
    (labels : predicate.labels = [])
    (distinct : predicate.distinct = none) :
    predicate = .ofTest test := by
  have joins := List.map_eq_nil_iff.mp labels
  obtain ⟨_, _, _⟩ := predicate
  cases members
  cases joins
  cases distinct
  rfl

namespace Filter

variable {operator : Operator}
variable {operand : Operand}
variable (fits : operand.fits operator = true)

include fits

theorem operand?_only (other : Operator) :
    (only operator operand).operand? other =
      if operator = other then some operand else none := by
  obtain ⟨filter, set⟩ := (set_isOk_iff empty operator operand).mpr fits
  rw [only, set, operand?_set set, operand?_empty]

theorem operators_only : (only operator operand).operators = [operator] := by
  have isOperator :
      (fun other => ((only operator operand).operand? other).isSome) =
        fun other => decide (operator = other) := by
    funext other
    rw [operand?_only fits]
    by_cases same : operator = other <;> simp [same]
  rw [operators_eq, isOperator]
  cases operator <;> rfl

theorem eq_of_populates_only
    {other : Operator}
    (populates : (only operator operand).Populates other) :
    other = operator := by
  have listed := mem_operators.mpr populates
  rw [operators_only fits] at listed
  exact List.mem_singleton.mp listed

/-- An operator goes together with itself. -/
theorem goesTogether_only : (only operator operand).GoesTogether where
  specifiedAlone := by
    intro isSpecified other populates
    rw [eq_of_populates_only fits populates,
      eq_of_populates_only fits isSpecified]
  notMixed := by
    rintro ⟨range, substring, isRange, isSubstring, hasRange, hasSubstring⟩
    rw [eq_of_populates_only fits hasRange] at isRange
    rw [eq_of_populates_only fits hasSubstring] at isSubstring
    cases operator <;> simp_all [Operator.isRange, Operator.isSubstring]

end Filter

namespace Sql

/-- A single operator asks for a single test. -/
theorem testsOf_only
    {dialect : Dialect}
    {kind : Kind}
    {column : ColumnRef}
    {operator : Operator}
    {operand : Operand}
    {test : Test}
    (fits : operand.fits operator = true)
    (asked : testOf? dialect kind column operator operand = some test) :
    testsOf dialect kind column (.only operator operand) = [test] := by
  have isAsked :
      (fun other =>
          ((Filter.only operator operand).operand? other).bind
            (testOf? dialect kind column other)) =
        fun other => if operator = other then some test else none := by
    funext other
    rw [Filter.operand?_only fits]
    by_cases same : operator = other
    · subst same
      simp [asked]
    · simp [same]
  rw [testsOf, isAsked]
  cases operator <;> rfl

end Sql

namespace Entity

variable {entity : Entity}
variable {field : Field}
variable (only : entity.HasOnly field)

include only

theorem HasOnly.member : field ∈ entity.fields := by
  have member : field ∈ [field] := List.mem_singleton_self field
  rw [← only] at member
  exact List.mem_of_mem_filter member

theorem HasOnly.eq
    {other : Field}
    (member : other ∈ entity.fields)
    (sameName : field.name = other.name) :
    other = field := by
  have kept :
      other ∈ entity.fields.filter fun other => other.name == field.name :=
    List.mem_filter.mpr ⟨member, beq_iff_eq.mpr sameName.symm⟩
  rw [only] at kept
  exact List.mem_singleton.mp kept

/-- A field that has its name to itself is compiled once. -/
theorem HasOnly.filter_compileOrder :
    entity.compileOrder.filter (fun other => other.name == field.name) =
      [field] := by
  have sameFields :
      (entity.compileOrder.filter
          fun other => other.name == field.name).Perm
        (entity.fields.filter fun other => other.name == field.name) :=
    Criteria.perm_compileOrder.filter _
  rw [only] at sameFields
  exact List.perm_singleton.mp sameFields

end Entity

namespace Field

theorem owner_columnRef_of_own
    {field : Field}
    (direct : field.isRelation = false)
    {table : String} :
    (field.columnRef table).owner = .base table := by
  unfold isRelation at direct
  unfold columnRef
  cases source : field.source with
  | own column =>
      rfl
  | related join =>
      simp [source] at direct

variable {field : Field}
variable {operator : Operator}
variable {operand : Operand}

theorem populated?_asks
    (fits : operand.fits operator = true)
    (name : String) :
    (field.asks operator operand).populated? name =
      if field.name = name then
        some (.only operator operand)
      else
        none := by
  have notEmpty : (Filter.only operator operand).isEmpty = false := by
    rw [Filter.isEmpty, Filter.operators_only fits]
    rfl
  rw [asks, Criteria.populated?_insert, Option.filter_some, notEmpty]
  rfl

theorem admits_only (takes : field.Takes operator operand) :
    field.Admits (.only operator operand) where
  together := Filter.goesTogether_only takes.fits
  supported := by
    intro other populates
    rw [Filter.eq_of_populates_only takes.fits populates]
    exact takes.supported
  accepted := by
    intro other otherOperand populated
    rw [Filter.operand?_only takes.fits] at populated
    split at populated
    · rw [Option.some.injEq] at populated
      subst populated
      exact takes.accepted
    · exact absurd populated (by simp)

section

variable {entity : Entity}
variable (only : entity.HasOnly field)

include only

theorem compile_asks
    (takes : field.Takes operator operand)
    (dialect : Sql.Dialect) :
    compile dialect entity (some (field.asks operator operand)) =
      .ok ((field.asks operator operand).predicate dialect entity) := by
  refine (compile_eq_ok_iff _ _ _ _).mpr ⟨?_, ?_, rfl⟩
  · rintro ⟨name, filter⟩ populated
    rw [Criteria.mem_fields_iff, populated?_asks takes.fits] at populated
    split at populated
    next same =>
      subst same
      have known := only.member
      rw [Entity.field?, List.find?_isSome]
      exact ⟨field, known, beq_self_eq_true _⟩
    next =>
      exact absurd populated (by simp)
  · intro other member
    rw [Criteria.faultOn?, populated?_asks takes.fits]
    split
    next same =>
      rw [only.eq member same, Option.bind_some, fault?_eq_none_iff]
      exact admits_only takes
    next =>
      rfl

section

variable {dialect : Sql.Dialect}
variable {test : Sql.Test}
variable (fits : operand.fits operator = true)
variable
  (asked :
    Sql.testOf? dialect field.kind (field.columnRef entity.table)
      operator operand = some test)

include fits

include asked in
theorem members_predicate_asks :
    ((field.asks operator operand).predicate dialect entity).members =
      [.test test] := by
  -- Fields of other names are not asked, and one field has this name.
  have sameNameOnly :
      entity.compileOrder.filterMap
          ((field.asks operator operand).memberOf? dialect entity.table) =
        (entity.compileOrder.filter
            fun other => other.name == field.name).filterMap
          ((field.asks operator operand).memberOf? dialect
            entity.table) := by
    rw [List.filterMap_filter]
    apply List.filterMap_congr
    intro other _
    by_cases same : field.name = other.name
    · simp [same]
    · simp [Criteria.memberOf?, populated?_asks fits, same, Ne.symm same]
  rw [Criteria.members_predicate, sameNameOnly, only.filter_compileOrder]
  simp [Criteria.memberOf?, populated?_asks fits, Sql.conditionOf,
    Sql.testsOf_only fits asked, Sql.Condition.unwrapped]

theorem labels_predicate_asks (direct : field.isRelation = false) :
    ((field.asks operator operand).predicate dialect entity).labels =
      [] := by
  have noLabel :
      entity.fields.filterMap (field.asks operator operand).labelOf? =
        [] := by
    rw [List.filterMap_eq_nil_iff]
    intro other member
    by_cases same : field.name = other.name
    · rw [only.eq member same, Criteria.labelOf?_of_own direct]
    · rw [Criteria.labelOf?, populated?_asks fits, if_neg same,
        Option.bind_none]
  rw [Criteria.labels_predicate, noLabel]
  rfl

include asked in
/-- A question of an own column is compiled to its test. -/
theorem predicate_asks (direct : field.isRelation = false) :
    (field.asks operator operand).predicate dialect entity =
      .ofTest test :=
  Predicate.eq_ofTest
    (members_predicate_asks only fits asked)
    (labels_predicate_asks only fits direct)
    Criteria.distinct_predicate

end

end

end Field

namespace Sql

theorem Test.depth_le (test : Test) : test.depth ≤ 5 := by
  have target_le (target : Target) : target.depth ≤ 3 := by
    unfold Target.depth
    split <;> decide
  cases test with
  | compare target comparison operand =>
      exact Nat.le_succ_of_le (Nat.succ_le_succ (target_le target))
  | member target negated operands =>
      have shallow := target_le target
      cases operands with
      | nil =>
          exact Nat.le_add_left 2 3
      | cons first rest =>
          cases negated <;> simp only [depth] <;> simp <;> omega
  | null target negated =>
      exact Nat.le_succ_of_le (Nat.succ_le_succ (target_le target))
  | position target negated needle =>
      exact Nat.add_le_add_right (target_le target) 2
  | like target negated pattern =>
      have shallow := target_le target
      cases negated <;> simp only [depth] <;> simp <;> omega

end Sql

theorem StatementSize.values_ofTest (test : Sql.Test) :
    (ofSelect (.ofTest test)).values =
      (Sql.boundValues (test.pieces .sqlite)).length := by
  have single : (Predicate.ofTest test).condition = .all [.test test] :=
    rfl
  simp [ofSelect, single, Sql.Condition.pieces, Sql.junctionPieces,
    Sql.laterPieces, Sql.parenthesized]

/-- A single test is refused only if it binds too many values. -/
theorem StatementSize.refusal?_ofTest (test : Sql.Test) :
    (ofSelect (.ofTest test)).refusal? =
      if mostValues < (Sql.boundValues (test.pieces .sqlite)).length then
        some .tooManyValues
      else
        none := by
  have shallow : (ofSelect (.ofTest test)).depth ≤ greatestDepth :=
    Nat.le_trans test.depth_le (by decide)
  have sortKeys : (ofSelect (.ofTest test)).sortKeys = 0 := rfl
  have oneTable : ¬mostTables < (ofSelect (.ofTest test)).tables :=
    Nat.not_lt.mpr (Nat.le_of_ble_eq_true rfl)
  rw [refusal?, if_neg oneTable, if_neg (Nat.not_lt.mpr shallow),
    values_ofTest, sortKeys, if_neg (Nat.not_lt_zero mostSortKeys)]

namespace Database

variable (database : Database)
variable (entity : Entity)

theorem select_everything :
    database.select entity .everything =
      (database.table entity.table).records := by
  have occursOnce :
      database.occurrences .everything = fun base => [base] := rfl
  have unhinted : ¬Predicate.everything.isDistinct = true := by decide
  rw [select, occursOnce, List.flatMap_singleton', if_neg unhinted]

/-- A test of own columns selects the records on which it holds. -/
theorem select_ofTest
    {test : Sql.Test}
    (own : test.target.column.owner = .base entity.table) :
    database.select entity (.ofTest test) =
      (database.table entity.table).records.filter
        (Sql.Condition.test test).selects := by
  rw [Predicate.ofTest, select_and (.test own), select_everything]

end Database

/-- Whether a criteria holds on a record by itself, without related ones. -/
def Criteria.selects
    (criteria : Criteria)
    (entity : Entity)
    (record : Record) :
    Bool :=
  (criteria.predicate .sqlite entity).condition.selects record

section

variable {entity : Entity}
variable {field : Field}
variable {operator : Operator}
variable {operand : Operand}
variable (only : entity.HasOnly field)
variable (direct : field.isRelation = false)

include only direct

/-- A question is answered by the truth of its test. -/
theorem Field.selects_asks
    {test : Sql.Test}
    (fits : operand.fits operator = true)
    (asked :
      Sql.testOf? .sqlite field.kind (field.columnRef entity.table)
        operator operand = some test)
    (record : Record) :
    (field.asks operator operand).selects entity record =
      (test.truth ⟨record, []⟩ == .holds) := by
  rw [Criteria.selects, predicate_asks only fits asked direct,
    Sql.Condition.selects, Predicate.truth_ofTest]

namespace Service

variable (database : Database)
variable (config : Config)

theorem finds_asks (answers : field.Answers operator operand) :
    (ofDatabase database entity config).Finds
      (field.asks operator operand)
      ((database.table entity.table).records.filter
        ((field.asks operator operand).selects entity)) := by
  have fits := answers.takes.fits
  obtain ⟨test, asked, binds⟩ :=
    Sql.exists_test_of_fits .sqlite field.kind
      (field.columnRef entity.table) fits
  have compiled := Field.compile_asks only answers.takes .sqlite
  rw [Field.predicate_asks only fits asked direct] at compiled
  have taken := StatementSize.refusal?_ofTest test
  rw [binds, if_neg (Nat.not_lt.mpr answers.few)] at taken
  have own : test.target.column.owner = .base entity.table := by
    rw [Sql.column_target_of_testOf? asked]
    exact Field.owner_columnRef_of_own direct
  have selected :
      (Sql.Condition.test test).selects =
        (field.asks operator operand).selects entity :=
    funext fun record =>
      (Field.selects_asks only direct fits asked record).symm
  have found :=
    finds_of_taken compiled database config
      (Predicate.namesApart_of_joins_eq_nil rfl) taken
  rw [Database.select_ofTest database entity own, selected] at found
  exact found

theorem failsOn_asks
    (takes : field.Takes operator operand)
    (many :
      StatementSize.mostValues <
        (operand.boundAs .sqlite operator).length) :
    (ofDatabase database entity config).FailsOn
      (field.asks operator operand) .tooManyValues := by
  obtain ⟨test, asked, binds⟩ :=
    Sql.exists_test_of_fits .sqlite field.kind
      (field.columnRef entity.table) takes.fits
  have compiled := Field.compile_asks only takes .sqlite
  rw [Field.predicate_asks only takes.fits asked direct] at compiled
  have refused := StatementSize.refusal?_ofTest test
  rw [binds, if_pos many] at refused
  exact failsOn_of_refused compiled database config
    (Predicate.namesApart_of_joins_eq_nil rfl) refused

end Service

end

end RecordQuery
