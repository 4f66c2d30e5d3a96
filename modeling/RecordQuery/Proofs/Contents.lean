import RecordQuery.Proofs.Partition

namespace RecordQuery

/-!
# The contents that a question is asked about

A field on an own column has one content for a record.  A field on a related
record has one for each row that its join makes: the contents of the related
records, or the single content null where there are none.  A question about
either field finds a record once for each content on which the answer holds, if
the label of the join can be told from the name of the table
(`Service.finds_finding`).
-/

/-- The joins that a field needs: one for a relation, else none. -/
def Field.joins (field : Field) : List Join :=
  field.join?.toList

/-- The contents that a field has for a record, one for each of its rows. -/
def Field.contents
    (field : Field)
    (database : Database)
    (record : Record) :
    List (Option Value) :=
  (database.joinedRows field.joins record).map field.valueIn

/-- The records with a wanted content, once for each such content. -/
def Database.finding
    (database : Database)
    (entity : Entity)
    (field : Field)
    (wanted : Option Value → Bool) :
    List Record :=
  (database.table entity.table).records.flatMap fun record =>
    List.replicate ((field.contents database record).countP wanted) record

/-- The predicate of a single test after some joins. -/
def Predicate.ofJoinedTest
    (joins : List Join)
    (test : Sql.Test) :
    Predicate :=
  { ofTest test with joins := joins }

/-- A row reads under the column of a field the value of the field. -/
theorem Field.get?_columnRef
    (field : Field)
    (row : JoinedRow)
    (table : String) :
    row.get? (field.columnRef table) = field.valueIn row := by
  unfold columnRef valueIn
  cases field.source <;> rfl

section

variable {database : Database}
variable {record : Record}

/-- A relation has the contents of the choices that its join offers. -/
theorem Field.contents_of_related
    {field : Field}
    {join : Join}
    (related : field.source = .related join) :
    field.contents database record =
      (database.relatedChoices join record).map fun choice =>
        choice.bind fun other => other.get? join.column := by
  have oneJoin : field.joins = [join] := by
    simp [joins, join?, related]
  have offered :
      database.choices record [join] =
        (database.relatedChoices join record).map fun choice =>
          [(join.label, choice)] := by
    rw [Database.choices, ← List.flatMap_pure_eq_map]
    rfl
  simp [contents, oneJoin, Database.joinedRows, offered, valueIn, related,
    JoinedRow.relatedIn]

/-- A record is found when one of its contents is wanted. -/
theorem Database.mem_finding
    {entity : Entity}
    {field : Field}
    {wanted : Option Value → Bool} :
    record ∈ database.finding entity field wanted ↔
      record ∈ (database.table entity.table).records ∧
        ∃ content ∈ field.contents database record,
          wanted content = true := by
  simp only [finding, List.mem_flatMap, List.mem_replicate,
    ← Nat.pos_iff_ne_zero, List.countP_pos_iff]
  constructor
  · rintro ⟨_, member, isWanted, rfl⟩
    exact ⟨member, isWanted⟩
  · rintro ⟨member, isWanted⟩
    exact ⟨record, member, isWanted, rfl⟩

end

section

variable {entity : Entity}
variable {field : Field}
variable {operator : Operator}
variable {operand : Operand}
variable (only : entity.HasOnly field)

include only

/-- Only the field that is asked adds to the predicate of a question. -/
theorem Field.predicate_asks_eq_extend
    (fits : operand.fits operator = true)
    (dialect : Sql.Dialect) :
    (field.asks operator operand).predicate dialect entity =
      (field.asks operator operand).extend dialect entity.table
        .everything field := by
  have untouched :
      (field.asks operator operand).extend dialect entity.table =
        fun predicate other =>
          if other.name == field.name then
            (field.asks operator operand).extend dialect entity.table
              predicate other
          else
            predicate := by
    funext predicate other
    by_cases same : field.name = other.name
    · simp [same]
    · simp [Criteria.extend, populated?_asks fits, same, Ne.symm same]
  rw [Criteria.predicate, untouched, ← List.foldl_filter,
    only.filter_compileOrder]
  simp [Field.asks, Criteria.insert, Criteria.empty, Predicate.everything]

/-- A question about any field is compiled to its test after its join. -/
theorem Field.predicate_asks_eq_ofJoinedTest
    {dialect : Sql.Dialect}
    {test : Sql.Test}
    (fits : operand.fits operator = true)
    (asked :
      Sql.testOf? dialect field.kind (field.columnRef entity.table)
        operator operand = some test) :
    (field.asks operator operand).predicate dialect entity =
      .ofJoinedTest field.joins test := by
  have condition :
      Sql.conditionOf dialect entity.table field (.only operator operand) =
        .all [.test test] := by
    rw [Sql.conditionOf, Sql.testsOf_only fits asked, List.map_singleton]
  rw [predicate_asks_eq_extend only fits, Criteria.extend,
    populated?_asks fits, if_pos rfl]
  dsimp only
  rw [condition, Predicate.addJoinOf, joins]
  cases field.join? <;> rfl

namespace Database

variable (database : Database)

/-- A question selects the records with a content on which its answer holds. -/
theorem select_asks (fits : operand.fits operator = true) :
    database.select entity
        ((field.asks operator operand).predicate .sqlite entity) =
      database.finding entity field fun content =>
        Sql.answer content operator operand == .holds := by
  obtain ⟨test, asked, -⟩ :=
    Sql.exists_test_of_fits .sqlite field.kind
      (field.columnRef entity.table) fits
  have truth (row : JoinedRow) :
      (Predicate.ofJoinedTest field.joins test).condition.truth row =
        Sql.answer (field.valueIn row) operator operand :=
    calc
      _ = test.truth row := Predicate.truth_ofTest test row
      _ = Sql.answer (row.get? (field.columnRef entity.table))
            operator operand := Sql.truth_of_testOf? asked row
      _ = Sql.answer (field.valueIn row) operator operand := by
        rw [Field.get?_columnRef]
  have occurrences :
      database.occurrences (.ofJoinedTest field.joins test) =
        fun record =>
          List.replicate
            ((field.contents database record).countP fun content =>
              Sql.answer content operator operand == .holds)
            record := by
    funext record
    rw [Database.occurrences, Field.contents, List.countP_map,
      List.countP_eq_length_filter, List.eq_replicate_iff]
    simp only [truth, Function.comp_def]
    refine ⟨List.length_map .., ?_⟩
    rw [List.forall_mem_map]
    intro row member
    exact (mem_joinedRows.mp (List.mem_of_mem_filter member)).ofBase
  have unhinted :
      ¬(Predicate.ofJoinedTest field.joins test).isDistinct = true :=
    Bool.false_ne_true
  rw [Field.predicate_asks_eq_ofJoinedTest only fits asked, select,
    occurrences, if_neg unhinted, finding]

end Database

omit only in
/-- A join leaves room for a test and for the values that it binds. -/
theorem StatementSize.refusal?_ofJoinedTest
    (field : Field)
    {test : Sql.Test}
    (taken : (ofSelect (.ofTest test)).refusal? = none) :
    (ofSelect (.ofJoinedTest field.joins test)).refusal? = none := by
  rw [refusal?_eq_none] at taken ⊢
  obtain ⟨-, -, bound, fewSortKeys⟩ := taken
  have fewTables : field.joins.length + 1 ≤ mostTables := by
    unfold Field.joins
    cases field.join? <;> exact Nat.le_of_ble_eq_true rfl
  refine ⟨fewTables, ?_, bound, fewSortKeys⟩
  have shallow : (Predicate.ofTest test).condition.depth ≤ 5 :=
    test.depth_le
  have joined :
      predicateDepth (.ofJoinedTest field.joins test) ≤ 6 := by
    unfold predicateDepth Field.joins
    cases field.join? with
    | none =>
        exact Nat.le_succ_of_le shallow
    | some join =>
        exact Nat.succ_le_succ (Nat.max_le.mpr ⟨shallow, by decide⟩)
  exact Nat.le_trans joined (by decide)

omit only in
/-- A label that differs from the table's name leaves two tables apart. -/
theorem Predicate.namesApart_ofJoinedTest
    (apart : field.LabelApart entity.table)
    (test : Sql.Test) :
    (ofJoinedTest field.joins test).NamesApart entity.table := by
  unfold Field.LabelApart at apart
  unfold ofJoinedTest Field.joins NamesApart
  cases joined : field.join? with
  | none =>
      exact List.nodup_singleton _
  | some join =>
      have different := apart join joined
      simpa using different.symm

theorem Field.namesApart_asks
    (apart : field.LabelApart entity.table)
    (fits : operand.fits operator = true) :
    ((field.asks operator operand).predicate .sqlite entity).NamesApart
      entity.table := by
  obtain ⟨test, asked, -⟩ :=
    Sql.exists_test_of_fits .sqlite field.kind
      (field.columnRef entity.table) fits
  rw [predicate_asks_eq_ofJoinedTest only fits asked]
  exact Predicate.namesApart_ofJoinedTest apart test

/-- A question binds the values of its operand. -/
theorem Field.values_asks (fits : operand.fits operator = true) :
    (StatementSize.ofSelect
        ((field.asks operator operand).predicate .sqlite entity)).values =
      (operand.boundAs .sqlite operator).length := by
  obtain ⟨test, asked, binds⟩ :=
    Sql.exists_test_of_fits .sqlite field.kind
      (field.columnRef entity.table) fits
  rw [predicate_asks_eq_ofJoinedTest only fits asked, ← binds]
  exact StatementSize.values_ofTest test

theorem Field.taken_asks (answers : field.Answers operator operand) :
    (StatementSize.ofSelect
      ((field.asks operator operand).predicate .sqlite entity)).refusal? =
        none := by
  have fits := answers.takes.fits
  obtain ⟨test, asked, binds⟩ :=
    Sql.exists_test_of_fits .sqlite field.kind
      (field.columnRef entity.table) fits
  have unjoined := StatementSize.refusal?_ofTest test
  rw [binds, if_neg (Nat.not_lt.mpr answers.few)] at unjoined
  rw [predicate_asks_eq_ofJoinedTest only fits asked]
  exact StatementSize.refusal?_ofJoinedTest field unjoined

/-- A question finds the records with a content on which its answer holds. -/
theorem Service.finds_finding
    (apart : field.LabelApart entity.table)
    (answers : field.Answers operator operand)
    (database : Database)
    (config : Config) :
    (ofDatabase database entity config).Finds
      (field.asks operator operand)
      (database.finding entity field fun content =>
        Sql.answer content operator operand == .holds) := by
  have fits := answers.takes.fits
  rw [← Database.select_asks only database fits]
  exact finds_of_taken (Field.compile_asks only answers.takes .sqlite)
    database config (Field.namesApart_asks only apart fits)
    (Field.taken_asks only answers)

end

end RecordQuery
