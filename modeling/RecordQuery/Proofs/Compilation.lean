import RecordQuery.Compilation
import RecordQuery.Sql.Evaluation

namespace RecordQuery

/-!
# What a successful compilation says

A criteria compiles exactly when all its populated fields are known and no field
of the entity is at fault with its filter (`compile_eq_ok_iff`).  The predicate
is then the result of one step for each field, `Criteria.extend`, taken in the
order of compilation.  Whatever is to be proved of predicates follows from what
one step does.
-/

namespace NameMap

variable {Entry : Type}

/-- In ascending entries a name leads exactly to its own entry. -/
theorem lookup_eq_some_iff
    {entries : List (String × Entry)}
    (ascending : entries.Pairwise fun left right => left.1 < right.1)
    (name : String)
    (value : Entry) :
    lookup name entries = some value ↔ (name, value) ∈ entries := by
  induction entries with
  | nil =>
      simp [lookup]
  | cons first rest inductionHypothesis =>
      obtain ⟨firstLess, restAscending⟩ := List.pairwise_cons.mp ascending
      by_cases here : first.1 = name
      · subst here
        have notLater : (first.1, value) ∉ rest := fun member =>
          String.lt_irrefl first.1 (firstLess (first.1, value) member)
        simp only [lookup, ↓reduceIte, Option.some.injEq, List.mem_cons,
          notLater, or_false]
        constructor
        · rintro rfl
          rfl
        · intro same
          rw [← same]
      · have different : (name, value) ≠ first := fun same =>
          here (by rw [← same])
        simp [lookup, here, different, inductionHypothesis restAscending]

theorem get?_eq_some_iff
    (map : NameMap Entry)
    (name : String)
    (value : Entry) :
    map.get? name = some value ↔ (name, value) ∈ map.entries :=
  lookup_eq_some_iff map.ascending name value

end NameMap

namespace Entity

/-- With distinct names every field is the field of its name. -/
theorem field?_name
    {entity : Entity}
    {field : Field}
    (distinctNames : (entity.fields.map Field.name).Nodup)
    (member : field ∈ entity.fields) :
    entity.field? field.name = some field := by
  unfold field?
  revert distinctNames member
  induction entity.fields with
  | nil =>
      simp
  | cons first rest inductionHypothesis =>
      intro distinctNames member
      rw [List.map_cons, List.nodup_cons] at distinctNames
      rcases List.mem_cons.mp member with isFirst | inRest
      · simp [isFirst]
      · have different : first.name ≠ field.name := fun same =>
          distinctNames.1 (same ▸ List.mem_map_of_mem inRest)
        rw [List.find?_cons_of_neg (by simpa using different)]
        exact inductionHypothesis distinctNames.2 inRest

theorem mem_compileOrder
    {entity : Entity}
    {field : Field} :
    field ∈ entity.compileOrder ↔ field ∈ entity.fields := by
  simp only [compileOrder, List.mem_append, List.mem_filter,
    Bool.not_eq_true', ← and_or_left]
  cases field.isRelation <;> simp

end Entity

/-- A filter is at no fault with a field when it passes all three checks. -/
theorem Field.fault?_eq_none_iff_checked
    {field : Field}
    {filter : Filter} :
    field.fault? filter = none ↔
      filter.fault? = none ∧ field.unsupported? filter = none ∧
        field.unaccepted? filter = none := by
  unfold fault?
  cases filter.fault? with
  | some fault =>
      simp
  | none =>
      cases field.unsupported? filter <;> simp

namespace Criteria

/-- The populated filters are those that constrain a field. -/
theorem mem_fields_iff
    {criteria : Criteria}
    {name : String}
    {filter : Filter} :
    (name, filter) ∈ criteria.fields ↔
      criteria.populated? name = some filter := by
  simp [fields, populated?, filter?, Option.filter_eq_some_iff,
    NameMap.get?_eq_some_iff]

/-- A field is populated when the filter on it is not empty. -/
theorem populated?_eq (criteria : Criteria) (name : String) :
    criteria.populated? name =
      if (criteria.filterOrEmpty name).isEmpty then
        none
      else
        some (criteria.filterOrEmpty name) := by
  unfold populated? filterOrEmpty
  cases criteria.filter? name with
  | none =>
      rfl
  | some filter =>
      cases isEmpty : filter.isEmpty <;> simp [Option.filter, isEmpty]

theorem populated?_insert
    (criteria : Criteria)
    (field : String)
    (filter : Filter)
    (name : String) :
    (criteria.insert field filter).populated? name =
      if field = name then
        (some filter).filter fun filter => !filter.isEmpty
      else
        criteria.populated? name := by
  rw [populated?, filter?_insert]
  split <;> rfl

/-- What one field adds to a predicate: its condition and its join. -/
def extend
    (dialect : Sql.Dialect)
    (table : String)
    (criteria : Criteria)
    (predicate : Predicate)
    (field : Field) :
    Predicate :=
  match criteria.populated? field.name with
  | none => predicate
  | some filter =>
      (predicate.addJoinOf field).and
        (Sql.conditionOf dialect table field filter)

/-- Why a criteria cannot be applied to a field, if it constrains it. -/
def faultOn? (criteria : Criteria) (field : Field) : Option QueryError :=
  (criteria.populated? field.name).bind field.fault?

/-- Fields without a fault are compiled one step after the other. -/
theorem compileFields_eq_ok_iff
    (dialect : Sql.Dialect)
    (table : String)
    (criteria : Criteria)
    (fields : List Field)
    (start predicate : Predicate) :
    compileFields dialect table criteria fields start = .ok predicate ↔
      (∀ field ∈ fields, criteria.faultOn? field = none) ∧
        predicate = fields.foldl (criteria.extend dialect table) start := by
  induction fields generalizing start with
  | nil =>
      simp [compileFields, eq_comm]
  | cons field rest inductionHypothesis =>
      rw [compileFields]
      cases found : criteria.populated? field.name with
      | none =>
          simp [inductionHypothesis, faultOn?, extend, found]
      | some filter =>
          cases faulty : field.fault? filter with
          | none =>
              simp [inductionHypothesis, faultOn?, extend, found, faulty]
          | some error =>
              simp [faultOn?, found, faulty]

/-- The predicate of a criteria without faults. -/
def predicate
    (criteria : Criteria)
    (dialect : Sql.Dialect)
    (entity : Entity) :
    Predicate :=
  entity.compileOrder.foldl (criteria.extend dialect entity.table)
    { Predicate.everything with distinct := criteria.distinct }

end Criteria

/--
A criteria compiles exactly when the entity has all its populated fields and no
field is at fault.
-/
theorem compile_eq_ok_iff
    (dialect : Sql.Dialect)
    (entity : Entity)
    (criteria : Criteria)
    (predicate : Predicate) :
    compile dialect entity (some criteria) = .ok predicate ↔
      (∀ entry ∈ criteria.fields, (entity.field? entry.1).isSome) ∧
        (∀ field ∈ entity.fields, criteria.faultOn? field = none) ∧
          predicate = criteria.predicate dialect entity := by
  have known :
      criteria.unknownField? entity = none ↔
        ∀ entry ∈ criteria.fields, (entity.field? entry.1).isSome := by
    simp [Criteria.unknownField?, Option.isSome_iff_ne_none]
  rw [← known]
  simp only [compile, Criteria.compile]
  cases criteria.unknownField? entity with
  | some field =>
      simp
  | none =>
      simp only [Criteria.compileFields_eq_ok_iff, true_and,
        Entity.mem_compileOrder, Criteria.predicate]

namespace Sql

theorem mem_testsOf
    {dialect : Dialect}
    {kind : Kind}
    {column : ColumnRef}
    {filter : Filter}
    {test : Test} :
    test ∈ testsOf dialect kind column filter ↔
      ∃ operator operand, filter.operand? operator = some operand ∧
        testOf? dialect kind column operator operand = some test := by
  simp [testsOf, Option.bind_eq_some_iff, Operator.mem_all]

theorem allTruth_append
    (row : JoinedRow)
    (members : List Condition)
    (last : Condition) :
    allTruth row (members ++ [last]) =
      (allTruth row members).and (last.truth row) := by
  induction members with
  | nil =>
      cases truth : last.truth row <;> simp [allTruth, truth, Truth.and]
  | cons member rest inductionHypothesis =>
      simp only [List.cons_append, allTruth, inductionHypothesis]
      cases member.truth row <;> cases allTruth row rest <;>
        cases last.truth row <;> rfl

end Sql

namespace Predicate

/-- A narrowed predicate asks for both: nothing escapes the conjunction. -/
@[simp] theorem truth_and
    (predicate : Predicate)
    (condition : Sql.Condition)
    (row : JoinedRow) :
    (predicate.and condition).condition.truth row =
      (predicate.condition.truth row).and (condition.truth row) := by
  simp [Predicate.and, Predicate.condition, Sql.Condition.appended,
    Sql.Condition.truth, Sql.allTruth_append]

@[simp] theorem joins_and
    (predicate : Predicate)
    (condition : Sql.Condition) :
    (predicate.and condition).joins = predicate.joins := rfl

@[simp] theorem isDistinct_and
    (predicate : Predicate)
    (condition : Sql.Condition) :
    (predicate.and condition).isDistinct = predicate.isDistinct := rfl

@[simp] theorem condition_addJoinOf (predicate : Predicate) (field : Field) :
    (predicate.addJoinOf field).condition = predicate.condition := by
  unfold addJoinOf
  cases field.join? with
  | none =>
      rfl
  | some join =>
      simp only [addJoin]
      split <;> rfl

end Predicate

namespace Criteria

/-- One step asks for the condition of its field on top of the others. -/
theorem truth_extend_eq_holds
    (dialect : Sql.Dialect)
    (table : String)
    (criteria : Criteria)
    (predicate : Predicate)
    (field : Field)
    (row : JoinedRow) :
    (criteria.extend dialect table predicate field).condition.truth row =
        .holds ↔
      predicate.condition.truth row = .holds ∧
        ∀ filter, criteria.populated? field.name = some filter →
          (Sql.conditionOf dialect table field filter).truth row =
            .holds := by
  unfold extend
  cases criteria.populated? field.name with
  | none =>
      simp
  | some filter =>
      simp

/-- A run of steps asks for the conditions of all its fields. -/
theorem truth_foldl_extend_eq_holds
    (dialect : Sql.Dialect)
    (table : String)
    (criteria : Criteria)
    (fields : List Field)
    (start : Predicate)
    (row : JoinedRow) :
    (fields.foldl (criteria.extend dialect table) start).condition.truth
        row = .holds ↔
      start.condition.truth row = .holds ∧
        ∀ field ∈ fields, ∀ filter,
          criteria.populated? field.name = some filter →
            (Sql.conditionOf dialect table field filter).truth row =
              .holds := by
  induction fields generalizing start with
  | nil =>
      simp
  | cons field rest inductionHypothesis =>
      rw [List.foldl_cons, inductionHypothesis, truth_extend_eq_holds,
        List.forall_mem_cons, and_assoc]

/-- A predicate asks for the condition of every populated field. -/
theorem truth_predicate_eq_holds
    (criteria : Criteria)
    (dialect : Sql.Dialect)
    (entity : Entity)
    (row : JoinedRow) :
    (criteria.predicate dialect entity).condition.truth row = .holds ↔
      ∀ field ∈ entity.fields, ∀ filter,
        criteria.populated? field.name = some filter →
          (Sql.conditionOf dialect entity.table field filter).truth row =
            .holds := by
  rw [predicate, truth_foldl_extend_eq_holds]
  simp [Predicate.everything, Predicate.condition, Sql.Condition.truth,
    Sql.allTruth, Entity.mem_compileOrder]

end Criteria

end RecordQuery
