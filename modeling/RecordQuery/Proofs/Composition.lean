import RecordQuery.Proofs.Conjunction
import RecordQuery.Proofs.Faults
import RecordQuery.Proofs.Shapes

namespace RecordQuery

/-!
# What a predicate is made of

A compiled predicate has one member for each field that its criteria constrains,
and one join for each label that such a field needs.  `compile_composes` puts
this together: the members stand in the order of compilation and test the column
of their field, the labels stand in the order of their first use, and every
column that is tested belongs to the entity's table or to a joined one.
-/

namespace Sql

/-- A condition one of whose tests looks at a column. -/
inductive Condition.Reads (column : ColumnRef) : Condition → Prop where
  | test
      {test : Test}
      (looks : test.target.column = column) :
      Reads column (.test test)
  | all
      {members : List Condition}
      {member : Condition}
      (isMember : member ∈ members)
      (reads : Reads column member) :
      Reads column (.all members)
  | any
      {members : List Condition}
      {member : Condition}
      (isMember : member ∈ members)
      (reads : Reads column member) :
      Reads column (.any members)

/-- Unwrapping a condition adds no column to it. -/
theorem Condition.Reads.of_unwrapped
    {column : ColumnRef}
    {condition : Condition}
    (reads : condition.unwrapped.Reads column) :
    condition.Reads column := by
  unfold unwrapped at reads
  split at reads
  · exact .all (List.mem_singleton_self _) reads
  · exact .any (List.mem_singleton_self _) reads
  · exact reads

/-- The test that an operator of a filter asks for, on the column of a field. -/
def IsTestOf
    (dialect : Dialect)
    (table : String)
    (field : Field)
    (filter : Filter)
    (operator : Operator)
    (test : Test) :
    Prop :=
  ∃ operand, filter.operand? operator = some operand ∧
    testOf? dialect field.kind (field.columnRef table) operator operand =
      some test

/-- A filter has one test for each of its operators, in their order. -/
theorem forall₂_isTestOf_testsOf
    (dialect : Dialect)
    (table : String)
    (field : Field)
    (filter : Filter) :
    List.Forall₂ (IsTestOf dialect table field filter) filter.operators
      (testsOf dialect field.kind (field.columnRef table) filter) := by
  rw [Filter.operators_eq]
  unfold testsOf
  induction Operator.all with
  | nil =>
      exact .nil
  | cons operator rest inductionHypothesis =>
      cases populated : filter.operand? operator with
      | none =>
          simpa [populated] using inductionHypothesis
      | some operand =>
          have fits := Filter.fits_of_operand? populated
          obtain ⟨test, asked, -⟩ :=
            exists_test_of_fits dialect field.kind (field.columnRef table)
              fits
          simpa [populated, asked] using
            List.Forall₂.cons ⟨operand, populated, asked⟩
              inductionHypothesis

end Sql

/-- A new label is joined after all others. -/
theorem Predicate.labels_addJoin (predicate : Predicate) (join : Join) :
    (predicate.addJoin join).labels =
      if join.label ∈ predicate.labels then
        predicate.labels
      else
        predicate.labels ++ [join.label] := by
  have added := predicate.joins_addJoin join
  by_cases present : join.label ∈ predicate.labels
  · rw [if_pos present] at added ⊢
    exact congrArg (List.map Join.label) added
  · rw [if_neg present] at added ⊢
    exact (congrArg (List.map Join.label) added).trans List.map_append

namespace Field

/-- The label under which a field reads a related record. -/
def label? (field : Field) : Option String :=
  field.join?.map Join.label

theorem label?_of_own
    {field : Field}
    (own : field.isRelation = false) :
    field.label? = none := by
  unfold isRelation at own
  unfold label? join?
  cases source : field.source with
  | own column =>
      rfl
  | related join =>
      simp [source] at own

end Field

namespace Criteria

/-- The fields of a list that a criteria constrains. -/
def constrained (criteria : Criteria) (fields : List Field) : List Field :=
  fields.filter fun field => (criteria.populated? field.name).isSome

/--
A member of a predicate that stands for a field.

It has one test for each populated operator of the field, and no junction around
a single one.
-/
inductive Contributes
    (criteria : Criteria)
    (dialect : Sql.Dialect)
    (table : String)
    (field : Field) :
    Sql.Condition → Prop where
  | tests
      {filter : Filter}
      {tests : List Sql.Test}
      (populated : criteria.populated? field.name = some filter)
      (notEmpty : tests ≠ [])
      (tested :
        List.Forall₂ (Sql.IsTestOf dialect table field filter)
          filter.operators tests)
      (looks :
        ∀ test ∈ tests, test.target.column = field.columnRef table) :
      Contributes criteria dialect table field
        (Sql.Condition.all (tests.map .test)).unwrapped

/-- The member that a predicate has for a field, if it is constrained. -/
def memberOf?
    (criteria : Criteria)
    (dialect : Sql.Dialect)
    (table : String)
    (field : Field) :
    Option Sql.Condition :=
  (criteria.populated? field.name).map fun filter =>
    (Sql.conditionOf dialect table field filter).unwrapped

section

variable {criteria : Criteria}

@[simp] theorem mem_constrained
    {fields : List Field}
    {field : Field} :
    field ∈ criteria.constrained fields ↔
      field ∈ fields ∧ (criteria.populated? field.name).isSome = true :=
  List.mem_filter

/-- A populated filter has an operator. -/
theorem operators_ne_nil
    {name : String}
    {filter : Filter}
    (populated : criteria.populated? name = some filter) :
    filter.operators ≠ [] := by
  rw [populated?, Option.filter_eq_some_iff] at populated
  obtain ⟨-, notEmpty⟩ := populated
  intro noOperator
  simp [Filter.isEmpty, noOperator] at notEmpty

variable {dialect : Sql.Dialect}
variable {table : String}

theorem contributes_of_memberOf?
    {field : Field}
    {member : Sql.Condition}
    (made : criteria.memberOf? dialect table field = some member) :
    criteria.Contributes dialect table field member := by
  obtain ⟨filter, populated, rfl⟩ := Option.map_eq_some_iff.mp made
  have tested :=
    Sql.forall₂_isTestOf_testsOf dialect table field filter
  refine .tests populated ?_ tested ?_
  · intro noTest
    rw [noTest] at tested
    exact operators_ne_nil populated (List.forall₂_nil_right_iff.mp tested)
  · intro test isTest
    obtain ⟨operator, operand, -, asked⟩ := Sql.mem_testsOf.mp isTest
    exact Sql.column_target_of_testOf? asked

/-- The members for some fields stand for those that are constrained. -/
theorem forall₂_contributes (fields : List Field) :
    List.Forall₂ (criteria.Contributes dialect table)
      (criteria.constrained fields)
      (fields.filterMap (criteria.memberOf? dialect table)) := by
  unfold constrained
  induction fields with
  | nil =>
      exact .nil
  | cons field rest inductionHypothesis =>
      cases made : criteria.memberOf? dialect table field with
      | none =>
          have unconstrained := Option.map_eq_none_iff.mp made
          simpa [made, unconstrained] using inductionHypothesis
      | some member =>
          obtain ⟨filter, populated, -⟩ := Option.map_eq_some_iff.mp made
          simpa [made, populated] using
            List.Forall₂.cons (contributes_of_memberOf? made)
              inductionHypothesis

/-- A run of steps adds the members for its fields, in their order. -/
theorem members_foldl_extend (fields : List Field) (start : Predicate) :
    (fields.foldl (criteria.extend dialect table) start).members =
      start.members ++
        fields.filterMap (criteria.memberOf? dialect table) := by
  induction fields generalizing start with
  | nil =>
      exact (List.append_nil _).symm
  | cons field rest inductionHypothesis =>
      have added :
          (criteria.extend dialect table start field).members =
            start.members ++
              (criteria.memberOf? dialect table field).toList := by
        unfold extend memberOf?
        cases criteria.populated? field.name with
        | none =>
            exact (List.append_nil _).symm
        | some filter =>
            have sameMembers :=
              Sql.Condition.all.inj (start.condition_addJoinOf field)
            exact congrArg (· ++ [_]) sameMembers
      rw [List.foldl_cons, inductionHypothesis, added, List.append_assoc,
        List.filterMap_cons]
      cases criteria.memberOf? dialect table field <;> rfl

variable {entity : Entity}

theorem members_predicate :
    (criteria.predicate dialect entity).members =
      entity.compileOrder.filterMap
        (criteria.memberOf? dialect entity.table) :=
  members_foldl_extend _ _

/-- The label that a criteria needs for a field, if it constrains the field. -/
def labelOf? (criteria : Criteria) (field : Field) : Option String :=
  (criteria.populated? field.name).bind fun _ => field.label?

end

section

variable {criteria : Criteria}
variable {dialect : Sql.Dialect}
variable {table : String}

theorem labelOf?_of_own
    {field : Field}
    (own : field.isRelation = false) :
    criteria.labelOf? field = none := by
  rw [labelOf?, Field.label?_of_own own, Option.bind_fun_none]

/-- A step joins the label that its field needs, unless it is joined already. -/
theorem labels_extend_eq (predicate : Predicate) (field : Field) :
    (criteria.extend dialect table predicate field).labels =
      match criteria.labelOf? field with
      | none => predicate.labels
      | some label =>
          if label ∈ predicate.labels then
            predicate.labels
          else
            predicate.labels ++ [label] := by
  rw [labels_extend]
  unfold labelOf? Field.label?
  cases criteria.populated? field.name with
  | none =>
      rfl
  | some filter =>
      cases field.join? with
      | none =>
          rfl
      | some join =>
          exact predicate.labels_addJoin join

theorem eraseDups_concat (labels : List String) (label : String) :
    (labels ++ [label]).eraseDups =
      if label ∈ labels then
        labels.eraseDups
      else
        labels.eraseDups ++ [label] := by
  rw [List.eraseDups_append]
  by_cases seen : label ∈ labels <;>
    simp [List.removeAll, seen, List.eraseDups_cons]

/-- A run of steps joins the labels needed, in the order of their first use. -/
theorem labels_foldl_extend
    (fields : List Field)
    {start : Predicate}
    {seen : List String}
    (joined : start.labels = seen.eraseDups) :
    (fields.foldl (criteria.extend dialect table) start).labels =
      (seen ++ fields.filterMap criteria.labelOf?).eraseDups := by
  induction fields generalizing start seen with
  | nil =>
      rw [List.filterMap_nil, List.append_nil]
      exact joined
  | cons field rest inductionHypothesis =>
      have step := @labels_extend_eq criteria dialect table start field
      rw [List.foldl_cons, List.filterMap_cons]
      cases needed : criteria.labelOf? field with
      | none =>
          rw [needed] at step
          exact inductionHypothesis (step.trans joined)
      | some label =>
          have joinedNext :
              (criteria.extend dialect table start field).labels =
                (seen ++ [label]).eraseDups := by
            simp only [step, needed, eraseDups_concat, joined,
              List.mem_eraseDups]
          rw [inductionHypothesis joinedNext, List.append_assoc]
          rfl

/-- A join is that of the first field that needs its label. -/
theorem join_of_mem_joins_foldl_extend
    {fields : List Field}
    {start : Predicate}
    {join : Join}
    (member :
      join ∈ (fields.foldl (criteria.extend dialect table) start).joins) :
    join ∈ start.joins ∨
      join.label ∉ start.labels ∧
        ∃ field,
          fields.find?
              (fun other => criteria.labelOf? other == some join.label) =
            some field ∧
          field.join? = some join := by
  induction fields generalizing start with
  | nil =>
      exact Or.inl member
  | cons field rest inductionHypothesis =>
      rcases inductionHypothesis member with
        joined | ⟨notJoined, other, found, asks⟩
      · rw [joins_extend] at joined
        split at joined
        next filter needed populated asks =>
          rw [Predicate.joins_addJoin] at joined
          split at joined
          next =>
            exact Or.inl joined
          next absent =>
            rcases List.mem_append.mp joined with isOld | isNew
            · exact Or.inl isOld
            · obtain rfl := List.mem_singleton.mp isNew
              refine Or.inr ⟨absent, field, ?_, asks⟩
              simp [labelOf?, Field.label?, populated, asks]
        next =>
          exact Or.inl joined
      · right
        have absent : join.label ∉ start.labels := fun present =>
          notJoined (mem_labels_extend present field)
        refine ⟨absent, other, ?_, asks⟩
        rw [List.find?_cons_of_neg, found]
        -- A field that needs the label would have joined it in this step.
        intro needs
        rw [beq_iff_eq] at needs
        apply notJoined
        rw [labels_extend_eq, needs]
        simp [absent]

variable {entity : Entity}

theorem labelOf?_of_mem_own
    {field : Field}
    (member : field ∈ entity.fields.filter fun field => !field.isRelation) :
    criteria.labelOf? field = none := by
  have isOwn := (List.mem_filter.mp member).2
  exact labelOf?_of_own (by simpa using isOwn)

/-- Only relations need labels, so the order of compilation is that of fields. -/
theorem filterMap_labelOf?_compileOrder :
    entity.compileOrder.filterMap criteria.labelOf? =
      entity.fields.filterMap criteria.labelOf? := by
  have nothing :
      (entity.fields.filter fun field =>
        !field.isRelation).filterMap criteria.labelOf? = [] :=
    List.filterMap_eq_nil_iff.mpr fun _ => labelOf?_of_mem_own
  rw [Entity.compileOrder, List.filterMap_append, nothing,
    List.nil_append, List.filterMap_filter]
  apply List.filterMap_congr
  intro field _
  split
  next =>
    rfl
  next own =>
    exact (labelOf?_of_own (Bool.eq_false_iff.mpr own)).symm

theorem find?_labelOf?_compileOrder (label : String) :
    entity.compileOrder.find?
        (fun field => criteria.labelOf? field == some label) =
      entity.fields.find?
        fun field => criteria.labelOf? field == some label := by
  have nothing :
      (entity.fields.filter fun field => !field.isRelation).find?
        (fun field => criteria.labelOf? field == some label) = none := by
    rw [List.find?_eq_none]
    intro field member
    simp [labelOf?_of_mem_own member]
  rw [Entity.compileOrder, List.find?_append, nothing, Option.none_or,
    List.find?_filter]
  congr 1
  funext field
  rw [Bool.eq_iff_iff]
  cases own : field.isRelation with
  | true =>
      simp
  | false =>
      simp [labelOf?_of_own own]

/-- The joins are those of the first fields that need their labels. -/
theorem exists_isFirst_of_mem_joins
    {join : Join}
    (member : join ∈ (criteria.predicate dialect entity).joins) :
    ∃ field,
      IsFirst entity.fields
          (fun other => criteria.labelOf? other = some join.label) field ∧
        field.join? = some join := by
  rcases join_of_mem_joins_foldl_extend member with
    already | ⟨-, field, found, asks⟩
  · exact absurd already List.not_mem_nil
  · rw [find?_labelOf?_compileOrder, find?_eq_some_iff_isFirst] at found
    simp only [beq_iff_eq] at found
    exact ⟨field, found, asks⟩

theorem labels_predicate :
    (criteria.predicate dialect entity).labels =
      (entity.fields.filterMap criteria.labelOf?).eraseDups := by
  rw [← filterMap_labelOf?_compileOrder]
  exact @labels_foldl_extend criteria dialect entity.table _ _ [] rfl

theorem distinct_predicate :
    (criteria.predicate dialect entity).distinct = criteria.distinct :=
  congrArg Predicate.distinct
    (foldl_extend_hinted criteria entity.table entity.compileOrder
      .everything criteria.distinct)

/-- A member reads the column of a field that the criteria constrains. -/
theorem exists_field_of_reads
    {column : ColumnRef}
    (reads :
      (criteria.predicate dialect entity).condition.Reads column) :
    ∃ field ∈ criteria.constrained entity.fields,
      column = field.columnRef entity.table := by
  rcases reads with _ | ⟨isMember, reads⟩ | _
  rw [members_predicate, List.mem_filterMap] at isMember
  obtain ⟨field, isField, made⟩ := isMember
  obtain ⟨filter, populated, rfl⟩ := Option.map_eq_some_iff.mp made
  refine ⟨field, ?_, ?_⟩
  · rw [mem_constrained, populated]
    exact ⟨Entity.mem_compileOrder.mp isField, rfl⟩
  · rcases reads.of_unwrapped with _ | ⟨isTest, reads⟩ | _
    obtain ⟨test, made, rfl⟩ := List.mem_map.mp isTest
    obtain ⟨operator, operand, -, asked⟩ := Sql.mem_testsOf.mp made
    rcases reads with looks | _ | _
    exact looks.symm.trans (Sql.column_target_of_testOf? asked)

/-- Every column that is tested has its table in the statement. -/
theorem owner_of_reads
    {column : ColumnRef}
    (reads :
      (criteria.predicate dialect entity).condition.Reads column) :
    column.owner = .base entity.table ∨
      ∃ label ∈ (criteria.predicate dialect entity).labels,
        column.owner = .joined label := by
  obtain ⟨field, constrained, rfl⟩ := exists_field_of_reads reads
  rw [mem_constrained] at constrained
  obtain ⟨member, isConstrained⟩ := constrained
  obtain ⟨filter, populated⟩ := Option.isSome_iff_exists.mp isConstrained
  unfold Field.columnRef
  cases source : field.source with
  | own column =>
      exact Or.inl rfl
  | related join =>
      have relation : field.join? = some join := by
        rw [Field.join?, source]
      exact Or.inr
        ⟨join.label, mem_labels_predicate member populated relation, rfl⟩

/-- Nothing is constrained by a criteria without populated filters. -/
theorem populated?_of_isEmpty
    (isEmpty : criteria.isEmpty = true)
    (name : String) :
    criteria.populated? name = none := by
  rw [Criteria.isEmpty, List.isEmpty_iff] at isEmpty
  rw [Option.eq_none_iff_forall_not_mem]
  intro filter populated
  have member := mem_fields_iff.mpr populated
  rw [isEmpty] at member
  exact List.not_mem_nil member

theorem perm_compileOrder : entity.compileOrder.Perm entity.fields := by
  have whole :=
    List.filter_append_perm Field.isRelation entity.fields
  exact List.perm_append_comm.trans whole

theorem nodup_map_fst_fields : (criteria.fields.map Prod.fst).Nodup := by
  rw [List.Nodup, List.pairwise_map]
  refine (criteria.filters.ascending.filter _).imp ?_
  intro left right less same
  exact String.lt_irrefl right.1 (same ▸ less)

/-- With distinct names the constrained fields are the populated names. -/
theorem perm_map_name_constrained
    (distinctNames : (entity.fields.map Field.name).Nodup)
    (known : ∀ entry ∈ criteria.fields, (entity.field? entry.1).isSome) :
    ((criteria.constrained entity.compileOrder).map Field.name).Perm
      (criteria.fields.map Prod.fst) := by
  have nodup : (entity.compileOrder.map Field.name).Nodup :=
    (perm_compileOrder.map Field.name).nodup_iff.mpr distinctNames
  have constrainedNodup :
      ((criteria.constrained entity.compileOrder).map
        Field.name).Nodup :=
    nodup.sublist (List.filter_sublist.map Field.name)
  rw [List.perm_ext_iff_of_nodup constrainedNodup nodup_map_fst_fields]
  intro name
  simp only [List.mem_map, mem_constrained, Entity.mem_compileOrder]
  constructor
  · rintro ⟨field, ⟨-, isConstrained⟩, rfl⟩
    obtain ⟨filter, populated⟩ :=
      Option.isSome_iff_exists.mp isConstrained
    exact ⟨(field.name, filter), mem_fields_iff.mpr populated, rfl⟩
  · rintro ⟨⟨name, filter⟩, member, rfl⟩
    obtain ⟨field, found⟩ :=
      Option.isSome_iff_exists.mp (known _ member)
    have sameName := Entity.name_of_field? found
    refine ⟨field, ⟨Entity.mem_fields_of_field? found, ?_⟩, sameName⟩
    rw [sameName, mem_fields_iff.mp member]
    rfl

end

/--
A predicate with one member for each field that a criteria constrains, and one
join for each label that these fields need.
-/
structure Composes
    (criteria : Criteria)
    (dialect : Sql.Dialect)
    (entity : Entity)
    (predicate : Predicate) :
    Prop where
  /-- The fields with members are those of the populated names. -/
  names :
    ((criteria.constrained entity.compileOrder).map Field.name).Perm
      (criteria.fields.map Prod.fst)
  members :
    List.Forall₂ (criteria.Contributes dialect entity.table)
      (criteria.constrained entity.compileOrder) predicate.members
  nodup_labels : predicate.labels.Nodup
  labels :
    predicate.labels =
      (entity.fields.filterMap criteria.labelOf?).eraseDups
  /-- Each label is joined as the first field that needs it asks for. -/
  joins :
    ∀ join ∈ predicate.joins, ∃ field,
      IsFirst entity.fields
          (fun other => criteria.labelOf? other = some join.label) field ∧
        field.join? = some join
  /-- No column is tested whose table is not in the statement. -/
  owners :
    ∀ column, predicate.condition.Reads column →
      column.owner = .base entity.table ∨
        ∃ label ∈ predicate.labels, column.owner = .joined label
  distinct : predicate.distinct = criteria.distinct
  nothing :
    criteria.isEmpty = true →
      predicate.members = [] ∧ predicate.joins = []

end Criteria

/-- A criteria that compiles has a predicate that is composed of its fields. -/
theorem compile_composes
    {dialect : Sql.Dialect}
    {entity : Entity}
    {criteria : Criteria}
    {predicate : Predicate}
    (distinctNames : (entity.fields.map Field.name).Nodup)
    (compiled : compile dialect entity (some criteria) = .ok predicate) :
    criteria.Composes dialect entity predicate := by
  obtain ⟨known, -, rfl⟩ := (compile_eq_ok_iff _ _ _ _).mp compiled
  have members := @Criteria.members_predicate criteria dialect entity
  have labels := @Criteria.labels_predicate criteria dialect entity
  refine
    { names := Criteria.perm_map_name_constrained distinctNames known
      members := members ▸ Criteria.forall₂_contributes _
      nodup_labels := Criteria.nodup_labels_predicate
      labels := labels
      joins := fun _ => Criteria.exists_isFirst_of_mem_joins
      owners := fun _ => Criteria.owner_of_reads
      distinct := Criteria.distinct_predicate
      nothing := ?_ }
  intro isEmpty
  have unconstrained := Criteria.populated?_of_isEmpty isEmpty
  constructor
  · rw [members, List.filterMap_eq_nil_iff]
    intro field _
    rw [Criteria.memberOf?, unconstrained, Option.map_none]
  · have noLabel : entity.fields.filterMap criteria.labelOf? = [] := by
      rw [List.filterMap_eq_nil_iff]
      intro field _
      rw [Criteria.labelOf?, unconstrained, Option.bind_none]
    rw [noLabel] at labels
    exact List.map_eq_nil_iff.mp labels

namespace Club

/--
Items by title, by the name and the level of their owner, and by the title of
the item they lie in; the filter on their note is empty.
-/
def itemsOfBeginners : Criteria :=
  ((((Criteria.empty.insert "parentTitle"
    { Filter.empty with equals := some (.text "root") }).insert "note"
      Filter.empty).insert "ownerName"
        { Filter.empty with lacks := some "Smith" }).insert "ownerLevel"
          (Filter.among [.text "BEGINNER"])).insert "title"
            { Filter.empty with
              notEquals := some (.text "alpha")
              contains := some "der" }

end Club

/-- Two fields of an owner share a join, and an empty filter adds nothing. -/
theorem composes_itemsOfBeginners :
    ∃ predicate,
      (Club.item.fields.map Field.name).Nodup ∧
        compile .mysql Club.item (some Club.itemsOfBeginners) =
          .ok predicate ∧
        Club.itemsOfBeginners.Composes .mysql Club.item predicate ∧
        (Club.itemsOfBeginners.constrained
            Club.item.compileOrder).map Field.name =
          ["title", "ownerName", "parentTitle", "ownerLevel"] ∧
        predicate.joins = [Club.owner "full_name", Club.parent "title"] := by
  have distinctNames : (Club.item.fields.map Field.name).Nodup := by
    decide
  have compiled :
      compile .mysql Club.item (some Club.itemsOfBeginners) =
        .ok (Club.itemsOfBeginners.predicate .mysql Club.item) := rfl
  exact ⟨_, distinctNames, compiled, compile_composes distinctNames compiled,
    rfl, rfl⟩

end RecordQuery
