import Mathlib.Data.List.Flatten
import RecordQuery.Proofs.Multiplicity

namespace RecordQuery

/-!
# Criteria on separate fields

A criteria that holds the filters of two others, which constrain different
fields, asks for both of them.  It compiles when they do, and its predicate is
made of theirs.  The two may share a label: where both join the same single
record at most under it, they choose the same there, and a choice for each of
them is a choice for both.
-/

namespace Criteria

/-- A criteria that holds the filters of two others, on different fields. -/
structure IsUnion (both left right : Criteria) : Prop where
  separate :
    ∀ name, left.populated? name = none ∨ right.populated? name = none
  populated :
    ∀ name,
      both.populated? name =
        (left.populated? name).or (right.populated? name)

namespace IsUnion

variable {both left right : Criteria}
variable (union : both.IsUnion left right)

include union

theorem symm : both.IsUnion right left where
  separate := fun name => (union.separate name).symm
  populated := by
    intro name
    rw [union.populated]
    rcases union.separate name with absent | absent <;>
      simp [absent]

theorem populated_eq_some_iff {name : String} {filter : Filter} :
    both.populated? name = some filter ↔
      left.populated? name = some filter ∨
        right.populated? name = some filter := by
  rw [union.populated, Option.or_eq_some_iff]
  rcases union.separate name with absent | absent <;>
    simp [absent]

/-- What constrains a field of both is accepted wherever each part is. -/
theorem compile
    {entity : Entity}
    {dialect other : Sql.Dialect}
    {leftPredicate rightPredicate : Predicate}
    (compiledLeft :
      RecordQuery.compile dialect entity (some left) = .ok leftPredicate)
    (compiledRight :
      RecordQuery.compile dialect entity (some right) = .ok rightPredicate) :
    RecordQuery.compile other entity (some both) =
      .ok (both.predicate other entity) := by
  obtain ⟨knownLeft, faultlessLeft, -⟩ :=
    (compile_eq_ok_iff _ _ _ _).mp compiledLeft
  obtain ⟨knownRight, faultlessRight, -⟩ :=
    (compile_eq_ok_iff _ _ _ _).mp compiledRight
  refine (compile_eq_ok_iff _ _ _ _).mpr ⟨?_, ?_, rfl⟩
  · rintro ⟨name, filter⟩ member
    rw [mem_fields_iff, union.populated_eq_some_iff, ← mem_fields_iff,
      ← mem_fields_iff] at member
    rcases member with isLeft | isRight
    · exact knownLeft _ isLeft
    · exact knownRight _ isRight
  · intro field member
    have faultless := faultlessLeft field member
    have otherFaultless := faultlessRight field member
    unfold faultOn? at faultless otherFaultless ⊢
    rw [union.populated]
    cases ofLeft : left.populated? field.name with
    | none =>
        exact otherFaultless
    | some filter =>
        rw [ofLeft] at faultless
        exact faultless

/-- The conditions of both hold where those of each part do. -/
theorem truth_predicate
    (dialect : Sql.Dialect)
    (entity : Entity)
    (row : JoinedRow) :
    (both.predicate dialect entity).condition.truth row = .holds ↔
      (left.predicate dialect entity).condition.truth row = .holds ∧
        (right.predicate dialect entity).condition.truth row = .holds := by
  simp only [truth_predicate_eq_holds, union.populated_eq_some_iff]
  constructor
  · intro holds
    exact
      ⟨fun field member filter ofLeft =>
          holds field member filter (Or.inl ofLeft),
        fun field member filter ofRight =>
          holds field member filter (Or.inr ofRight)⟩
  · rintro ⟨leftHolds, rightHolds⟩ field member filter
      (ofLeft | ofRight)
    · exact leftHolds field member filter ofLeft
    · exact rightHolds field member filter ofRight

end IsUnion

end Criteria

/-- The criteria with a filter on each of two fields. -/
def Criteria.ofPair
    {first second : String}
    (ascending : first < second)
    (filter other : Filter) :
    Criteria where
  filters :=
    { entries := [(first, filter), (second, other)]
      ascending := by simpa using ascending }
  distinct := none

theorem Criteria.isUnion_ofPair
    {first second : String}
    (ascending : first < second)
    (filter other : Filter) :
    (ofPair ascending filter other).IsUnion
      (empty.insert first filter)
      (empty.insert second other) := by
  have different : first ≠ second := by
    rintro rfl
    exact String.lt_irrefl first ascending
  have alone (field name : String) (filter : Filter) :
      (empty.insert field filter).filter? name =
        if field = name then some filter else none :=
    filter?_insert empty field name filter
  have paired (name : String) :
      (ofPair ascending filter other).filter? name =
        if first = name then some filter
        else if second = name then some other
        else none :=
    rfl
  constructor
  · intro name
    unfold populated?
    rw [alone, alone]
    by_cases isFirst : first = name
    · right
      rw [if_neg fun isSecond => different (isFirst.trans isSecond.symm)]
      rfl
    · left
      rw [if_neg isFirst]
      rfl
  · intro name
    unfold populated?
    rw [alone, alone, paired]
    by_cases isFirst : first = name
    · rw [if_pos isFirst, if_pos isFirst,
        if_neg fun isSecond => different (isFirst.trans isSecond.symm)]
      exact (Option.or_none).symm
    · rw [if_neg isFirst, if_neg isFirst]
      exact Option.none_or.symm

namespace Predicate

/-- A predicate all of whose labels and conditions another one has. -/
structure IsPartOf (part whole : Predicate) : Prop where
  labels : part.labels ⊆ whole.labels
  members : part.members.Sublist whole.members

/-- A predicate with two parts and no joins besides theirs. -/
structure IsMadeOf (both left right : Predicate) : Prop where
  joins : ∀ join ∈ both.joins, join ∈ left.joins ∨ join ∈ right.joins
  left : left.IsPartOf both
  right : right.IsPartOf both

@[simp] theorem members_addJoin (predicate : Predicate) (join : Join) :
    (predicate.addJoin join).members = predicate.members := by
  unfold addJoin
  split <;> rfl

namespace IsMadeOf

variable {both left right : Predicate}
variable (made : both.IsMadeOf left right)

include made

theorem symm : both.IsMadeOf right left where
  joins := fun join member => (made.joins join member).symm
  left := made.right
  right := made.left

theorem and_left (condition : Sql.Condition) :
    (both.and condition).IsMadeOf (left.and condition) right where
  joins := made.joins
  left :=
    { labels := made.left.labels
      members := made.left.members.append (List.Sublist.refl _) }
  right :=
    { labels := made.right.labels
      members :=
        made.right.members.trans (List.sublist_append_left _ _) }

theorem addJoin_left (join : Join) :
    (both.addJoin join).IsMadeOf (left.addJoin join) right where
  joins := by
    intro other member
    rw [joins_addJoin] at member ⊢
    split at member
    next present =>
      rcases made.joins other member with isLeft | isRight
      · refine Or.inl ?_
        split
        · exact isLeft
        · exact List.mem_append_left _ isLeft
      · exact Or.inr isRight
    next absent =>
      -- A label that is new to both is new to the part as well.
      rw [if_neg fun present => absent (made.left.labels present)]
      rw [List.mem_append] at member ⊢
      rcases member with isOld | isNew
      · rcases made.joins other isOld with isLeft | isRight
        · exact Or.inl (Or.inl isLeft)
        · exact Or.inr isRight
      · exact Or.inl (Or.inr isNew)
  left :=
    { labels := by
        intro label member
        rw [mem_labels_addJoin] at member ⊢
        exact member.imp_left fun isLeft => made.left.labels isLeft
      members := by
        rw [members_addJoin, members_addJoin]
        exact made.left.members }
  right :=
    { labels := by
        intro label member
        rw [mem_labels_addJoin]
        exact Or.inl (made.right.labels member)
      members := by
        rw [members_addJoin]
        exact made.right.members }

theorem addJoinOf_left (field : Field) :
    (both.addJoinOf field).IsMadeOf (left.addJoinOf field) right := by
  unfold addJoinOf
  cases field.join? with
  | none =>
      exact made
  | some join =>
      exact made.addJoin_left join

end IsMadeOf

end Predicate

namespace Criteria.IsUnion

variable {both left right : Criteria}
variable (union : both.IsUnion left right)
variable (dialect : Sql.Dialect)

include union

/-- A field that the left part constrains is compiled for it and for both. -/
theorem isMadeOf_extend_of_left
    {predicate leftPredicate rightPredicate : Predicate}
    {table : String}
    {field : Field}
    {filter : Filter}
    (ofLeft : left.populated? field.name = some filter)
    (made : predicate.IsMadeOf leftPredicate rightPredicate) :
    (both.extend dialect table predicate field).IsMadeOf
      (left.extend dialect table leftPredicate field)
      (right.extend dialect table rightPredicate field) := by
  have ofBoth := union.populated_eq_some_iff.mpr (Or.inl ofLeft)
  have notRight : right.populated? field.name = none := by
    rcases union.separate field.name with absent | absent
    · exact absurd (ofLeft.symm.trans absent) (by simp)
    · exact absent
  unfold extend
  rw [ofLeft, notRight, ofBoth]
  exact (made.addJoinOf_left field).and_left _

theorem isMadeOf_extend
    {predicate leftPredicate rightPredicate : Predicate}
    (made : predicate.IsMadeOf leftPredicate rightPredicate)
    (table : String)
    (field : Field) :
    (both.extend dialect table predicate field).IsMadeOf
      (left.extend dialect table leftPredicate field)
      (right.extend dialect table rightPredicate field) := by
  cases ofLeft : left.populated? field.name with
  | some filter =>
      exact union.isMadeOf_extend_of_left dialect ofLeft made
  | none =>
      cases ofRight : right.populated? field.name with
      | some filter =>
          exact (union.symm.isMadeOf_extend_of_left dialect ofRight
            made.symm).symm
      | none =>
          have ofBoth : both.populated? field.name = none := by
            rw [union.populated, ofLeft, ofRight]
            rfl
          unfold extend
          rw [ofLeft, ofRight, ofBoth]
          exact made

theorem isMadeOf_foldl_extend
    {start leftStart rightStart : Predicate}
    (made : start.IsMadeOf leftStart rightStart)
    (table : String)
    (fields : List Field) :
    (fields.foldl (both.extend dialect table) start).IsMadeOf
      (fields.foldl (left.extend dialect table) leftStart)
      (fields.foldl (right.extend dialect table) rightStart) := by
  induction fields generalizing start leftStart rightStart with
  | nil =>
      exact made
  | cons field rest inductionHypothesis =>
      exact inductionHypothesis
        (union.isMadeOf_extend dialect made table field)

theorem isMadeOf_predicate (entity : Entity) :
    (both.predicate dialect entity).IsMadeOf
      (left.predicate dialect entity)
      (right.predicate dialect entity) := by
  apply union.isMadeOf_foldl_extend
  exact
    { joins := fun _ member => absurd member List.not_mem_nil
      left := ⟨List.Subset.refl _, List.Sublist.refl _⟩
      right := ⟨List.Subset.refl _, List.Sublist.refl _⟩ }

end Criteria.IsUnion

namespace Sql

theorem laterDepth_le_of_sublist
    {members others : List Condition}
    (fewer : members.Sublist others)
    {shallow deep : Nat}
    (notDeeper : shallow ≤ deep) :
    laterDepth shallow members ≤ laterDepth deep others := by
  induction fewer generalizing shallow deep with
  | slnil =>
      exact notDeeper
  | cons other fewer inductionHypothesis =>
      apply inductionHypothesis
      omega
  | cons_cons member fewer inductionHypothesis =>
      apply inductionHypothesis
      omega

/-- Leaving members out makes a junction no deeper. -/
theorem junctionDepth_le_of_sublist
    {members others : List Condition}
    (fewer : members.Sublist others) :
    junctionDepth members ≤ junctionDepth others := by
  cases fewer with
  | slnil =>
      exact Nat.le_refl _
  | @cons _ rest other fewer =>
      cases members with
      | nil =>
          exact one_le_depth (.all (other :: rest))
      | cons first others =>
          have later :=
            laterDepth_le_of_sublist fewer (Nat.zero_le other.depth)
          refine Nat.le_trans ?_ later
          apply laterDepth_le_of_sublist (List.Sublist.refl _)
          omega
  | cons_cons first fewer =>
      exact laterDepth_le_of_sublist fewer (Nat.le_refl _)

end Sql

namespace StatementSize

/-- Every join adds a level, so fewer joins make fewer levels. -/
theorem foldl_joinDepth_le_of_length_le
    {joins others : List Join}
    (fewer : joins.length ≤ others.length)
    (depth : Nat) :
    joins.foldl (fun depth _ => max depth joinDepth + 1) depth ≤
      others.foldl (fun depth _ => max depth joinDepth + 1) depth := by
  induction others generalizing joins depth with
  | nil =>
      rw [List.eq_nil_of_length_eq_zero (Nat.le_zero.mp fewer)]
  | cons other rest inductionHypothesis =>
      cases joins with
      | nil =>
          refine Nat.le_trans ?_
            (@inductionHypothesis [] (Nat.zero_le _) _)
          dsimp only [List.foldl_nil]
          omega
      | cons join joins =>
          exact inductionHypothesis (Nat.le_of_succ_le_succ fewer) _

/-- A part of a statement that is taken is taken too. -/
theorem refusal?_of_isPartOf
    {part whole : Predicate}
    (isPart : part.IsPartOf whole)
    (nodup : part.labels.Nodup)
    (taken : (ofSelect whole).refusal? = none) :
    (ofSelect part).refusal? = none := by
  rw [refusal?_eq_none] at taken ⊢
  obtain ⟨fewTables, shallow, bound, -⟩ := taken
  have fewerJoins : part.joins.length ≤ whole.joins.length := by
    have subperm := List.subperm_of_subset nodup isPart.labels
    simpa [Predicate.labels] using subperm.length_le
  refine ⟨Nat.le_trans (Nat.succ_le_succ fewerJoins) fewTables,
    Nat.le_trans ?_ shallow, Nat.le_trans ?_ bound, Nat.zero_le _⟩
  · refine Nat.le_trans
      (foldl_joinDepth_le_of_length_le fewerJoins _) ?_
    apply foldl_joinDepth_mono
    exact Sql.junctionDepth_le_of_sublist isPart.members
  · simp only [ofSelect, Predicate.condition, Sql.Condition.pieces,
      Sql.boundValues_junctionPieces]
    exact (isPart.members.flatMap _).length_le

end StatementSize

namespace Sql

/-- Every test of a filter looks at the column of its field. -/
theorem column_target_of_testOf?
    {dialect : Dialect}
    {kind : Kind}
    {column : ColumnRef}
    {operator : Operator}
    {operand : Operand}
    {test : Test}
    (asked : testOf? dialect kind column operator operand = some test) :
    test.target.column = column := by
  have compared : (comparedTarget dialect kind column).column = column := by
    unfold comparedTarget
    split <;> rfl
  have searched (negated : Bool) (substring : String) :
      (substringTest dialect column negated substring).target.column =
        column := by
    cases dialect <;> rfl
  cases operator <;> cases operand <;>
    simp only [testOf?, Option.some.injEq, reduceCtorEq] at asked
  all_goals
    subst asked
    first
      | exact compared
      | exact searched _ _

/-- A condition on a field reads a row in the column of the field only. -/
theorem truth_conditionOf_congr
    {row other : JoinedRow}
    {table : String}
    {field : Field}
    (sameContent :
      row.get? (field.columnRef table) = other.get? (field.columnRef table))
    (dialect : Dialect)
    (filter : Filter) :
    (conditionOf dialect table field filter).truth row =
      (conditionOf dialect table field filter).truth other := by
  rw [conditionOf, Condition.truth, Condition.truth]
  apply allTruth_congr
  intro member isMember
  obtain ⟨test, isTest, rfl⟩ := List.mem_map.mp isMember
  obtain ⟨operator, operand, -, asked⟩ := mem_testsOf.mp isTest
  rw [Condition.truth, Condition.truth]
  apply Test.truth_congr
  simp only [Target.read, column_target_of_testOf? asked, sameContent]

end Sql

/-- A predicate depends on what is picked for its own labels only. -/
theorem Criteria.truth_predicate_ofPick_congr
    {criteria : Criteria}
    {dialect : Sql.Dialect}
    {entity : Entity}
    {joins others : List Join}
    {pick other : String → Option Record}
    (labels :
      (criteria.predicate dialect entity).labels ⊆ joins.map Join.label)
    (otherLabels :
      (criteria.predicate dialect entity).labels ⊆ others.map Join.label)
    (agree :
      ∀ label ∈ (criteria.predicate dialect entity).labels,
        pick label = other label)
    (base : Record) :
    (criteria.predicate dialect entity).condition.truth
        (.ofPick base joins pick) = .holds ↔
      (criteria.predicate dialect entity).condition.truth
        (.ofPick base others other) = .holds := by
  rw [truth_predicate_eq_holds, truth_predicate_eq_holds]
  refine forall₄_congr fun field member filter populated => ?_
  have sameContent :
      (JoinedRow.ofPick base joins pick).get?
          (field.columnRef entity.table) =
        (JoinedRow.ofPick base others other).get?
          (field.columnRef entity.table) := by
    cases source : field.source with
    | own column =>
        simp [JoinedRow.get?, Field.columnRef, source, JoinedRow.ofPick]
    | related join =>
        have joined :
            join.label ∈ (criteria.predicate dialect entity).labels :=
          mem_labels_predicate member populated
            (by rw [Field.join?, source])
        simp only [JoinedRow.get?, Field.columnRef, source,
          JoinedRow.relatedIn_ofPick (labels joined),
          JoinedRow.relatedIn_ofPick (otherLabels joined),
          agree _ joined]
  rw [Sql.truth_conditionOf_congr sameContent]

namespace Database

/--
Where two predicates join one label, they join the same record under it, and one
record at most.
-/
def SharesSingleJoins
    (database : Database)
    (entity : Entity)
    (left right : Predicate) :
    Prop :=
  ∀ join ∈ left.joins, ∀ other ∈ right.joins, join.label = other.label →
    ∀ base ∈ (database.table entity.table).records,
      database.relatedRecords join base =
          database.relatedRecords other base ∧
        (database.relatedRecords join base).length ≤ 1

instance
    (database : Database)
    (entity : Entity)
    (left right : Predicate) :
    Decidable (database.SharesSingleJoins entity left right) :=
  inferInstanceAs (Decidable (∀ join ∈ left.joins, _))

variable {database : Database}
variable {entity : Entity}

theorem Offers.of_sameRecords
    {base : Record}
    {join other : Join}
    {choice : Option Record}
    (same :
      database.relatedRecords join base =
        database.relatedRecords other base)
    (offered : database.Offers base join choice) :
    database.Offers base other choice := by
  rcases offered with belongs | nothing
  · exact .related (same ▸ belongs)
  · exact .alone (same ▸ nothing)

section

variable {both left right : Predicate}
variable {base : Record}
variable (shares : database.SharesSingleJoins entity left right)
variable (member : base ∈ (database.table entity.table).records)

include shares

theorem SharesSingleJoins.symm :
    database.SharesSingleJoins entity right left := by
  intro join isRight other isLeft sameLabel base member
  obtain ⟨same, single⟩ :=
    shares other isLeft join isRight sameLabel.symm base member
  exact ⟨same.symm, same ▸ single⟩

include member

/-- What is picked for both parts is picked for the left one. -/
theorem picks_left
    {pick : String → Option Record}
    (made : both.IsMadeOf left right)
    (nodup : left.labels.Nodup)
    (picks : database.Picks base both.joins pick) :
    database.Picks base left.joins pick := by
  intro join isLeft
  obtain ⟨other, isJoin, sameLabel⟩ :=
    List.mem_map.mp (made.left.labels (Predicate.mem_labels_of_mem isLeft))
  have offered := picks other isJoin
  rw [sameLabel] at offered
  rcases made.joins other isJoin with otherLeft | otherRight
  · obtain rfl :=
      List.inj_on_of_nodup_map nodup isLeft otherLeft sameLabel.symm
    exact offered
  · obtain ⟨same, -⟩ :=
      shares join isLeft other otherRight sameLabel.symm base member
    exact offered.of_sameRecords same.symm

/-- Two parts that share a label pick the same for it. -/
theorem picks_agree
    {pick other : String → Option Record}
    (picks : database.Picks base left.joins pick)
    (otherPicks : database.Picks base right.joins other)
    {label : String}
    (inLeft : label ∈ left.labels)
    (inRight : label ∈ right.labels) :
    pick label = other label := by
  obtain ⟨join, isLeft, rfl⟩ := List.mem_map.mp inLeft
  obtain ⟨otherJoin, isRight, sameLabel⟩ := List.mem_map.mp inRight
  obtain ⟨same, single⟩ :=
    shares join isLeft otherJoin isRight sameLabel.symm base member
  have otherOffered := otherPicks otherJoin isRight
  rw [sameLabel] at otherOffered
  exact Offers.unique single (picks join isLeft)
    (otherOffered.of_sameRecords same.symm)

end

/-- A choice for some labels, and another one for all the others. -/
def pickedFirst
    (labels : List String)
    (pick other : String → Option Record)
    (label : String) :
    Option Record :=
  if label ∈ labels then pick label else other label

variable {predicate : Predicate}

/-- A record is selected when it has a row that satisfies the predicate. -/
theorem mem_select {record : Record} :
    record ∈ database.select entity predicate ↔
      record ∈ (database.table entity.table).records ∧
        ∃ row, database.IsJoined predicate.joins record row ∧
          predicate.condition.truth row = .holds := by
  have listed :
      record ∈ database.select entity predicate ↔
        ∃ row ∈ database.rowsOf entity predicate, row.base = record := by
    rw [select_eq_map_rowsOf]
    split
    · rw [List.mem_eraseDups, List.mem_map]
    · rw [List.mem_map]
  rw [listed]
  simp only [mem_rowsOf, mem_satisfyingRows]
  constructor
  · rintro ⟨row, ⟨member, joined, holds⟩, rfl⟩
    exact ⟨member, row, joined, holds⟩
  · rintro ⟨member, row, joined, holds⟩
    obtain rfl := joined.ofBase
    exact ⟨row, ⟨member, joined, holds⟩, rfl⟩

theorem mem_select_iff_pick
    (nodup : predicate.labels.Nodup)
    {record : Record} :
    record ∈ database.select entity predicate ↔
      record ∈ (database.table entity.table).records ∧
        ∃ pick, database.Picks record predicate.joins pick ∧
          predicate.condition.truth
            (.ofPick record predicate.joins pick) = .holds := by
  rw [mem_select]
  refine and_congr_right fun _ => ?_
  exact exists_row_iff_exists_pick nodup fun row =>
    predicate.condition.truth row = .holds

section

variable {both left right : Criteria}
variable {dialect : Sql.Dialect}
variable (union : both.IsUnion left right)
variable
  (shares :
    database.SharesSingleJoins entity
      (left.predicate dialect entity)
      (right.predicate dialect entity))

include union shares

/-- Whatever both select, the left part selects. -/
theorem mem_select_left
    {record : Record}
    (selected :
      record ∈ database.select entity (both.predicate dialect entity)) :
    record ∈ database.select entity (left.predicate dialect entity) := by
  have made := union.isMadeOf_predicate dialect entity
  rw [mem_select_iff_pick Criteria.nodup_labels_predicate]
    at selected ⊢
  obtain ⟨member, pick, picks, holds⟩ := selected
  refine ⟨member, pick,
    picks_left shares member made Criteria.nodup_labels_predicate picks,
    ?_⟩
  rw [Criteria.truth_predicate_ofPick_congr (List.Subset.refl _)
    made.left.labels fun _ _ => rfl]
  exact ((union.truth_predicate dialect entity _).mp holds).1

/-- A choice for each part makes a choice for both. -/
theorem mem_select_of_parts
    {record : Record}
    (ofLeft :
      record ∈ database.select entity (left.predicate dialect entity))
    (ofRight :
      record ∈ database.select entity (right.predicate dialect entity)) :
    record ∈ database.select entity (both.predicate dialect entity) := by
  have made := union.isMadeOf_predicate dialect entity
  rw [mem_select_iff_pick Criteria.nodup_labels_predicate]
    at ofLeft ofRight ⊢
  obtain ⟨member, pick, picks, holds⟩ := ofLeft
  obtain ⟨-, other, otherPicks, otherHolds⟩ := ofRight
  -- On labels of both parts the two choices agree, so it does not matter that
  -- the left one is taken there.
  let merged :=
    pickedFirst (left.predicate dialect entity).labels pick other
  have onLeft (label : String)
      (inLeft : label ∈ (left.predicate dialect entity).labels) :
      merged label = pick label :=
    if_pos inLeft
  have onRight (label : String)
      (inRight : label ∈ (right.predicate dialect entity).labels) :
      merged label = other label := by
    by_cases inLeft : label ∈ (left.predicate dialect entity).labels
    · rw [onLeft label inLeft]
      exact picks_agree shares member picks otherPicks inLeft inRight
    · exact if_neg inLeft
  refine ⟨member, merged, ?_, ?_⟩
  · intro join isJoin
    rcases made.joins join isJoin with isLeft | isRight
    · rw [onLeft _ (Predicate.mem_labels_of_mem isLeft)]
      exact picks join isLeft
    · rw [onRight _ (Predicate.mem_labels_of_mem isRight)]
      exact otherPicks join isRight
  · rw [union.truth_predicate]
    constructor
    · rw [Criteria.truth_predicate_ofPick_congr made.left.labels
        (List.Subset.refl _) onLeft]
      exact holds
    · rw [Criteria.truth_predicate_ofPick_congr made.right.labels
        (List.Subset.refl _) onRight]
      exact otherHolds

end

end Database

/-- Whether a record is among those that a criteria finds. -/
def Service.FindsRecord
    (service : Service)
    (criteria : Criteria)
    (record : Record) :
    Prop :=
  ∃ records, service.Finds criteria records ∧ record ∈ records

namespace Club

/-- The service for an entity of the club as it starts. -/
def serviceOf (entity : Entity) : Service :=
  .ofDatabase seeded entity default

/-- Items of the first two players. -/
def itemsOfTwo : Criteria :=
  Criteria.empty.insert "ownerName"
    (Filter.among [.text "Alice Smith", .text "Bob Jones"])

/-- Items of advanced players. -/
def itemsOfAdvanced : Criteria :=
  Criteria.empty.insert "ownerLevel" (Filter.among [.text "ADVANCED"])

theorem ownerLevel_lt_ownerName : "ownerLevel" < "ownerName" := by
  decide

/-- Items of those of the first two players that are advanced. -/
def itemsOfAdvancedOfTwo : Criteria :=
  .ofPair ownerLevel_lt_ownerName
    (Filter.among [.text "ADVANCED"])
    (Filter.among [.text "Alice Smith", .text "Bob Jones"])

end Club

namespace Club

theorem fullName_lt_id : "fullName" < "id" := by
  decide

/-- Players whose name and whose key are each in a list. -/
def nameAndKeyAmong (names keys : List Value) : Criteria :=
  .ofPair fullName_lt_id (Filter.among names) (Filter.among keys)

theorem compile_nameAndKeyAmong (names keys : Nat) :
    compile .sqlite player
        (some (nameAndKeyAmong (firstNames names) (firstKeys keys))) =
      .ok
        (.ofLists
          [ (keyColumnRef, firstKeys keys),
            (nameColumnRef, firstNames names) ]) := by
  have fields :
      (nameAndKeyAmong (firstNames names) (firstKeys keys)).fields =
        [ ("fullName", Filter.among (firstNames names)),
          ("id", Filter.among (firstKeys keys)) ] := rfl
  apply compile_of_among (by decide)
  rw [fields, List.forall_mem_cons, List.forall_mem_singleton]
  exact ⟨⟨_, _, rfl, rfl, accepts_firstNames names⟩,
    ⟨_, _, rfl, rfl, accepts_firstKeys keys⟩⟩

theorem refusal?_firstKeys_firstNames
    {keys names : Nat}
    (someKeys : 0 < keys)
    (someNames : 0 < names) :
    (StatementSize.ofSelect
      (.ofLists
        [ (keyColumnRef, firstKeys keys),
          (nameColumnRef, firstNames names) ])).refusal? =
      if StatementSize.mostValues < keys + names then
        some .tooManyValues
      else
        none := by
  have keysNotEmpty : firstKeys keys ≠ [] := by
    rw [← List.length_pos_iff, length_firstKeys]
    exact someKeys
  have namesNotEmpty : firstNames names ≠ [] := by
    rw [← List.length_pos_iff, length_firstNames]
    exact someNames
  have few : 3 + 2 ≤ StatementSize.greatestDepth := by decide
  rw [StatementSize.refusal?_ofLists
    (List.forall_mem_cons.mpr
      ⟨keysNotEmpty, List.forall_mem_singleton.mpr namesNotEmpty⟩) few]
  simp

/-- A player is selected by its own column, if it is in the list. -/
theorem firstPlayer_mem_select
    {lists : List (ColumnRef × List Value)}
    (listed :
      ∀ entry ∈ lists,
        (Sql.listTest entry.1 entry.2).truth ⟨firstPlayer, []⟩ = .holds) :
    firstPlayer ∈ seeded.select player (.ofLists lists) := by
  rw [Database.mem_select]
  refine ⟨List.getElem_mem _, ⟨firstPlayer, []⟩, ⟨rfl, .nil⟩, ?_⟩
  exact (Predicate.truth_ofLists_eq_holds lists _).mpr listed

/-- A criteria finds the first player if the lists in it hold its columns. -/
theorem findsRecord_firstPlayer
    {criteria : Criteria}
    {lists : List (ColumnRef × List Value)}
    (compiled :
      compile .sqlite player (some criteria) = .ok (.ofLists lists))
    (taken : (StatementSize.ofSelect (.ofLists lists)).refusal? = none)
    (listed :
      ∀ entry ∈ lists,
        (Sql.listTest entry.1 entry.2).truth ⟨firstPlayer, []⟩ = .holds) :
    (serviceOf player).FindsRecord criteria firstPlayer :=
  ⟨_, Service.finds_of_taken compiled seeded default
      (Predicate.namesApart_of_joins_eq_nil rfl) taken,
    firstPlayer_mem_select listed⟩

/-- Challenges whose two players are both joined as the person in it. -/
def challengeOfPerson : Entity :=
  { challenge with
    fields :=
      [ .related "acceptorId" .integer
          ⟨"person", "player", "acceptor_id", "id", "id"⟩,
        .related "proposerId" .integer
          ⟨"person", "player", "proposer_id", "id", "id"⟩ ] }

/-- A criteria finds what its predicate selects, unless it is refused. -/
theorem finds_of_select
    {entity : Entity}
    {criteria : Criteria}
    {predicate : Predicate}
    {records : List Record}
    (compiled : compile .sqlite entity (some criteria) = .ok predicate)
    (accepted :
      predicate.NamesApart entity.table ∧
        (StatementSize.ofSelect predicate).refusal? = none)
    (selected : seeded.select entity predicate = records) :
    (serviceOf entity).Finds criteria records :=
  selected ▸
    Service.finds_of_taken compiled seeded default accepted.1 accepted.2

/-- Challenges accepted by the second player. -/
def acceptedBySecond : Criteria :=
  Criteria.empty.insert "acceptorId" (Filter.among [.integer 2])

/-- Challenges proposed by the first player. -/
def proposedByFirst : Criteria :=
  Criteria.empty.insert "proposerId" (Filter.among [.integer 1])

theorem acceptorId_lt_proposerId : "acceptorId" < "proposerId" := by
  decide

/-- Challenges proposed by the first player and accepted by the second. -/
def firstAgainstSecond : Criteria :=
  .ofPair acceptorId_lt_proposerId
    (Filter.among [.integer 2]) (Filter.among [.integer 1])

end Club

end RecordQuery
