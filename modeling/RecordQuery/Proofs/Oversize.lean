import Mathlib.Data.List.Basic
import RecordQuery.Club.Records
import RecordQuery.Proofs.Binding
import RecordQuery.Proofs.Narrowing

namespace RecordQuery

/-!
# Lists that are too long for a statement

A filter may list any number of values, and each of them is bound to the
statement.  So a criteria that compiles can still ask for a statement that no
database takes: `StatementSize.refusal?_ofLists` says when.
-/

namespace Filter

/-- The filter that asks for one of some values. -/
def among (values : List Value) : Filter :=
  { empty with oneOf := some values }

/-- Accepted values may be asked for on a field of any kind. -/
theorem fault?_among
    {field : Field}
    {values : List Value}
    (accepted : ∀ value ∈ values, field.kind.accepts value = true) :
    field.fault? (among values) = none := by
  have together : (among values).fault? = none := rfl
  have supported : field.unsupported? (among values) = none := rfl
  have noneUnaccepted : field.unaccepted? (among values) = none := by
    rw [Field.unaccepted?, Option.map_eq_none_iff, List.find?_eq_none]
    rintro ⟨operator, value⟩ listed
    obtain ⟨operand, populated, member⟩ := operand?_of_mem_values listed
    have isMember : value ∈ values := by
      cases operator <;> cases populated
      exact member
    simp [accepted value isMember]
  rw [Field.fault?, together, supported]
  exact congrArg (Option.map _) noneUnaccepted

end Filter

/-- A criteria that asks for accepted values only compiles. -/
theorem compile_of_among
    {entity : Entity}
    {criteria : Criteria}
    (distinctNames : (entity.fields.map Field.name).Nodup)
    (listed :
      ∀ entry ∈ criteria.fields, ∃ field values,
        entity.field? entry.1 = some field ∧
          entry.2 = Filter.among values ∧
            ∀ value ∈ values, field.kind.accepts value = true)
    (dialect : Sql.Dialect) :
    compile dialect entity (some criteria) =
      .ok (criteria.predicate dialect entity) := by
  refine (compile_eq_ok_iff _ _ _ _).mpr ⟨?_, ?_, rfl⟩
  · intro entry member
    obtain ⟨field, values, found, -⟩ := listed entry member
    rw [found]
    rfl
  · intro field member
    unfold Criteria.faultOn?
    cases populated : criteria.populated? field.name with
    | none =>
        rfl
    | some filter =>
        obtain ⟨other, values, found, isAmong, accepted⟩ :=
          listed _ (Criteria.mem_fields_iff.mpr populated)
        rw [Entity.field?_name distinctNames member,
          Option.some.injEq] at found
        subst found
        dsimp only at isAmong
        rw [Option.bind_some, isAmong]
        exact Filter.fault?_among accepted

namespace Sql

/-- The values of a list are all bound, and nothing else is. -/
theorem boundValues_valueList (values : List Value) :
    boundValues (valueList values) = values := by
  induction values with
  | nil =>
      rfl
  | cons first rest inductionHypothesis =>
      cases rest with
      | nil =>
          rfl
      | cons second others =>
          exact congrArg (first :: ·) inductionHypothesis

/-- The condition that a column holds a value of a list. -/
def listTest (column : ColumnRef) (values : List Value) : Condition :=
  .test (.member (.plain column) false values)

theorem boundValues_listTest
    (dialect : Dialect)
    (column : ColumnRef)
    {values : List Value}
    (notEmpty : values ≠ []) :
    boundValues ((listTest column values).pieces dialect) = values := by
  cases values with
  | nil =>
      exact absurd rfl notEmpty
  | cons first rest =>
      have shape :
          boundValues ((listTest column (first :: rest)).pieces dialect) =
            boundValues (valueList (first :: rest) ++ [.verbatim ")"]) :=
        rfl
      rw [shape, boundValues_append, boundValues_valueList]
      exact List.append_nil _

theorem depth_listTest_le (column : ColumnRef) (values : List Value) :
    (listTest column values).depth ≤ 3 := by
  cases values with
  | nil =>
      exact Nat.le_succ 2
  | cons first rest =>
      exact Nat.le_refl 3

/-- A list holds of a value that it repeats. -/
theorem memberTruth_replicate
    {content : Option Value}
    {value : Value}
    (equal : operandTruth .equal content value = .holds)
    (count : Nat) :
    memberTruth content (List.replicate (count + 1) value) = .holds := by
  rw [List.replicate_succ, memberTruth, Truth.or_eq_holds]
  exact Or.inl equal

/-- Members of a depth make a junction that each of them deepens by one. -/
theorem laterDepth_le
    {members : List Condition}
    {depth : Nat}
    (shallow : ∀ member ∈ members, member.depth ≤ depth)
    {start : Nat}
    (startShallow : start ≤ depth) :
    laterDepth start members ≤ depth + members.length := by
  induction members generalizing start depth with
  | nil =>
      exact startShallow
  | cons member rest inductionHypothesis =>
      rw [List.forall_mem_cons] at shallow
      rw [laterDepth, List.length_cons, Nat.add_comm rest.length 1,
        ← Nat.add_assoc]
      apply inductionHypothesis
      · intro other isOther
        exact Nat.le_succ_of_le (shallow.2 other isOther)
      · exact Nat.succ_le_succ (Nat.max_le.mpr ⟨startShallow, shallow.1⟩)

theorem junctionDepth_le
    {members : List Condition}
    {depth : Nat}
    (shallow : ∀ member ∈ members, member.depth ≤ depth)
    (positive : 1 ≤ depth) :
    junctionDepth members ≤ depth + members.length := by
  cases members with
  | nil =>
      exact positive
  | cons first rest =>
      rw [List.forall_mem_cons] at shallow
      rw [junctionDepth, List.length_cons]
      exact Nat.le_succ_of_le (laterDepth_le shallow.2 shallow.1)

end Sql

namespace Predicate

/-- The predicate that columns hold values of some lists. -/
def ofLists (lists : List (ColumnRef × List Value)) : Predicate where
  members := lists.map fun entry => Sql.listTest entry.1 entry.2
  joins := []
  distinct := none

theorem truth_ofLists_eq_holds
    (lists : List (ColumnRef × List Value))
    (row : JoinedRow) :
    (ofLists lists).condition.truth row = .holds ↔
      ∀ entry ∈ lists,
        (Sql.listTest entry.1 entry.2).truth row = .holds := by
  rw [condition, Sql.Condition.truth, Sql.allTruth_eq_holds, ofLists,
    List.forall_mem_map]

end Predicate

/-- Lists are refused exactly when they hold too many values together. -/
theorem StatementSize.refusal?_ofLists
    {lists : List (ColumnRef × List Value)}
    (notEmpty : ∀ entry ∈ lists, entry.2 ≠ [])
    (few : 3 + lists.length ≤ greatestDepth) :
    (ofSelect (.ofLists lists)).refusal? =
      if mostValues < (lists.flatMap Prod.snd).length then
        some .tooManyValues
      else
        none := by
  have shallow :
      (ofSelect (.ofLists lists)).depth ≤ greatestDepth := by
    refine Nat.le_trans ?_ few
    rw [← List.length_map (fun entry => Sql.listTest entry.1 entry.2)]
    apply Sql.junctionDepth_le
    · intro member isMember
      obtain ⟨entry, -, rfl⟩ := List.mem_map.mp isMember
      exact Sql.depth_listTest_le _ _
    · exact Nat.le_add_left 1 2
  have values :
      (ofSelect (.ofLists lists)).values =
        (lists.flatMap Prod.snd).length := by
    simp only [ofSelect, Predicate.condition, Predicate.ofLists,
      Sql.Condition.pieces, Sql.boundValues_junctionPieces,
      List.flatMap_map]
    congr 1
    apply List.flatMap_congr
    intro entry member
    exact Sql.boundValues_listTest _ _ (notEmpty entry member)
  have sortKeys : (ofSelect (.ofLists lists)).sortKeys = 0 := rfl
  have oneTable : ¬mostTables < (ofSelect (.ofLists lists)).tables :=
    Nat.not_lt.mpr (Nat.le_of_ble_eq_true rfl)
  rw [refusal?, if_neg oneTable, if_neg (Nat.not_lt.mpr shallow), values,
    sortKeys, if_neg (Nat.not_lt_zero mostSortKeys)]

namespace Club

/-- The column of the players' keys. -/
def keyColumnRef : ColumnRef := ⟨.base "player", "id"⟩

/-- The column of the players' names. -/
def nameColumnRef : ColumnRef := ⟨.base "player", "full_name"⟩

/-- The key of the first player, some number of times. -/
def firstKeys (count : Nat) : List Value :=
  List.replicate count (.integer 1)

/-- The name of the first player, some number of times. -/
def firstNames (count : Nat) : List Value :=
  List.replicate count (.text "Alice Smith")

/-- Players whose key is in a list. -/
def keyAmong (keys : List Value) : Criteria :=
  Criteria.empty.insert "id" (Filter.among keys)

/-- Players whose name is in a list. -/
def nameAmong (names : List Value) : Criteria :=
  Criteria.empty.insert "fullName" (Filter.among names)

section

variable (keys names : Nat)

theorem accepts_firstKeys :
    ∀ key ∈ firstKeys keys, Kind.integer.accepts key = true := by
  intro key member
  rw [List.eq_of_mem_replicate member]
  rfl

theorem accepts_firstNames :
    ∀ name ∈ firstNames names, Kind.text.accepts name = true := by
  intro name member
  rw [List.eq_of_mem_replicate member]
  rfl

@[simp] theorem length_firstKeys : (firstKeys keys).length = keys :=
  List.length_replicate

@[simp] theorem length_firstNames : (firstNames names).length = names :=
  List.length_replicate

/-- The keys alone are refused exactly when they are too many. -/
theorem refusal?_firstKeys (positive : 0 < keys) :
    (StatementSize.ofSelect
      (.ofLists [(keyColumnRef, firstKeys keys)])).refusal? =
      if StatementSize.mostValues < keys then
        some .tooManyValues
      else
        none := by
  have notEmpty : firstKeys keys ≠ [] := by
    rw [← List.length_pos_iff, length_firstKeys]
    exact positive
  have few : 3 + 1 ≤ StatementSize.greatestDepth := by decide
  rw [StatementSize.refusal?_ofLists
    (List.forall_mem_singleton.mpr notEmpty) few]
  simp

theorem compile_keyAmong :
    compile .sqlite player (some (keyAmong (firstKeys keys))) =
      .ok (.ofLists [(keyColumnRef, firstKeys keys)]) := by
  have fields :
      (keyAmong (firstKeys keys)).fields =
        [("id", Filter.among (firstKeys keys))] := rfl
  apply compile_of_among (by decide)
  rw [fields, List.forall_mem_singleton]
  exact ⟨_, _, rfl, rfl, accepts_firstKeys keys⟩

theorem compile_nameAmong :
    compile .sqlite player (some (nameAmong (firstNames names))) =
      .ok (.ofLists [(nameColumnRef, firstNames names)]) := by
  have fields :
      (nameAmong (firstNames names)).fields =
        [("fullName", Filter.among (firstNames names))] := rfl
  apply compile_of_among (by decide)
  rw [fields, List.forall_mem_singleton]
  exact ⟨_, _, rfl, rfl, accepts_firstNames names⟩

end

/-- The first player. -/
def firstPlayer : Record := players.records[0]

theorem truth_firstKeys (count : Nat) :
    (Sql.listTest keyColumnRef (firstKeys (count + 1))).truth
      ⟨firstPlayer, []⟩ = .holds := by
  have first :
      Sql.operandTruth .equal (firstPlayer.get? "id") (.integer 1) =
        .holds := by
    have selected : isFirst.selects firstPlayer = true :=
      isFirst_selects rfl
    unfold Sql.Condition.selects at selected
    rw [beq_iff_eq] at selected
    exact selected
  exact Sql.memberTruth_replicate first count

theorem truth_firstNames (count : Nat) :
    (Sql.listTest nameColumnRef (firstNames (count + 1))).truth
      ⟨firstPlayer, []⟩ = .holds := by
  have first :
      Sql.operandTruth .equal (firstPlayer.get? "full_name")
        (.text "Alice Smith") = .holds := by
    decide
  exact Sql.memberTruth_replicate first count

end Club

end RecordQuery
