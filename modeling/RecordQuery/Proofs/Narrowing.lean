import Mathlib.Data.List.Induction
import RecordQuery.Proofs.Meaning
import RecordQuery.Proofs.Names

namespace RecordQuery

/-!
# Narrowing what may be seen

A scope on own columns says the same of every row that the joins make of a base
record.  So narrowing a predicate by it keeps all rows of a record or none, and
it does not matter whether that happens before or after equal records are listed
once: the narrowed select is the select, filtered by the scope.
-/

namespace Sql

/-- A condition whose tests all look at columns of a table's own. -/
inductive Condition.IsOwn (table : String) : Condition → Prop where
  | test
      {test : Test}
      (reads : test.target.column.owner = .base table) :
      IsOwn table (.test test)
  | all
      {members : List Condition}
      (each : ∀ member ∈ members, IsOwn table member) :
      IsOwn table (.all members)
  | any
      {members : List Condition}
      (each : ∀ member ∈ members, IsOwn table member) :
      IsOwn table (.any members)

section

variable {row other : JoinedRow}

/-- A test reads a row through its target only. -/
theorem Test.truth_congr
    {test : Test}
    (sameRead : test.target.read row = test.target.read other) :
    test.truth row = test.truth other := by
  cases test <;> simp only [Test.target] at sameRead <;>
    simp only [Test.truth, sameRead]

/-- A conjunction has one truth on two rows if its members do. -/
theorem allTruth_congr
    {members : List Condition}
    (same : ∀ member ∈ members, member.truth row = member.truth other) :
    allTruth row members = allTruth other members := by
  induction members with
  | nil =>
      rfl
  | cons member rest inductionHypothesis =>
      rw [List.forall_mem_cons] at same
      rw [allTruth, allTruth, same.1, inductionHypothesis same.2]

theorem anyTruth_congr
    {members : List Condition}
    (same : ∀ member ∈ members, member.truth row = member.truth other) :
    anyTruth row members = anyTruth other members := by
  induction members with
  | nil =>
      rfl
  | cons member rest inductionHypothesis =>
      rw [List.forall_mem_cons] at same
      rw [anyTruth, anyTruth, same.1, inductionHypothesis same.2]

/-- A condition on own columns does not see related records. -/
theorem Condition.IsOwn.truth_congr
    {table : String}
    {condition : Condition}
    (own : condition.IsOwn table)
    (sameBase : row.base = other.base) :
    condition.truth row = condition.truth other := by
  induction own with
  | test reads =>
      rw [Condition.truth, Condition.truth]
      apply Test.truth_congr
      simp only [Target.read, JoinedRow.get?, reads, sameBase]
  | all each inductionHypothesis =>
      rw [Condition.truth, Condition.truth]
      exact allTruth_congr inductionHypothesis
  | any each inductionHypothesis =>
      rw [Condition.truth, Condition.truth]
      exact anyTruth_congr inductionHypothesis

end

/-- Whether a condition holds on a record by itself, without related ones. -/
def Condition.selects (condition : Condition) (record : Record) : Bool :=
  condition.truth ⟨record, []⟩ == .holds

end Sql

/-- Listing equal records once keeps the records that satisfy a test. -/
theorem filter_eraseDups
    (keep : Record → Bool)
    (records : List Record) :
    records.eraseDups.filter keep = (records.filter keep).eraseDups := by
  -- A record is dropped for an earlier copy, so the list grows at its end.
  induction records using List.reverseRecOn with
  | nil =>
      rfl
  | append_singleton earlier last inductionHypothesis =>
      rw [List.filter_append, List.eraseDups_append, List.eraseDups_append,
        List.filter_append, inductionHypothesis]
      congr 1
      by_cases kept : keep last
      · by_cases seen : last ∈ earlier <;>
          simp [kept, seen, List.removeAll]
      · by_cases seen : last ∈ earlier <;>
          simp [kept, seen, List.removeAll]

namespace Database

variable {database : Database}
variable {entity : Entity}
variable {predicate : Predicate}

/-- Narrowing by a scope on own columns keeps all rows of a record or none. -/
theorem occurrences_and
    {table : String}
    {scope : Sql.Condition}
    (own : scope.IsOwn table)
    (base : Record) :
    database.occurrences (predicate.and scope) base =
      (database.occurrences predicate base).filter scope.selects := by
  have sameTest (row : JoinedRow) :
      ((predicate.and scope).condition.truth row == .holds) =
        (scope.selects row.base &&
          predicate.condition.truth row == .holds) := by
    have alone : scope.truth row = scope.truth ⟨row.base, []⟩ :=
      own.truth_congr rfl
    rw [Bool.eq_iff_iff]
    simp [Sql.Condition.selects, alone, and_comm]
  simp only [occurrences, List.filter_map, List.filter_filter, sameTest,
    Predicate.joins_and, Function.comp_def]

/-- The narrowed select is the select, filtered by the scope. -/
theorem select_and
    {scope : Sql.Condition}
    (own : scope.IsOwn entity.table) :
    database.select entity (predicate.and scope) =
      (database.select entity predicate).filter scope.selects := by
  have sameRows (records : List Record) :
      records.flatMap (database.occurrences (predicate.and scope)) =
        (records.flatMap (database.occurrences predicate)).filter
          scope.selects := by
    rw [List.filter_flatMap, funext (occurrences_and own)]
  simp only [select, Predicate.isDistinct_and, sameRows]
  split
  · exact (filter_eraseDups _ _).symm
  · rfl

/-- A select depends on the joins, the hint, and which rows satisfy it. -/
theorem select_congr
    {other : Predicate}
    (sameJoins : predicate.joins = other.joins)
    (sameHint : predicate.isDistinct = other.isDistinct)
    (sameRows :
      ∀ row, predicate.condition.truth row = .holds ↔
        other.condition.truth row = .holds) :
    database.select entity predicate = database.select entity other := by
  have sameTest (row : JoinedRow) :
      (predicate.condition.truth row == .holds) =
        (other.condition.truth row == .holds) := by
    rw [Bool.eq_iff_iff]
    simpa using sameRows row
  have sameOccurrences :
      database.occurrences predicate = database.occurrences other := by
    funext base
    simp only [occurrences, sameJoins, sameTest]
  simp only [select, sameHint, sameOccurrences]

end Database

namespace Predicate

/-- A predicate narrowed by every scope of a list, in its order. -/
def narrowedBy (predicate : Predicate) (scopes : List Sql.Condition) :
    Predicate :=
  scopes.foldl Predicate.and predicate

variable (predicate : Predicate)
variable (scopes : List Sql.Condition)

theorem shape_narrowedBy :
    (predicate.narrowedBy scopes).joins = predicate.joins ∧
      (predicate.narrowedBy scopes).isDistinct = predicate.isDistinct := by
  unfold narrowedBy
  induction scopes generalizing predicate with
  | nil =>
      exact ⟨rfl, rfl⟩
  | cons scope rest inductionHypothesis =>
      exact inductionHypothesis (predicate.and scope)

/-- A predicate narrowed by scopes asks for all of them. -/
theorem truth_narrowedBy_eq_holds (row : JoinedRow) :
    (predicate.narrowedBy scopes).condition.truth row = .holds ↔
      predicate.condition.truth row = .holds ∧
        ∀ scope ∈ scopes, scope.truth row = .holds := by
  unfold narrowedBy
  induction scopes generalizing predicate with
  | nil =>
      simp
  | cons scope rest inductionHypothesis =>
      rw [List.foldl_cons, inductionHypothesis, truth_and,
        Sql.Truth.and_eq_holds, List.forall_mem_cons, and_assoc]

end Predicate

/-- The order in which scopes are added does not matter to a select. -/
theorem Database.select_narrowedBy_perm
    {database : Database}
    {entity : Entity}
    {predicate : Predicate}
    {scopes others : List Sql.Condition}
    (reordered : scopes.Perm others) :
    database.select entity (predicate.narrowedBy scopes) =
      database.select entity (predicate.narrowedBy others) := by
  have shape := predicate.shape_narrowedBy scopes
  have otherShape := predicate.shape_narrowedBy others
  apply select_congr
  · rw [shape.1, otherShape.1]
  · rw [shape.2, otherShape.2]
  · intro row
    simp only [Predicate.truth_narrowedBy_eq_holds, reordered.mem_iff]

namespace Sql

theorem one_le_depth (condition : Condition) : 1 ≤ condition.depth := by
  match condition with
  | .test test =>
      rw [Condition.depth]
      unfold Test.depth
      repeat' split
      all_goals omega
  | .all [] => exact Nat.le_refl 1
  | .any [] => exact Nat.le_refl 1
  | .all (first :: rest) =>
      have firstDeep := one_le_depth first
      have deeper := add_length_le_laterDepth first.depth rest
      simp only [Condition.depth, junctionDepth]
      omega
  | .any (first :: rest) =>
      have firstDeep := one_le_depth first
      have deeper := add_length_le_laterDepth first.depth rest
      simp only [Condition.depth, junctionDepth]
      omega

/-- One more member makes a junction no shallower. -/
theorem junctionDepth_le_append
    (members : List Condition)
    (last : Condition) :
    junctionDepth members ≤ junctionDepth (members ++ [last]) := by
  cases members with
  | nil =>
      exact one_le_depth last
  | cons first rest =>
      simp only [List.cons_append, junctionDepth, laterDepth_append]
      omega

theorem boundValues_append (left right : List Piece) :
    boundValues (left ++ right) = boundValues left ++ boundValues right :=
  List.filterMap_append

theorem boundValues_parenthesized (wrapped : Bool) (pieces : List Piece) :
    boundValues (parenthesized wrapped pieces) = boundValues pieces := by
  cases wrapped <;> simp [parenthesized, boundValues]

/-- A junction binds the values of its members, in their order. -/
theorem boundValues_junctionPieces
    (dialect : Dialect)
    (connective : Connective)
    (members : List Condition) :
    boundValues (junctionPieces dialect connective members) =
      members.flatMap fun member => boundValues (member.pieces dialect) := by
  have ofLater (rest : List Condition) :
      boundValues (laterPieces dialect connective rest) =
        rest.flatMap fun member => boundValues (member.pieces dialect) := by
    induction rest with
    | nil =>
        rfl
    | cons member rest inductionHypothesis =>
        have skipped (pieces : List Piece) :
            boundValues (.verbatim connective.separator :: pieces) =
              boundValues pieces := rfl
        rw [laterPieces, skipped, boundValues_append,
          boundValues_parenthesized, inductionHypothesis, List.flatMap_cons]
  cases members with
  | nil =>
      rfl
  | cons first rest =>
      rw [junctionPieces, boundValues_append, boundValues_parenthesized,
        ofLater, List.flatMap_cons]

end Sql

namespace StatementSize

theorem foldl_joinDepth_mono
    (joins : List Join)
    {shallow deep : Nat}
    (notDeeper : shallow ≤ deep) :
    joins.foldl (fun depth _ => max depth joinDepth + 1) shallow ≤
      joins.foldl (fun depth _ => max depth joinDepth + 1) deep := by
  induction joins generalizing shallow deep with
  | nil =>
      exact notDeeper
  | cons join rest inductionHypothesis =>
      apply inductionHypothesis
      dsimp only
      omega

/-- A scope makes a statement no smaller, so narrowing never gets it taken. -/
theorem refusal?_of_and
    {predicate : Predicate}
    {scope : Sql.Condition}
    (taken : (ofSelect (predicate.and scope)).refusal? = none) :
    (ofSelect predicate).refusal? = none := by
  rw [refusal?_eq_none] at taken ⊢
  obtain ⟨fewTables, shallow, bound, -⟩ := taken
  -- The scope is the last member: what stands before it stays as it is.
  refine ⟨fewTables, Nat.le_trans ?_ shallow, Nat.le_trans ?_ bound,
    Nat.zero_le _⟩
  · apply foldl_joinDepth_mono
    exact Sql.junctionDepth_le_append predicate.members scope.unwrapped
  · simp only [ofSelect, Predicate.condition, Predicate.and,
      Sql.Condition.appended, Sql.Condition.pieces,
      Sql.boundValues_junctionPieces, List.flatMap_append,
      List.length_append]
    exact Nat.le_add_right _ _

end StatementSize

/--
Scopes added in another order select the same records, unless the database
refuses the statement for the size that it has in that order.
-/
theorem Store.findAll_narrowedBy_perm
    {database : Database}
    {entity : Entity}
    {predicate : Predicate}
    {scopes others : List Sql.Condition}
    {records : List Record}
    (apart : predicate.NamesApart entity.table)
    (reordered : scopes.Perm others)
    (selected :
      (Store.ofDatabase database entity).findAll
        (predicate.narrowedBy scopes) = .ok records) :
    (Store.ofDatabase database entity).findAll
        (predicate.narrowedBy others) = .ok records ∨
      ∃ error,
        (StatementSize.ofSelect
          (predicate.narrowedBy others)).refusal? = some error ∧
        (Store.ofDatabase database entity).findAll
          (predicate.narrowedBy others) = .error error := by
  have narrowedApart (scopes : List Sql.Condition) :
      (predicate.narrowedBy scopes).NamesApart entity.table := by
    rw [Predicate.NamesApart, (predicate.shape_narrowedBy scopes).1]
    exact apart
  simp only [Store.ofDatabase, Predicate.allow, narrowedApart, ↓reduceIte,
    StatementSize.allow, ← Database.select_narrowedBy_perm reordered]
    at selected ⊢
  split at selected
  next taken =>
    cases selected
    cases refusal :
      (StatementSize.ofSelect (predicate.narrowedBy others)).refusal? with
    | none =>
        exact Or.inl rfl
    | some error =>
        exact Or.inr ⟨error, rfl, rfl⟩
  next refused =>
    exact absurd selected (by simp)

namespace Service

/-- Every query narrowed by a scope fails with an error of the store. -/
structure Refuses
    (service : Service)
    (criteria : Option Criteria)
    (scope : Sql.Condition)
    (error : StoreError) :
    Prop where
  findAllFor :
    (service.findAllFor criteria (.restricted scope)).result =
      .error (.store error)
  countFor :
    (service.countFor criteria (.restricted scope)).result =
      .error (.store error)
  findPageFor :
    ∀ request,
      (service.findPageFor criteria request (.restricted scope)).result =
        .error (.store error)

/--
Every query narrowed by a scope is about some records.

A page may still be refused, for the window that it binds or for its columns to
sort by; if not, its total is the number of the records.
-/
structure Lists
    (service : Service)
    (criteria : Option Criteria)
    (scope : Sql.Condition)
    (narrowed : Predicate)
    (records : List Record) :
    Prop where
  findAllFor :
    (service.findAllFor criteria (.restricted scope)).result =
      .ok records
  countFor :
    (service.countFor criteria (.restricted scope)).result =
      .ok (UInt64.ofNat records.length)
  findPageFor :
    ∀ request,
      (∃ error,
        (StatementSize.ofPage narrowed
          (service.entity.resolveSort request.sort).result).refusal? =
            some error ∧
        (service.findPageFor criteria request (.restricted scope)).result =
          .error (.store error)) ∨
      ∃ page,
        (service.findPageFor criteria request (.restricted scope)).result =
            .ok page ∧
          page.total = UInt64.ofNat records.length

section

variable {entity : Entity}
variable {criteria : Option Criteria}
variable {predicate : Predicate}
variable {scope : Sql.Condition}
variable (compiled :
  RecordQuery.compile .sqlite entity criteria = .ok predicate)
variable (apart : predicate.NamesApart entity.table)
variable (database : Database)
variable (config : Config)

include compiled apart

/-- A narrowed statement that is too large fails in every query. -/
theorem refuses_of_refusal?
    {error : StoreError}
    (refusal :
      (StatementSize.ofSelect (predicate.and scope)).refusal? =
        some error) :
    (ofDatabase database entity config).Refuses criteria scope error where
  findAllFor := by
    rw [result_findAllFor compiled rfl]
    exact Predicate.answer_of_refused apart refusal _
  countFor := by
    rw [result_countFor compiled rfl]
    exact Predicate.answer_of_refused apart refusal _
  findPageFor := by
    intro request
    have refusedPage :=
      StatementSize.refusal?_ofPage_of_ofSelect
        (entity.resolveSort request.sort).result refusal
    rw [result_findPageFor compiled rfl]
    exact Predicate.answer_of_refused apart refusedPage _

/-- A narrowed statement that is taken lists the records of its select. -/
theorem lists_of_taken
    (taken :
      (StatementSize.ofSelect (predicate.and scope)).refusal? = none) :
    (ofDatabase database entity config).Lists criteria scope
      (predicate.and scope)
      (database.select entity (predicate.and scope)) where
  findAllFor := by
    rw [result_findAllFor compiled rfl]
    exact Predicate.answer_of_taken apart taken _
  countFor := by
    rw [result_countFor compiled rfl]
    exact Predicate.answer_of_taken apart taken _
  findPageFor := by
    intro request
    rw [result_findPageFor compiled rfl]
    cases refusal :
      (StatementSize.ofPage (predicate.and scope)
        (entity.resolveSort request.sort).result).refusal? with
    | some error =>
        exact Or.inl ⟨error, refusal,
          Predicate.answer_of_refused apart refusal _⟩
    | none =>
        exact Or.inr ⟨_, Predicate.answer_of_taken apart refusal _, rfl⟩

end

end Service

namespace Sql.Condition

theorem selects_any
    {members : List Condition}
    {member : Condition}
    {record : Record}
    (isMember : member ∈ members)
    (selected : member.selects record = true) :
    (any members).selects record = true := by
  unfold selects at selected ⊢
  rw [beq_iff_eq] at selected ⊢
  rw [truth, anyTruth_eq_holds]
  exact ⟨member, isMember, selected⟩

theorem length_le_depth_any (members : List Condition) :
    members.length ≤ (any members).depth := by
  cases members with
  | nil =>
      exact Nat.zero_le _
  | cons first rest =>
      have firstDeep := one_le_depth first
      have deeper := add_length_le_laterDepth first.depth rest
      simp only [depth, junctionDepth, List.length_cons]
      omega

end Sql.Condition

/-- A scope that is too deep is refused on any predicate without conditions. -/
theorem StatementSize.refusal?_of_greatestDepth_lt
    {scope : Sql.Condition}
    (deep : greatestDepth < scope.depth) :
    (ofSelect (Predicate.everything.and scope)).refusal? =
      some .conditionTooDeep := by
  have sameDepth :
      (ofSelect (Predicate.everything.and scope)).depth = scope.depth :=
    Sql.depth_unwrapped scope
  have oneTable :
      ¬mostTables < (ofSelect (Predicate.everything.and scope)).tables :=
    Nat.not_lt.mpr (Nat.le_of_ble_eq_true rfl)
  rw [refusal?, if_neg oneTable, sameDepth, if_pos deep]

namespace Club

/-- The test for the key of the first player. -/
def isFirst : Sql.Condition :=
  Sql.ownColumnIs "player" "id" 1

/-- The key of the first player as each of a thousand and one alternatives. -/
def firstOfMany : Sql.Condition :=
  .any (List.replicate 1001 isFirst)

theorem isFirst_isOwn : isFirst.IsOwn "player" :=
  .test rfl

theorem firstOfMany_isOwn : firstOfMany.IsOwn "player" := by
  apply Sql.Condition.IsOwn.any
  intro member isMember
  rw [List.eq_of_mem_replicate isMember]
  exact isFirst_isOwn

theorem isFirst_selects
    {record : Record}
    (firstKey : record.key = 1) :
    isFirst.selects record = true := by
  have content :
      (⟨record, []⟩ : JoinedRow).get? ⟨.base "player", "id"⟩ =
        some (.integer 1) := by
    simp [JoinedRow.get?, Record.get?, keyColumn, firstKey]
  have plain :
      Sql.PlainContent .integer
        ((⟨record, []⟩ : JoinedRow).get? ⟨.base "player", "id"⟩) := by
    rw [content]
    refine ⟨rfl, ?_⟩
    rintro value ⟨⟩
    rfl
  have equal :
      Operator.Compares Ordering.isEq
        ((⟨record, []⟩ : JoinedRow).get? ⟨.base "player", "id"⟩)
        (.integer 1) :=
    ⟨.integer 1, .eq, content, rfl, rfl⟩
  unfold Sql.Condition.selects
  rw [beq_iff_eq]
  exact (Sql.operandTruth_eq_holds plain ⟨rfl, rfl⟩ .equal).mpr equal

theorem firstOfMany_selects
    {record : Record}
    (firstKey : record.key = 1) :
    firstOfMany.selects record = true := by
  have isMember : isFirst ∈ List.replicate 1001 isFirst :=
    List.mem_replicate.mpr ⟨by decide, rfl⟩
  exact Sql.Condition.selects_any isMember (isFirst_selects firstKey)

/-- So many alternatives are more levels than the database reads. -/
theorem greatestDepth_lt_firstOfMany :
    StatementSize.greatestDepth < firstOfMany.depth := by
  have deep :=
    Sql.Condition.length_le_depth_any (List.replicate 1001 isFirst)
  rw [List.length_replicate] at deep
  exact deep

end Club

end RecordQuery
