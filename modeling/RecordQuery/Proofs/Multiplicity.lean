import Mathlib.Data.Set.Card
import RecordQuery.Proofs.Names
import RecordQuery.Proofs.Oversize

namespace RecordQuery

/-!
# How often a record is listed

A select lists a record once for each of its rows that satisfy the predicate.
Keys are distinct, so no row is made twice, and the list of the rows can be
counted as a set (`Database.count_select`).  The distinct hint keeps one of the
equal records and changes nothing else.
-/

/-- Counting in a list without duplicates is counting a set. -/
theorem ncard_setOf_mem
    {Entry : Type}
    [DecidableEq Entry]
    {entries : List Entry}
    (nodup : entries.Nodup)
    (wanted : Entry → Bool) :
    {entry | entry ∈ entries ∧ wanted entry = true}.ncard =
      entries.countP wanted := by
  have sameSet :
      {entry | entry ∈ entries ∧ wanted entry = true} =
        ((entries.filter wanted).toFinset : Set Entry) := by
    ext entry
    simp
  rw [sameSet, Set.ncard_coe_finset,
    List.toFinset_card_of_nodup (nodup.filter wanted),
    List.countP_eq_length_filter]

theorem nodup_eraseDups (records : List Record) :
    records.eraseDups.Nodup := by
  induction records using List.reverseRecOn with
  | nil =>
      exact List.nodup_nil
  | append_singleton earlier last inductionHypothesis =>
      rw [List.eraseDups_append, List.nodup_append]
      refine ⟨inductionHypothesis, ?_, ?_⟩
      · by_cases seen : last ∈ earlier <;>
          simp [List.removeAll, seen, List.eraseDups_cons]
      · intro record member other isOther same
        subst same
        simp only [List.mem_eraseDups] at member isOther
        simp [List.removeAll, member] at isOther

namespace Database

/-- No two records of a table have one key. -/
def HasDistinctKeys (database : Database) : Prop :=
  ∀ name, ((database.table name).records.map Record.key).Nodup

/-- The rows of a record of an entity that satisfy a predicate. -/
def satisfyingRows
    (database : Database)
    (entity : Entity)
    (predicate : Predicate)
    (record : Record) :
    Set JoinedRow :=
  {row | record ∈ (database.table entity.table).records ∧
    database.IsJoined predicate.joins record row ∧
      predicate.condition.truth row = .holds}

/-- Every join of a predicate leads from a record to one other at most. -/
def JoinsAreSingle
    (database : Database)
    (entity : Entity)
    (predicate : Predicate) :
    Prop :=
  ∀ join ∈ predicate.joins,
    ∀ base ∈ (database.table entity.table).records,
      (database.relatedRecords join base).length ≤ 1

section

variable {database : Database}

theorem HasDistinctKeys.nodup
    (keyed : database.HasDistinctKeys)
    (name : String) :
    (database.table name).records.Nodup :=
  List.Nodup.of_map Record.key (keyed name)

theorem nodup_relatedChoices
    (keyed : database.HasDistinctKeys)
    (join : Join)
    (base : Record) :
    (database.relatedChoices join base).Nodup := by
  unfold relatedChoices
  split
  · exact List.nodup_singleton none
  · exact ((keyed.nodup join.table).filter _).map (Option.some_injective _)

/-- No combination of choices is made twice. -/
theorem nodup_choices
    (keyed : database.HasDistinctKeys)
    (base : Record)
    (joins : List Join) :
    (database.choices base joins).Nodup := by
  induction joins with
  | nil =>
      exact List.nodup_singleton []
  | cons join rest inductionHypothesis =>
      rw [choices, List.nodup_flatMap]
      constructor
      · intro choice _
        exact inductionHypothesis.map (List.cons_injective)
      · refine (nodup_relatedChoices keyed join base).imp ?_
        intro choice other different related isRelated isOther
        obtain ⟨others, -, rfl⟩ := List.mem_map.mp isRelated
        obtain ⟨others', -, same⟩ := List.mem_map.mp isOther
        simp only [List.cons.injEq, Prod.mk.injEq, true_and] at same
        exact different same.1.symm

/-- The rows on which a predicate holds, in the order of their records. -/
def rowsOf
    (database : Database)
    (entity : Entity)
    (predicate : Predicate) :
    List JoinedRow :=
  (database.table entity.table).records.flatMap fun base =>
    (database.joinedRows predicate.joins base).filter fun row =>
      predicate.condition.truth row == .holds

variable {entity : Entity}
variable {predicate : Predicate}

theorem mem_satisfyingRows
    {record : Record}
    {row : JoinedRow} :
    row ∈ database.satisfyingRows entity predicate record ↔
      record ∈ (database.table entity.table).records ∧
        database.IsJoined predicate.joins record row ∧
          predicate.condition.truth row = .holds :=
  Iff.rfl

theorem mem_rowsOf {row : JoinedRow} :
    row ∈ database.rowsOf entity predicate ↔
      row ∈ database.satisfyingRows entity predicate row.base := by
  simp only [rowsOf, List.mem_flatMap, List.mem_filter, mem_joinedRows,
    beq_iff_eq, mem_satisfyingRows]
  constructor
  · rintro ⟨base, member, joined, holds⟩
    obtain rfl := joined.ofBase
    exact ⟨member, joined, holds⟩
  · rintro ⟨member, joined, holds⟩
    exact ⟨row.base, member, joined, holds⟩

theorem nodup_rowsOf
    (keyed : database.HasDistinctKeys) :
    (database.rowsOf entity predicate).Nodup := by
  rw [rowsOf, List.nodup_flatMap]
  constructor
  · intro base _
    apply List.Nodup.filter
    apply (nodup_choices keyed base predicate.joins).map
    intro related other same
    exact congrArg JoinedRow.related same
  · refine (keyed.nodup entity.table).imp ?_
    intro base other different row isRow isOther
    rw [List.mem_filter, mem_joinedRows] at isRow isOther
    exact different (isRow.1.ofBase.symm.trans isOther.1.ofBase)

/-- A select lists the base records of its rows, or each of them once. -/
theorem select_eq_map_rowsOf :
    database.select entity predicate =
      if predicate.isDistinct then
        ((database.rowsOf entity predicate).map JoinedRow.base).eraseDups
      else
        (database.rowsOf entity predicate).map JoinedRow.base := by
  rw [rowsOf, List.map_flatMap]
  rfl

theorem count_map_base_rowsOf
    (keyed : database.HasDistinctKeys)
    (record : Record) :
    ((database.rowsOf entity predicate).map JoinedRow.base).count record =
      (database.satisfyingRows entity predicate record).ncard := by
  have sameSet :
      database.satisfyingRows entity predicate record =
        {row | row ∈ database.rowsOf entity predicate ∧
          (row.base == record) = true} := by
    ext row
    constructor
    · intro satisfies
      obtain rfl := satisfies.2.1.ofBase
      exact ⟨mem_rowsOf.mpr satisfies, BEq.refl row.base⟩
    · rintro ⟨isRow, same⟩
      rw [beq_iff_eq] at same
      exact same ▸ mem_rowsOf.mp isRow
  rw [sameSet, ncard_setOf_mem (nodup_rowsOf keyed), List.count,
    List.countP_map]
  rfl

theorem related_unique
    {base : Record}
    {joins : List Join}
    {related others : List (String × Option Record)}
    (single :
      ∀ join ∈ joins, (database.relatedRecords join base).length ≤ 1)
    (entered : List.Forall₂ (database.Enters base) joins related)
    (otherEntered : List.Forall₂ (database.Enters base) joins others) :
    related = others := by
  induction entered generalizing others with
  | nil =>
      cases otherEntered
      rfl
  | cons enters entered inductionHypothesis =>
      rw [List.forall_mem_cons] at single
      cases otherEntered with
      | cons otherEnters otherEntered =>
          have sameEntry :=
            Prod.ext (enters.1.trans otherEnters.1.symm)
              (Offers.unique single.1 enters.2 otherEnters.2)
          rw [sameEntry, inductionHypothesis single.2 otherEntered]

/-- With single joins a record has one row, so it is listed once at most. -/
theorem nodup_map_base_rowsOf
    (keyed : database.HasDistinctKeys)
    (single : database.JoinsAreSingle entity predicate) :
    ((database.rowsOf entity predicate).map JoinedRow.base).Nodup := by
  apply List.Nodup.map_on _ (nodup_rowsOf keyed)
  rintro ⟨base, related⟩ isRow ⟨_, others⟩ isOther rfl
  rw [mem_rowsOf] at isRow isOther
  obtain ⟨member, joined, -⟩ := isRow
  obtain ⟨-, otherJoined, -⟩ := isOther
  have sameRelated :=
    related_unique (fun join isJoin => single join isJoin base member)
      joined.entered otherJoined.entered
  exact congrArg (JoinedRow.mk base) sameRelated

end

/--
Two lists of the records that a predicate selects: one with every record as
often as it has rows that satisfy the predicate, and one with each of them once.
-/
structure ListsRows
    (database : Database)
    (entity : Entity)
    (predicate : Predicate)
    (repeated once : List Record) :
    Prop where
  count_repeated :
    ∀ record,
      repeated.count record =
        (database.satisfyingRows entity predicate record).ncard
  count_once :
    ∀ record,
      once.count record =
        if 0 < (database.satisfyingRows entity predicate record).ncard then
          1
        else
          0
  mem_once : ∀ record, record ∈ once ↔ record ∈ repeated
  nodup :
    database.JoinsAreSingle entity predicate →
      repeated.Nodup ∧ once.Nodup

theorem listsRows_rowsOf
    {database : Database}
    (keyed : database.HasDistinctKeys)
    (entity : Entity)
    (predicate : Predicate) :
    database.ListsRows entity predicate
      ((database.rowsOf entity predicate).map JoinedRow.base)
      ((database.rowsOf entity predicate).map
        JoinedRow.base).eraseDups where
  count_repeated := count_map_base_rowsOf keyed
  count_once := by
    intro record
    have listed :
        record ∈
            ((database.rowsOf entity predicate).map
              JoinedRow.base).eraseDups ↔
          0 <
            (database.satisfyingRows entity predicate record).ncard := by
      rw [List.mem_eraseDups, ← List.count_pos_iff,
        count_map_base_rowsOf keyed]
    rw [(nodup_eraseDups _).count]
    simp only [listed]
  mem_once := fun _ => List.mem_eraseDups
  nodup := fun single =>
    ⟨nodup_map_base_rowsOf keyed single, nodup_eraseDups _⟩

end Database

namespace Predicate

/-- A predicate with another distinct hint. -/
def hinted (predicate : Predicate) (hint : Option Bool) : Predicate :=
  { predicate with distinct := hint }

theorem hinted_addJoinOf
    (predicate : Predicate)
    (hint : Option Bool)
    (field : Field) :
    (predicate.hinted hint).addJoinOf field =
      (predicate.addJoinOf field).hinted hint := by
  unfold addJoinOf
  cases field.join? with
  | none =>
      rfl
  | some join =>
      by_cases present :
          (predicate.joins.any fun existing =>
            existing.label == join.label) = true
      · simp [addJoin, hinted, present]
      · simp [addJoin, hinted, present]

end Predicate

namespace Criteria

variable {dialect : Sql.Dialect}

/-- The hint and the fields of a criteria do not touch each other. -/
theorem foldl_extend_hinted
    (criteria : Criteria)
    (table : String)
    (fields : List Field)
    (start : Predicate)
    (hint : Option Bool) :
    fields.foldl (criteria.extend dialect table) (start.hinted hint) =
      (fields.foldl (criteria.extend dialect table) start).hinted hint := by
  induction fields generalizing start with
  | nil =>
      rfl
  | cons field rest inductionHypothesis =>
      rw [List.foldl_cons, List.foldl_cons, ← inductionHypothesis]
      congr 1
      unfold extend
      cases criteria.populated? field.name with
      | none =>
          rfl
      | some filter =>
          simp only [Predicate.hinted_addJoinOf]
          rfl

theorem compile_setDistinct
    {entity : Entity}
    {criteria : Criteria}
    {predicate : Predicate}
    (compiled :
      RecordQuery.compile dialect entity (some criteria) = .ok predicate)
    (hint : Option Bool) :
    RecordQuery.compile dialect entity (some (criteria.setDistinct hint)) =
      .ok (predicate.hinted hint) := by
  obtain ⟨known, faultless, rfl⟩ := (compile_eq_ok_iff _ _ _ _).mp compiled
  refine (compile_eq_ok_iff _ _ _ _).mpr ⟨known, faultless, ?_⟩
  exact (foldl_extend_hinted criteria entity.table entity.compileOrder
    _ hint).symm

end Criteria

namespace Service

/-- A criteria finds some records, and their number is what is counted. -/
structure Finds
    (service : Service)
    (criteria : Criteria)
    (records : List Record) :
    Prop where
  findAll : (service.findAll (some criteria)).result = .ok records
  count :
    (service.count (some criteria)).result =
      .ok (UInt64.ofNat records.length)

/-- Neither the records of a criteria nor their number can be found. -/
structure FailsOn
    (service : Service)
    (criteria : Criteria)
    (error : StoreError) :
    Prop where
  findAll :
    (service.findAll (some criteria)).result = .error (.store error)
  count : (service.count (some criteria)).result = .error (.store error)

section

variable {entity : Entity}
variable {criteria : Criteria}
variable {predicate : Predicate}
variable (compiled :
  RecordQuery.compile .sqlite entity (some criteria) = .ok predicate)
variable (database : Database)
variable (config : Config)

include compiled

theorem finds_of_taken
    (apart : predicate.NamesApart entity.table)
    (taken : (StatementSize.ofSelect predicate).refusal? = none) :
    (ofDatabase database entity config).Finds criteria
      (database.select entity predicate) where
  findAll := by
    rw [findAll, result_findAllFor compiled rfl,
      Predicate.answer_of_taken apart taken]
  count := by
    rw [count, result_countFor compiled rfl,
      Predicate.answer_of_taken apart taken, Database.count]

theorem failsOn_of_refused
    {error : StoreError}
    (apart : predicate.NamesApart entity.table)
    (refused :
      (StatementSize.ofSelect predicate).refusal? = some error) :
    (ofDatabase database entity config).FailsOn criteria error where
  findAll := by
    rw [findAll, result_findAllFor compiled rfl,
      Predicate.answer_of_refused apart refused]
  count := by
    rw [count, result_countFor compiled rfl,
      Predicate.answer_of_refused apart refused]

theorem failsOn_of_ambiguous
    (ambiguous : ¬predicate.NamesApart entity.table) :
    (ofDatabase database entity config).FailsOn criteria
      .ambiguousName where
  findAll := by
    rw [findAll, result_findAllFor compiled rfl,
      Predicate.answer_of_ambiguous ambiguous]
  count := by
    rw [count, result_countFor compiled rfl,
      Predicate.answer_of_ambiguous ambiguous]

end

end Service

namespace Club

/-- The first court, where two challenges are played. -/
def centralCourt : Record := cords.records[0]

/-- Courts with one of the first three challenges. -/
def courtsInUse : Criteria :=
  Criteria.empty.insert "challengeId"
    (Filter.among [.integer 1, .integer 2, .integer 3])

theorem hasDistinctKeys_of_tables
    {database : Database}
    (each :
      ∀ table ∈ database.tables, (table.records.map Record.key).Nodup) :
    database.HasDistinctKeys := by
  intro name
  unfold Database.table
  cases found : database.tables.find? fun table => table.name == name with
  | none =>
      exact List.nodup_nil
  | some table =>
      exact each table (List.mem_of_find?_eq_some found)

theorem seeded_hasDistinctKeys : seeded.HasDistinctKeys :=
  hasDistinctKeys_of_tables (by decide)

end Club

namespace Club

/-- The first challenge, to which a court and two players belong. -/
def firstChallenge : Record := challenges.records[0]

/-- The first challenge has a row that satisfies an ambiguous criteria. -/
theorem ncard_satisfyingRows_firstChallenge
    {criteria : Criteria}
    (member : criteria ∈ ambiguousCriteria) :
    (seeded.satisfyingRows challengeOfNamesakes
      (criteria.predicate .sqlite challengeOfNamesakes)
      firstChallenge).ncard = 1 := by
  rw [← Database.count_map_base_rowsOf seeded_hasDistinctKeys]
  revert criteria
  decide +kernel

end Club

end RecordQuery
