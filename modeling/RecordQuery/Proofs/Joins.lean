import Mathlib.Data.List.Forall2
import Mathlib.Data.List.Nodup
import RecordQuery.Database.Query
import RecordQuery.Proofs.Compilation

namespace RecordQuery

/-!
# Joins and the rows that they make

A compiled criteria joins every label once, with the join of the first populated
field that asks for it.  A row puts one choice under each label; since labels
are distinct, a row is as good as a function from labels to choices
(`exists_row_iff_exists_pick`), and a condition sees of it only what its fields
read there.
-/

namespace Predicate

/-- The labels that a predicate joins. -/
def labels (predicate : Predicate) : List String :=
  predicate.joins.map Join.label

theorem mem_labels_of_mem
    {predicate : Predicate}
    {join : Join}
    (member : join ∈ predicate.joins) :
    join.label ∈ predicate.labels :=
  List.mem_map_of_mem member

section

variable (predicate : Predicate)
variable (join : Join)

/-- A join is added at the end, unless its label is joined already. -/
theorem joins_addJoin :
    (predicate.addJoin join).joins =
      if join.label ∈ predicate.labels then
        predicate.joins
      else
        predicate.joins ++ [join] := by
  have present :
      (predicate.joins.any fun existing =>
        existing.label == join.label) = true ↔
          join.label ∈ predicate.labels := by
    simp [labels]
  unfold addJoin
  simp only [present]
  split <;> rfl

theorem nodup_labels_addJoin
    (nodup : predicate.labels.Nodup) :
    (predicate.addJoin join).labels.Nodup := by
  unfold labels at nodup ⊢
  rw [joins_addJoin]
  split
  next present =>
    exact nodup
  next absent =>
    rw [List.map_append, List.map_singleton, List.nodup_append]
    refine ⟨nodup, List.nodup_singleton _, ?_⟩
    intro label member other isOther same
    rw [List.mem_singleton] at isOther
    subst same isOther
    exact absent member

/-- Adding a join joins its label, and keeps every label before it. -/
theorem mem_labels_addJoin (label : String) :
    label ∈ (predicate.addJoin join).labels ↔
      label ∈ predicate.labels ∨ label = join.label := by
  unfold labels
  rw [joins_addJoin]
  split
  next present =>
    constructor
    · exact Or.inl
    · rintro (member | rfl)
      · exact member
      · exact present
  next absent =>
    rw [List.map_append, List.map_singleton, List.mem_append,
      List.mem_singleton]

end

end Predicate

namespace Criteria

variable {dialect : Sql.Dialect}
variable {table : String}
variable {criteria : Criteria}

/-- What a step does to the joins: a populated relation adds its own. -/
theorem joins_extend
    (predicate : Predicate)
    (field : Field) :
    (criteria.extend dialect table predicate field).joins =
      match criteria.populated? field.name, field.join? with
      | some _, some join => (predicate.addJoin join).joins
      | _, _ => predicate.joins := by
  unfold extend Predicate.addJoinOf
  cases criteria.populated? field.name with
  | none =>
      rfl
  | some filter =>
      cases field.join? <;> rfl

theorem labels_extend
    (predicate : Predicate)
    (field : Field) :
    (criteria.extend dialect table predicate field).labels =
      match criteria.populated? field.name, field.join? with
      | some _, some join => (predicate.addJoin join).labels
      | _, _ => predicate.labels := by
  unfold Predicate.labels
  rw [joins_extend]
  cases criteria.populated? field.name with
  | none =>
      rfl
  | some filter =>
      cases field.join? <;> rfl

theorem nodup_labels_foldl_extend
    (fields : List Field)
    {start : Predicate}
    (nodup : start.labels.Nodup) :
    (fields.foldl (criteria.extend dialect table) start).labels.Nodup := by
  induction fields generalizing start with
  | nil =>
      exact nodup
  | cons field rest inductionHypothesis =>
      apply inductionHypothesis
      rw [labels_extend]
      split
      · exact Predicate.nodup_labels_addJoin _ _ nodup
      · exact nodup

/-- A step keeps every label. -/
theorem mem_labels_extend
    {predicate : Predicate}
    {label : String}
    (member : label ∈ predicate.labels)
    (field : Field) :
    label ∈ (criteria.extend dialect table predicate field).labels := by
  rw [labels_extend]
  split
  · exact (Predicate.mem_labels_addJoin _ _ _).mpr (Or.inl member)
  · exact member

theorem mem_labels_foldl_extend
    (fields : List Field)
    {start : Predicate}
    {label : String}
    (member : label ∈ start.labels) :
    label ∈
      (fields.foldl (criteria.extend dialect table) start).labels := by
  induction fields generalizing start with
  | nil =>
      exact member
  | cons field rest inductionHypothesis =>
      exact inductionHypothesis (mem_labels_extend member field)

/-- The label of a populated relation is joined. -/
theorem mem_labels_foldl_extend_of_populated
    {fields : List Field}
    {field : Field}
    {filter : Filter}
    {join : Join}
    (member : field ∈ fields)
    (populated : criteria.populated? field.name = some filter)
    (relation : field.join? = some join)
    (start : Predicate) :
    join.label ∈
      (fields.foldl (criteria.extend dialect table) start).labels := by
  induction fields generalizing start with
  | nil =>
      exact absurd member List.not_mem_nil
  | cons first rest inductionHypothesis =>
      rw [List.foldl_cons]
      rcases List.mem_cons.mp member with rfl | inRest
      · apply mem_labels_foldl_extend
        rw [labels_extend, populated, relation]
        exact (Predicate.mem_labels_addJoin _ _ _).mpr (Or.inr rfl)
      · exact inductionHypothesis inRest _

variable {entity : Entity}

theorem nodup_labels_predicate :
    (criteria.predicate dialect entity).labels.Nodup :=
  nodup_labels_foldl_extend _ List.nodup_nil

theorem mem_labels_predicate
    {field : Field}
    {filter : Filter}
    {join : Join}
    (member : field ∈ entity.fields)
    (populated : criteria.populated? field.name = some filter)
    (relation : field.join? = some join) :
    join.label ∈ (criteria.predicate dialect entity).labels :=
  mem_labels_foldl_extend_of_populated
    (Entity.mem_compileOrder.mpr member) populated relation _

end Criteria

namespace Database

variable {database : Database}

/--
What a left join may put under its label for a base record: a record that
belongs to it, or no record where none does.
-/
inductive Offers
    (database : Database)
    (base : Record)
    (join : Join) :
    Option Record → Prop where
  | related
      {record : Record}
      (belongs : record ∈ database.relatedRecords join base) :
      Offers database base join (some record)
  | alone
      (nothing : database.relatedRecords join base = []) :
      Offers database base join none

theorem mem_relatedChoices
    {base : Record}
    {join : Join}
    {choice : Option Record} :
    choice ∈ database.relatedChoices join base ↔
      database.Offers base join choice := by
  unfold relatedChoices
  split
  next nothing =>
    rw [List.mem_singleton]
    constructor
    · rintro rfl
      exact .alone nothing
    · rintro (belongs | _)
      · rw [nothing] at belongs
        exact absurd belongs List.not_mem_nil
      · rfl
  next something =>
    rw [List.mem_map]
    constructor
    · rintro ⟨record, belongs, rfl⟩
      exact .related belongs
    · rintro (belongs | nothing)
      · exact ⟨_, belongs, rfl⟩
      · exact absurd nothing something

/-- A join that leads to one record at most offers a single choice. -/
theorem Offers.unique
    {base : Record}
    {join : Join}
    {choice other : Option Record}
    (single : (database.relatedRecords join base).length ≤ 1)
    (offered : database.Offers base join choice)
    (otherOffered : database.Offers base join other) :
    choice = other := by
  rw [← mem_relatedChoices] at offered otherOffered
  unfold relatedChoices at offered otherOffered
  cases records : database.relatedRecords join base with
  | nil =>
      rw [records] at offered otherOffered
      exact (List.mem_singleton.mp offered).trans
        (List.mem_singleton.mp otherOffered).symm
  | cons record rest =>
      rw [records, List.length_cons] at single
      have noMore : rest = [] :=
        List.eq_nil_of_length_eq_zero (by omega)
      rw [records, noMore] at offered otherOffered
      exact (List.mem_singleton.mp offered).trans
        (List.mem_singleton.mp otherOffered).symm

/-- An entry of a row: the label of its join, with a choice that is offered. -/
def Enters
    (database : Database)
    (base : Record)
    (join : Join)
    (entry : String × Option Record) :
    Prop :=
  entry.1 = join.label ∧ database.Offers base join entry.2

/-- The choices for some joins have one entry for each of them. -/
theorem mem_choices
    {base : Record}
    {joins : List Join}
    {related : List (String × Option Record)} :
    related ∈ database.choices base joins ↔
      List.Forall₂ (database.Enters base) joins related := by
  induction joins generalizing related with
  | nil =>
      rw [choices, List.mem_singleton, List.forall₂_nil_left_iff]
  | cons join rest inductionHypothesis =>
      rw [choices, List.forall₂_cons_left_iff]
      simp only [List.mem_flatMap, List.mem_map, mem_relatedChoices,
        inductionHypothesis]
      constructor
      · rintro ⟨choice, offered, others, entered, rfl⟩
        exact ⟨(join.label, choice), others, ⟨rfl, offered⟩, entered, rfl⟩
      · rintro ⟨⟨_, choice⟩, others, ⟨rfl, offered⟩, entered, rfl⟩
        exact ⟨choice, offered, others, entered, rfl⟩

/-- A row that the joins make of a base record. -/
structure IsJoined
    (database : Database)
    (joins : List Join)
    (base : Record)
    (row : JoinedRow) :
    Prop where
  ofBase : row.base = base
  entered : List.Forall₂ (database.Enters base) joins row.related

theorem mem_joinedRows
    {base : Record}
    {joins : List Join}
    {row : JoinedRow} :
    row ∈ database.joinedRows joins base ↔
      database.IsJoined joins base row := by
  unfold joinedRows
  simp only [List.mem_map, mem_choices]
  constructor
  · rintro ⟨related, entered, rfl⟩
    exact ⟨rfl, entered⟩
  · rintro ⟨rfl, entered⟩
    exact ⟨row.related, entered, rfl⟩

/-- A choice for every label, as the joins offer it. -/
def Picks
    (database : Database)
    (base : Record)
    (joins : List Join)
    (pick : String → Option Record) :
    Prop :=
  ∀ join ∈ joins, database.Offers base join (pick join.label)

end Database

namespace JoinedRow

/-- The row of a base record with the choices that a function picks. -/
def ofPick
    (base : Record)
    (joins : List Join)
    (pick : String → Option Record) :
    JoinedRow where
  base := base
  related := joins.map fun join => (join.label, pick join.label)

/-- Under a joined label stands what was picked for it. -/
theorem relatedIn_ofPick
    {joins : List Join}
    {label : String}
    (member : label ∈ joins.map Join.label)
    (base : Record)
    (pick : String → Option Record) :
    relatedIn label (ofPick base joins pick).related = pick label := by
  unfold ofPick
  induction joins with
  | nil =>
      exact absurd member List.not_mem_nil
  | cons join rest inductionHypothesis =>
      rw [List.map_cons, List.mem_cons] at member
      simp only [List.map_cons, relatedIn]
      split
      next here =>
        rw [here]
      next elsewhere =>
        have inRest : label ∈ rest.map Join.label := by
          rcases member with same | inRest
          · exact absurd same.symm elsewhere
          · exact inRest
        exact inductionHypothesis inRest

end JoinedRow

namespace Database

variable {database : Database}
variable {base : Record}
variable {joins : List Join}

theorem isJoined_ofPick
    {pick : String → Option Record}
    (picks : database.Picks base joins pick) :
    database.IsJoined joins base (.ofPick base joins pick) where
  ofBase := rfl
  entered := by
    unfold JoinedRow.ofPick
    rw [List.forall₂_map_right_iff, List.forall₂_same]
    intro join member
    exact ⟨rfl, picks join member⟩

/-- With distinct labels the entries of a row are picked by label. -/
theorem picks_relatedIn
    {related : List (String × Option Record)}
    (nodup : (joins.map Join.label).Nodup)
    (entered : List.Forall₂ (database.Enters base) joins related) :
    database.Picks base joins
        (JoinedRow.relatedIn · related) ∧
      related =
        joins.map fun join =>
          (join.label, JoinedRow.relatedIn join.label related) := by
  induction entered with
  | nil =>
      refine ⟨?_, rfl⟩
      intro join member
      exact absurd member List.not_mem_nil
  | @cons join entry rest others enters entered inductionHypothesis =>
      obtain ⟨label, choice⟩ := entry
      obtain ⟨rfl, offered⟩ := enters
      rw [List.map_cons, List.nodup_cons] at nodup
      obtain ⟨picks, shape⟩ := inductionHypothesis nodup.2
      -- The first label is none of the later ones, so it hides none of them.
      have later (other : Join) (member : other ∈ rest) :
          JoinedRow.relatedIn other.label ((join.label, choice) :: others) =
            JoinedRow.relatedIn other.label others := by
        have different : join.label ≠ other.label := by
          intro same
          apply nodup.1
          rw [same]
          exact List.mem_map_of_mem member
        simp [JoinedRow.relatedIn, different]
      constructor
      · intro other member
        rcases List.mem_cons.mp member with rfl | inRest
        · simpa [JoinedRow.relatedIn] using offered
        · dsimp only
          rw [later other inRest]
          exact picks other inRest
      · rw [List.map_cons, List.map_congr_left fun other member =>
          congrArg (Prod.mk other.label) (later other member), ← shape]
        simp [JoinedRow.relatedIn]

/-- Rows of distinct labels are functions from labels to choices. -/
theorem exists_row_iff_exists_pick
    (nodup : (joins.map Join.label).Nodup)
    (satisfies : JoinedRow → Prop) :
    (∃ row, database.IsJoined joins base row ∧ satisfies row) ↔
      ∃ pick, database.Picks base joins pick ∧
        satisfies (.ofPick base joins pick) := by
  constructor
  · rintro ⟨⟨_, related⟩, ⟨rfl, entered⟩, satisfied⟩
    obtain ⟨picks, shape⟩ := picks_relatedIn nodup entered
    refine ⟨(JoinedRow.relatedIn · related), picks, ?_⟩
    rw [JoinedRow.ofPick, ← shape]
    exact satisfied
  · rintro ⟨pick, picks, satisfied⟩
    exact ⟨_, isJoined_ofPick picks, satisfied⟩

end Database

end RecordQuery
