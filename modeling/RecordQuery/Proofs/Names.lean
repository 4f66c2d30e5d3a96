import RecordQuery.Club.Records
import RecordQuery.Proofs.Answers
import RecordQuery.Proofs.Joins

namespace RecordQuery

/-!
# Names that a database can tell apart

A database reads names without the case of ASCII letters.  It can tell the
tables of a statement apart if the labels of the entity differ from the table's
name and from one another by more than that (`Entity.LabelsApart`): every
predicate that is compiled for such an entity, and every one narrowed from it,
has tables that can be told apart.  A label that fails this is refused, whatever
the records are.
-/

/-- A field whose label, if it has one, can be told from a table's name. -/
def Field.LabelApart (field : Field) (table : String) : Prop :=
  ∀ join ∈ field.join?, Sql.foldedName join.label ≠ Sql.foldedName table

instance (field : Field) (table : String) :
    Decidable (field.LabelApart table) :=
  inferInstanceAs (Decidable (∀ join ∈ field.join?, _))

/-- An entity whose labels can be told from its table's name and apart. -/
structure Entity.LabelsApart (entity : Entity) : Prop where
  fromTable : ∀ field ∈ entity.fields, field.LabelApart entity.table
  fromOthers :
    ∀ field ∈ entity.fields, ∀ other ∈ entity.fields,
      ∀ join ∈ field.join?, ∀ otherJoin ∈ other.join?,
        Sql.foldedName join.label = Sql.foldedName otherJoin.label →
          join.label = otherJoin.label

instance (entity : Entity) : Decidable entity.LabelsApart :=
  decidable_of_iff
    ((∀ field ∈ entity.fields, field.LabelApart entity.table) ∧
      ∀ field ∈ entity.fields, ∀ other ∈ entity.fields,
        ∀ join ∈ field.join?, ∀ otherJoin ∈ other.join?,
          Sql.foldedName join.label = Sql.foldedName otherJoin.label →
            join.label = otherJoin.label)
    ⟨fun ⟨fromTable, fromOthers⟩ => ⟨fromTable, fromOthers⟩,
      fun ⟨fromTable, fromOthers⟩ => ⟨fromTable, fromOthers⟩⟩

namespace Predicate

variable {predicate : Predicate}
variable {table : String}

/-- Without a join there is one table only. -/
theorem namesApart_of_joins_eq_nil (noJoins : predicate.joins = []) :
    predicate.NamesApart table := by
  rw [NamesApart, noJoins]
  exact List.nodup_singleton _

theorem namesApart_of_apply
    {visibility : Visibility}
    {narrowed : Predicate}
    (visible : visibility.apply predicate = some narrowed)
    (apart : predicate.NamesApart table) :
    narrowed.NamesApart table := by
  cases visibility <;> cases visible <;> exact apart

end Predicate

/-- Every join of a compiled predicate is that of some field. -/
theorem Criteria.exists_field_of_mem_joins
    {criteria : Criteria}
    {dialect : Sql.Dialect}
    {table : String}
    {fields : List Field}
    {start : Predicate}
    {join : Join}
    (member :
      join ∈ (fields.foldl (criteria.extend dialect table) start).joins) :
    join ∈ start.joins ∨ ∃ field ∈ fields, join ∈ field.join? := by
  induction fields generalizing start with
  | nil =>
      exact Or.inl member
  | cons field rest inductionHypothesis =>
      rcases inductionHypothesis member with joined | ⟨other, inRest, asks⟩
      · rw [joins_extend] at joined
        split at joined
        next filter needed populated asks =>
          rw [Predicate.joins_addJoin] at joined
          split at joined
          · exact Or.inl joined
          · rcases List.mem_append.mp joined with isOld | isNew
            · exact Or.inl isOld
            · obtain rfl := List.mem_singleton.mp isNew
              exact Or.inr ⟨field, List.mem_cons_self, asks⟩
        next =>
          exact Or.inl joined
      · exact Or.inr ⟨other, List.mem_cons_of_mem field inRest, asks⟩

namespace Entity.LabelsApart

variable {entity : Entity}
variable (labelsApart : entity.LabelsApart)
variable {dialect : Sql.Dialect}

include labelsApart

theorem namesApart_predicate (criteria : Criteria) :
    (criteria.predicate dialect entity).NamesApart entity.table := by
  have ofField
      {join : Join}
      (member : join ∈ (criteria.predicate dialect entity).joins) :
      ∃ field ∈ entity.fields, join ∈ field.join? := by
    rcases Criteria.exists_field_of_mem_joins member with
      already | ⟨field, isField, asks⟩
    · exact absurd already List.not_mem_nil
    · exact ⟨field, Entity.mem_compileOrder.mp isField, asks⟩
  rw [Predicate.NamesApart, List.map_cons, List.nodup_cons]
  constructor
  · intro isTable
    obtain ⟨label, isLabel, same⟩ := List.mem_map.mp isTable
    obtain ⟨join, isJoin, rfl⟩ := List.mem_map.mp isLabel
    obtain ⟨field, isField, asks⟩ := ofField isJoin
    exact labelsApart.fromTable field isField join asks same
  · apply List.Nodup.map_on _ Criteria.nodup_labels_predicate
    intro label isLabel other isOther same
    obtain ⟨join, isJoin, rfl⟩ := List.mem_map.mp isLabel
    obtain ⟨otherJoin, isOtherJoin, rfl⟩ := List.mem_map.mp isOther
    obtain ⟨field, isField, asks⟩ := ofField isJoin
    obtain ⟨otherField, isOtherField, otherAsks⟩ := ofField isOtherJoin
    exact labelsApart.fromOthers field isField otherField isOtherField
      join asks otherJoin otherAsks same

/-- What is compiled for the entity has tables that can be told apart. -/
theorem namesApart_compile
    {criteria : Option Criteria}
    {predicate : Predicate}
    (compiled : compile dialect entity criteria = .ok predicate) :
    predicate.NamesApart entity.table := by
  cases criteria with
  | none =>
      cases compiled
      exact Predicate.namesApart_of_joins_eq_nil rfl
  | some criteria =>
      obtain ⟨-, -, rfl⟩ := (compile_eq_ok_iff _ _ _ _).mp compiled
      exact labelsApart.namesApart_predicate criteria

end Entity.LabelsApart

namespace Club

/--
Challenges under labels that differ by case only: the two players from each
other, and the court from the challenges themselves.
-/
def challengeOfNamesakes : Entity :=
  { challenge with
    fields :=
      [ .related "acceptorId" .integer
          ⟨"person", "player", "acceptor_id", "id", "id"⟩,
        .related "proposerId" .integer
          ⟨"Person", "player", "proposer_id", "id", "id"⟩,
        .related "cordId" .integer
          ⟨"Challenge", "cord", "cord_id", "id", "id"⟩ ] }

/-- Challenges with something under the labels of some fields. -/
def related (fields : List String) : Criteria :=
  fields.foldl
    (fun criteria field =>
      criteria.insert field { Filter.empty with specified := some true })
    Criteria.empty

/-- Criteria whose labels differ from the table's name, or another, by case. -/
def ambiguousCriteria : List Criteria :=
  [related ["cordId"], related ["acceptorId", "proposerId"]]

/-- They compile, but their tables cannot be told apart. -/
theorem ambiguous_of_mem
    {criteria : Criteria}
    (member : criteria ∈ ambiguousCriteria) :
    compile .sqlite challengeOfNamesakes (some criteria) =
        .ok (criteria.predicate .sqlite challengeOfNamesakes) ∧
      ¬(criteria.predicate .sqlite challengeOfNamesakes).NamesApart
        challengeOfNamesakes.table := by
  simp only [ambiguousCriteria, List.mem_cons, List.not_mem_nil,
    or_false] at member
  rcases member with rfl | rfl
  · exact ⟨rfl, by decide +kernel⟩
  · exact ⟨rfl, by decide +kernel⟩

theorem length_select_ambiguous_le
    {criteria : Criteria}
    (member : criteria ∈ ambiguousCriteria) :
    (seeded.select challengeOfNamesakes
      (criteria.predicate .sqlite challengeOfNamesakes)).length ≤ 4 := by
  revert criteria
  decide +kernel

end Club

end RecordQuery
