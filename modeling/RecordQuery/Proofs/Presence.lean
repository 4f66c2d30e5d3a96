import RecordQuery.Proofs.Contents
import RecordQuery.Proofs.Paging

namespace RecordQuery

/-!
# Records with and without related ones

Whether a relation is specified is asked of the column that it reads.  Where
that column identifies the related record it is null only in the row of a record
that has no related one, because a left join keeps such a record.  So the two
answers tell the records to which others belong from those to which none does
(`presence_tells_records`).  The label of the join has to differ from the name of
the table, and the name of the field from those of the others.
-/

namespace Database

/-- The records of an entity to which no other belongs by a join. -/
def alone
    (database : Database)
    (entity : Entity)
    (join : Join) :
    List Record :=
  (database.table entity.table).records.filter fun record =>
    (database.relatedRecords join record).isEmpty

/-- The records to which others belong by a join, once for each of these. -/
def accompanied
    (database : Database)
    (entity : Entity)
    (join : Join) :
    List Record :=
  (database.table entity.table).records.flatMap fun record =>
    List.replicate (database.relatedRecords join record).length record

/-- Every record that a join can reach has a value in the column it reads. -/
def Identifies (database : Database) (join : Join) : Prop :=
  ∀ related ∈ (database.table join.table).records,
    (storageOf (related.get? join.column)).isSome = true

variable {database : Database}
variable {entity : Entity}
variable {join : Join}
variable {record : Record}

/-- No record belongs to one whose key of the related record is null. -/
theorem relatedRecords_of_null
    (null : storageOf (record.get? join.baseColumn) = none) :
    database.relatedRecords join record = [] := by
  rw [relatedRecords, List.filter_eq_nil_iff]
  intro related _
  simp [joinsTo, Sql.compareTruth, null]

theorem mem_alone :
    record ∈ database.alone entity join ↔
      record ∈ (database.table entity.table).records ∧
        database.relatedRecords join record = [] := by
  rw [alone, List.mem_filter, List.isEmpty_iff]

theorem mem_accompanied :
    record ∈ database.accompanied entity join ↔
      record ∈ (database.table entity.table).records ∧
        database.relatedRecords join record ≠ [] := by
  simp only [accompanied, List.mem_flatMap, List.mem_replicate, ne_eq,
    List.length_eq_zero_iff]
  constructor
  · rintro ⟨_, member, related, rfl⟩
    exact ⟨member, related⟩
  · rintro ⟨member, related⟩
    exact ⟨record, member, related, rfl⟩

end Database

/-- A relation is specified in as many rows as there are related records. -/
theorem Field.countP_specified
    {field : Field}
    {join : Join}
    {database : Database}
    (related : field.source = .related join)
    (identifies : database.Identifies join)
    (flag : Bool)
    (record : Record) :
    (field.contents database record).countP
        (fun content =>
          Sql.answer content .specified (.flag flag) == .holds) =
      if flag then
        (database.relatedRecords join record).length
      else if (database.relatedRecords join record).isEmpty then
        1
      else
        0 := by
  rw [contents_of_related related, Database.relatedChoices]
  split
  next nothing =>
    rw [nothing]
    cases flag <;> rfl
  next something =>
    have decided :
        ∀ other ∈ database.relatedRecords join record,
          (Sql.answer (other.get? join.column) .specified (.flag flag) ==
            .holds) = flag := by
      intro other belongs
      rw [Sql.answer, identifies other (List.mem_of_mem_filter belongs)]
      cases flag <;> rfl
    have notEmpty :
        (database.relatedRecords join record).isEmpty = false := by
      rw [List.isEmpty_eq_false_iff]
      exact something
    rw [List.map_map, List.countP_map, notEmpty]
    cases flag with
    | true =>
        rw [if_pos rfl, List.countP_eq_length]
        exact decided
    | false =>
        rw [if_neg Bool.false_ne_true, if_neg Bool.false_ne_true,
          List.countP_eq_zero]
        exact fun other belongs =>
          Bool.eq_false_iff.mp (decided other belongs)

/-- A page adds two values and its columns to sort by to a select. -/
theorem StatementSize.refusal?_ofPage
    {predicate : Predicate}
    (taken : (ofSelect predicate).refusal? = none)
    (room : (ofSelect predicate).values + 2 ≤ mostValues)
    (keys : List SortKey) :
    (ofPage predicate keys).refusal? =
      if mostSortKeys < keys.length then
        some .tooManySortKeys
      else
        none := by
  obtain ⟨fewTables, shallow, -, -⟩ := (refusal?_eq_none _).mp taken
  rw [refusal?, ofPage, if_neg (Nat.not_lt.mpr fewTables),
    if_neg (Nat.not_lt.mpr shallow), if_neg (Nat.not_lt.mpr room)]

/-- A page that holds a window of some records, once they are in an order. -/
structure Page.ShowsWindow
    (page : Page Record)
    (request : PageRequest)
    (records : List Record) :
    Prop where
  window :
    ∃ ordered : List Record,
      ordered.Perm records ∧
        page.content =
          (ordered.drop request.offset.toNat).take request.size.toNat
  total : page.total = UInt64.ofNat records.length

theorem Database.showsWindow_findPage
    (database : Database)
    (entity : Entity)
    (predicate : Predicate)
    (request : PageRequest) :
    (database.findPage entity predicate request).result.ShowsWindow request
      (database.select entity predicate) where
  window := ⟨_, List.mergeSort_perm _ _, rfl⟩
  total := rfl

namespace Service

/--
A criteria finds some records, and its pages show them.

A database refuses a page that is sorted by too many columns, and it takes no
offset and no size above the greatest.
-/
structure Selects
    (service : Service)
    (criteria : Criteria)
    (records : List Record) :
    Prop where
  finds : service.Finds criteria records
  shows :
    ∀ request : PageRequest,
      request.offset.toNat ≤ PageRequest.greatestOffset →
        request.size.toNat ≤ PageRequest.greatestOffset →
          (service.entity.resolveSort request.sort).result.length ≤
              StatementSize.mostSortKeys →
            ∃ page,
              (service.findPage (some criteria) request).result =
                  .ok page ∧
                page.ShowsWindow request records

/-- The two questions about a relation select some records and all others. -/
structure TellsApart
    (service : Service)
    (field : Field)
    (records alone accompanied : List Record) :
    Prop where
  selectsAlone : service.Selects field.absent alone
  selectsAccompanied :
    service.Selects (field.asks .specified (.flag true)) accompanied
  disjoint : ∀ record ∈ alone, record ∉ accompanied
  together :
    ∀ record, record ∈ records ↔ record ∈ alone ∨ record ∈ accompanied

section

variable {entity : Entity}
variable {field : Field}
variable (only : entity.HasOnly field)
variable (database : Database)
variable (config : Config)

include only

theorem refusal?_presence (flag : Bool) (keys : List SortKey) :
    (StatementSize.ofPage
        ((field.asks .specified (.flag flag)).predicate .sqlite entity)
        keys).refusal? =
      if StatementSize.mostSortKeys < keys.length then
        some .tooManySortKeys
      else
        none := by
  have answers := field.answers_flag flag
  have noValues := Field.values_asks only answers.takes.fits
  apply StatementSize.refusal?_ofPage (Field.taken_asks only answers)
  rw [noValues]
  exact Nat.le_of_ble_eq_true rfl

/-- The question whether a relation is specified selects what it finds. -/
theorem selects_presence
    (apart : field.LabelApart entity.table)
    (flag : Bool) :
    (ofDatabase database entity config).Selects
      (field.asks .specified (.flag flag))
      (database.finding entity field fun content =>
        Sql.answer content .specified (.flag flag) == .holds) where
  finds :=
    finds_finding only apart (field.answers_flag flag) database config
  shows := by
    intro request _ _ few
    have fits := (field.answers_flag flag).takes.fits
    have compiled :=
      Field.compile_asks only (field.answers_flag flag).takes .sqlite
    have taken :=
      (refusal?_presence only flag
        (entity.resolveSort request.sort).result).trans
        (if_neg (Nat.not_lt.mpr few))
    rw [← Database.select_asks only database fits]
    refine ⟨_, ?_, database.showsWindow_findPage entity _ request⟩
    rw [findPage, result_findPageFor compiled rfl]
    exact Predicate.answer_of_taken
      (Field.namesApart_asks only apart fits) taken _

end

end Service

/--
A relation that reads an identifier is absent exactly on the records without a
related one, each selected once, and specified exactly on those with some, each
selected for every related record.  A record whose key of the related one is
null has none.
-/
theorem presence_tells_records
    {entity : Entity}
    {field : Field}
    {join : Join}
    {database : Database}
    (only : entity.HasOnly field)
    (apart : field.LabelApart entity.table)
    (related : field.source = .related join)
    (identifies : database.Identifies join)
    (config : Config) :
    (Service.ofDatabase database entity config).TellsApart field
        (database.table entity.table).records
        (database.alone entity join)
        (database.accompanied entity join) ∧
      ∀ record ∈ (database.table entity.table).records,
        storageOf (record.get? join.baseColumn) = none →
          record ∈ database.alone entity join := by
  have selected (flag : Bool) :=
    Service.selects_presence only database config apart flag
  have isAlone :
      database.finding entity field
          (fun content =>
            Sql.answer content .specified (.flag false) == .holds) =
        database.alone entity join := by
    simp only [Database.finding, Database.alone,
      Field.countP_specified related identifies, Bool.false_eq_true,
      ↓reduceIte]
    induction (database.table entity.table).records with
    | nil =>
        rfl
    | cons record rest inductionHypothesis =>
        rw [List.flatMap_cons, List.filter_cons, inductionHypothesis]
        split <;> rfl
  have isAccompanied :
      database.finding entity field
          (fun content =>
            Sql.answer content .specified (.flag true) == .holds) =
        database.accompanied entity join := by
    simp only [Database.finding, Database.accompanied,
      Field.countP_specified related identifies, ↓reduceIte]
  refine ⟨⟨?_, ?_, ?_, ?_⟩, ?_⟩
  · rw [← isAlone]
    exact selected false
  · rw [← isAccompanied]
    exact selected true
  · intro record isIn isOut
    exact (Database.mem_accompanied.mp isOut).2
      (Database.mem_alone.mp isIn).2
  · intro record
    rw [Database.mem_alone, Database.mem_accompanied, ← and_or_left,
      and_iff_left (em _)]
  · intro record member null
    exact Database.mem_alone.mpr
      ⟨member, Database.relatedRecords_of_null null⟩

namespace Club

/-- The field on the key of the items that lie in an item. -/
def childKey : Field := .related "childId" .integer (child "id")

theorem item_hasOnly_childKey : item.HasOnly childKey := by
  unfold Entity.HasOnly
  decide +kernel

end Club

/-- Two items lie in the first one, which is selected twice; three hold none. -/
theorem presence_tells_parents :
    Club.item.HasOnly Club.childKey ∧
      Club.childKey.LabelApart Club.item.table ∧
      Club.childKey.source = .related (Club.child "id") ∧
      Club.seeded.Identifies (Club.child "id") ∧
      (Club.serviceOf Club.item).TellsApart Club.childKey
        Club.items.records
        (Club.seeded.alone Club.item (Club.child "id"))
        (Club.seeded.accompanied Club.item (Club.child "id")) ∧
      (Club.seeded.alone Club.item (Club.child "id")).map Record.key =
        [3, 5, 6] ∧
      (Club.seeded.accompanied Club.item (Club.child "id")).map
          Record.key =
        [1, 1, 2, 4] := by
  have only := Club.item_hasOnly_childKey
  have apart : Club.childKey.LabelApart Club.item.table := by
    decide
  have related : Club.childKey.source = .related (Club.child "id") := rfl
  have identifies : Club.seeded.Identifies (Club.child "id") :=
    fun _ _ => rfl
  refine ⟨only, apart, related, identifies,
    (presence_tells_records only apart related identifies default).1,
    ?_, ?_⟩
  · decide +kernel
  · decide +kernel

namespace Club

/-- The field on the item that an item lies in, joined as the table. -/
def containerKey : Field :=
  .related "containerId" .integer
    ⟨"item", "item", "parent_id", "id", "id"⟩

/-- Items that lie in others under the name of the table. -/
def itemOfItem : Entity := { item with fields := [containerKey] }

/-- The field on the key of the item that an item lies in, a relative. -/
def relativeKey : Field := .related "relativeId" .integer (parent "id")

/-- Items whose relatives are also those that lie in them. -/
def itemOfRelatives : Entity :=
  { item with
    fields :=
      [relativeKey, .related "relativeId" .integer (child "id")] }

/-- A page of items that is sorted by one column too many. -/
def overSorted : PageRequest where
  page := 0
  size := 20
  sort :=
    List.replicate (StatementSize.mostSortKeys + 1) ⟨"id", .ascending⟩

theorem length_resolveSort_overSorted :
    (item.resolveSort overSorted.sort).result.length =
      StatementSize.mostSortKeys + 1 := by
  have keys :
      item.sortKeys overSorted.sort =
        List.replicate (StatementSize.mostSortKeys + 1)
          ⟨"id", .ascending⟩ := by
    rw [overSorted, Entity.sortKeys, List.filterMap_replicate]
    rfl
  rw [Entity.resolveSort, keys]
  exact List.length_replicate

end Club

/--
The questions whether a relation is specified may not be answered, or with too
few records: the label of the join may be the name of the table, another field
may have the name of the relation, and a page may be sorted by too many columns.
-/
theorem not_presence_tells :
    (Club.itemOfItem.HasOnly Club.containerKey ∧
      (∃ join,
        Club.containerKey.source = .related join ∧
          Club.seeded.Identifies join ∧
            (Club.seeded.alone Club.itemOfItem join).map Record.key =
              [1, 5]) ∧
      (Club.serviceOf Club.itemOfItem).FailsOn Club.containerKey.absent
        .ambiguousName) ∧
    (Club.relativeKey ∈ Club.itemOfRelatives.fields ∧
      Club.relativeKey.source = .related (Club.parent "id") ∧
      Club.seeded.Identifies (Club.parent "id") ∧
      (Club.seeded.alone Club.itemOfRelatives
        (Club.parent "id")).map Record.key = [1, 5] ∧
      (Club.serviceOf Club.itemOfRelatives).Finds Club.relativeKey.absent
        [Club.items.records[4]]) ∧
    (Club.item.HasOnly Club.childKey ∧
      Club.seeded.Identifies (Club.child "id") ∧
      (Club.seeded.alone Club.item (Club.child "id")).map Record.key =
        [3, 5, 6] ∧
      ((Club.serviceOf Club.item).findPage (some Club.childKey.absent)
        Club.overSorted).result = .error (.store .tooManySortKeys)) := by
  refine ⟨⟨?_, ⟨_, rfl, ?_, ?_⟩, ?_⟩, ⟨?_, rfl, ?_, ?_, ?_⟩,
    Club.item_hasOnly_childKey, ?_, ?_, ?_⟩
  · unfold Entity.HasOnly
    decide
  · exact fun _ _ => rfl
  · decide +kernel
  · exact Service.failsOn_of_ambiguous rfl Club.seeded default (by decide)
  · exact List.mem_cons_self
  · exact fun _ _ => rfl
  · decide +kernel
  · refine Club.finds_of_select rfl ?_ ?_
    · decide +kernel
    · decide +kernel
  · exact fun _ _ => rfl
  · decide +kernel
  · have only := Club.item_hasOnly_childKey
    have answers := Club.childKey.answers_flag false
    have apart : Club.childKey.LabelApart Club.item.table := by
      decide
    have refused :=
      Service.refusal?_presence only false
        (Club.item.resolveSort Club.overSorted.sort).result
    rw [Club.length_resolveSort_overSorted,
      if_pos (Nat.lt_succ_self _)] at refused
    have compiled := Field.compile_asks only answers.takes .sqlite
    exact
      (Service.result_findPageFor compiled rfl Club.seeded default
        Club.overSorted).trans
        (Predicate.answer_of_refused
          (Field.namesApart_asks only apart answers.takes.fits) refused _)

end RecordQuery
