import RecordQuery.Proofs.Contents
import RecordQuery.Proofs.Sorting

namespace RecordQuery

/-!
# Timestamps that are asked for and sorted by

Timestamps are stored and bound as texts, so a database compares them byte by
byte.  For years of four digits that is the order of time, down to a nanosecond
and with leap seconds in their place: a range or an equality selects a record by
its instant, and a sort puts instants in the order of time
(`timestamps_follow_time`).  Only own columns are sorted by, so that the times of
related records sort nothing (`not_timestamps_follow_time`).
-/

/-- How an instant stands to a moment that an operator compares it with. -/
def Operator.Meets : Operator → Instant → Instant → Prop
  | .equals, instant, moment => instant = moment
  | .greaterThan, instant, moment => moment.isBefore instant = true
  | .atLeast, instant, moment => instant.isBefore moment = false
  | .lessThan, instant, moment => instant.isBefore moment = true
  | .atMost, instant, moment => moment.isBefore instant = false
  | _, _, _ => False

/-- Whether a direction lets one instant stand before another. -/
def Direction.Allows : Direction → Instant → Instant → Prop
  | .ascending, first, second => second.isBefore first = false
  | .descending, first, second => first.isBefore second = false

/-- Whether a content is null or a timestamp of a plain year. -/
def isTime : Option Value → Bool
  | none => true
  | some (.timestamp instant) => instant.hasPlainYear
  | some _ => false

/-- The contents of a field are null or timestamps of plain years. -/
def Field.KeepsTime
    (field : Field)
    (database : Database)
    (record : Record) :
    Prop :=
  ∀ content ∈ field.contents database record, isTime content = true

theorem exists_instant_of_isTime
    {value : Value}
    (time : isTime (some value) = true) :
    ∃ instant, value = .timestamp instant ∧ instant.hasPlainYear = true := by
  cases value with
  | timestamp instant =>
      exact ⟨instant, rfl, time⟩
  | _ =>
      exact absurd time Bool.false_ne_true

namespace Instant

variable {left right : Instant}

theorem isLT_order : (left.order right).isLT = left.isBefore right := by
  unfold order
  cases left.isBefore right <;> cases right.isBefore left <;> rfl

theorem isGT_order : (left.order right).isGT = right.isBefore left := by
  rcases isBefore_or_eq_or_isBefore left right with before | rfl | after
  · simp [order, before, isBefore_asymm before]
  · simp [order, isBefore_self]
  · simp [order, after, isBefore_asymm after]

theorem isEq_order_iff : (left.order right).isEq = true ↔ left = right := by
  rcases isBefore_or_eq_or_isBefore left right with before | rfl | after
  · have different : left ≠ right := by
      rintro rfl
      exact absurd before (by simp [isBefore_self])
    simp [order, before, different]
  · simp [order, isBefore_self]
  · have different : left ≠ right := by
      rintro rfl
      exact absurd after (by simp [isBefore_self])
    simp [order, after, isBefore_asymm after, different]

theorem isLE_order : (left.order right).isLE = !right.isBefore left := by
  rw [← isGT_order]
  cases left.order right <;> rfl

theorem isGE_order : (left.order right).isGE = !left.isBefore right := by
  rw [← isLT_order]
  cases left.order right <;> rfl

end Instant

/-- Ranges and equality are comparisons that accept an order of time. -/
theorem Operator.exists_comparison
    {operator : Operator}
    (comparing : operator.isRange = true ∨ operator = .equals) :
    ∃ comparison : Sql.Comparison,
      (∀ content operand,
        Sql.answer content operator (.value operand) =
          Sql.operandTruth comparison content operand) ∧
        ∀ instant moment : Instant,
          comparison.accepts (instant.order moment) = true ↔
            operator.Meets instant moment := by
  cases operator with
  | equals =>
      exact ⟨.equal, fun _ _ => rfl, fun _ _ => Instant.isEq_order_iff⟩
  | greaterThan =>
      refine ⟨.greater, fun _ _ => rfl, fun _ _ => ?_⟩
      rw [Sql.Comparison.accepts, Instant.isGT_order, Meets]
  | atLeast =>
      refine ⟨.atLeast, fun _ _ => rfl, fun _ _ => ?_⟩
      rw [Sql.Comparison.accepts, Instant.isGE_order, Bool.not_eq_true',
        Meets]
  | lessThan =>
      refine ⟨.less, fun _ _ => rfl, fun _ _ => ?_⟩
      rw [Sql.Comparison.accepts, Instant.isLT_order, Meets]
  | atMost =>
      refine ⟨.atMost, fun _ _ => rfl, fun _ _ => ?_⟩
      rw [Sql.Comparison.accepts, Instant.isLE_order, Bool.not_eq_true',
        Meets]
  | _ =>
      simp [isRange] at comparing

/-- Ranges and equality may be asked of a timestamp field. -/
theorem Field.answers_timestamp
    {field : Field}
    {operator : Operator}
    (isTimestamp : field.kind = .timestamp)
    (comparing : operator.isRange = true ∨ operator = .equals)
    (moment : Instant) :
    field.Answers operator (.value (.timestamp moment)) := by
  have isOperand : field.kind.IsOperand (.timestamp moment) := by
    rw [isTimestamp]
    exact ⟨rfl, rfl⟩
  rcases comparing with isRange | rfl
  · refine answers_value ?_ ?_ isOperand
    · cases operator <;> first
        | exact absurd isRange Bool.false_ne_true
        | rfl
    · rw [Kind.supports, if_pos isRange, isTimestamp]
      rfl
  · exact answers_value rfl rfl isOperand

section

variable {instant moment : Instant}
variable (instantPlain : instant.hasPlainYear = true)
variable (momentPlain : moment.hasPlainYear = true)

include instantPlain momentPlain

/-- A comparison of timestamps is decided by the order of time. -/
theorem Sql.operandTruth_timestamp (comparison : Comparison) :
    operandTruth comparison (some (.timestamp instant))
        (.timestamp moment) = .holds ↔
      comparison.accepts (instant.order moment) = true := by
  have plainContent :
      PlainContent .timestamp (some (.timestamp instant)) := by
    refine ⟨rfl, ?_⟩
    rintro value ⟨⟩
    exact instantPlain
  have plainOperand : PlainOperand .timestamp (.timestamp moment) :=
    ⟨rfl, momentPlain⟩
  rw [operandTruth_eq_holds plainContent plainOperand comparison]
  have ordered :
      (Value.timestamp instant).order? (.timestamp moment) =
        some (instant.order moment) := rfl
  constructor
  · rintro ⟨value, order, sameValue, isOrder, accepted⟩
    obtain rfl := Option.some.inj sameValue
    obtain rfl := Option.some.inj (ordered.symm.trans isOrder)
    exact accepted
  · intro accepted
    exact ⟨.timestamp instant, instant.order moment, rfl, ordered, accepted⟩

/-- Stored timestamps are sorted by the order of time. -/
theorem Sql.contentOrder_timestamp :
    contentOrder (some (.timestamp instant)) (some (.timestamp moment)) =
      instant.order moment :=
  Instant.compare_rfc3339 instantPlain momentPlain

theorem SortKey.allows_of_isLE
    {key : SortKey}
    {earlier later : Record}
    (inOrder : (key.order earlier later).isLE = true)
    (isFirst : earlier.get? key.column = some (.timestamp instant))
    (isSecond : later.get? key.column = some (.timestamp moment)) :
    key.direction.Allows instant moment := by
  rw [order, isFirst, isSecond,
    Sql.contentOrder_timestamp instantPlain momentPlain] at inOrder
  cases direction : key.direction with
  | ascending =>
      rw [direction] at inOrder
      rw [Direction.Allows, ← Bool.not_eq_true', ← Instant.isLE_order]
      exact inOrder
  | descending =>
      rw [direction] at inOrder
      dsimp only at inOrder
      rw [Ordering.isLE_swap, Instant.isGE_order, Bool.not_eq_true']
        at inOrder
      exact inOrder

end

section

variable {entity : Entity}
variable {field : Field}
variable (only : entity.HasOnly field)

include only

/-- A field that has its name to itself is sorted by its own column. -/
theorem Entity.HasOnly.sortColumn? :
    entity.sortColumn? field.name = field.column? := by
  have named (fields : List Field) :
      (fields.findSome? fun other =>
          if other.name = field.name then other.column? else none) =
        (fields.filter fun other =>
          other.name == field.name).findSome? Field.column? := by
    induction fields with
    | nil =>
        rfl
    | cons first rest inductionHypothesis =>
        by_cases same : first.name = field.name
        · simp [same, List.findSome?_cons, inductionHypothesis]
        · simp [same, inductionHypothesis]
  rw [Entity.sortColumn?, named, only]
  cases isColumn : field.column? <;> simp [isColumn]

theorem Entity.HasOnly.resolveSort_cons
    {column : String}
    (own : field.source = .own column)
    (direction : Direction)
    (others : List SortOrder) :
    (entity.resolveSort (⟨field.name, direction⟩ :: others)).result =
      ⟨column, direction⟩ :: entity.sortKeys others := by
  have isColumn : entity.sortColumn? field.name = some column := by
    rw [only.sortColumn?, Field.column?, own]
  simp [resolveSort, sortKeys, isColumn]

end

/-- A page is empty for nobody, or else it is a page of some select. -/
theorem Service.eq_empty_or_findPage_of_findPageFor
    {database : Database}
    {entity : Entity}
    {config : Config}
    {criteria : Option Criteria}
    {request : PageRequest}
    {visibility : Visibility}
    {page : Page Record}
    (answered :
      ((ofDatabase database entity config).findPageFor criteria request
        visibility).result = .ok page) :
    page = .empty request ∨
      ∃ predicate,
        page = (database.findPage entity predicate request).result := by
  cases compiled : RecordQuery.compile .sqlite entity criteria with
  | error error =>
      simp [findPageFor, query, Service.compile, ofDatabase,
        Store.ofDatabase, compiled] at answered
  | ok predicate =>
      cases visible : visibility.apply predicate with
      | none =>
          left
          simp [findPageFor, query, Service.compile, ofDatabase,
            Store.ofDatabase, compiled, visible] at answered
          exact answered.symm
      | some narrowed =>
          right
          rw [result_findPageFor compiled visible] at answered
          exact ⟨narrowed, (Predicate.eq_of_answer answered).symm⟩

/-- No more columns are sorted by than orders are asked for, but one at least. -/
theorem Entity.length_resolveSort_le
    (entity : Entity)
    {orders : List SortOrder}
    {bound : Nat}
    (positive : 1 ≤ bound)
    (few : orders.length ≤ bound) :
    (entity.resolveSort orders).result.length ≤ bound := by
  have fewKeys : (entity.sortKeys orders).length ≤ orders.length :=
    List.length_filterMap_le _ _
  simp only [resolveSort]
  split
  · exact positive
  · exact Nat.le_trans fewKeys few

/-- A page of all records is found for any number of orders that is taken. -/
theorem Service.exists_findPage_none
    (database : Database)
    (entity : Entity)
    (config : Config)
    {request : PageRequest}
    (few : request.sort.length ≤ StatementSize.mostSortKeys) :
    ∃ page,
      ((ofDatabase database entity config).findPage none request).result =
        .ok page := by
  have size : StatementSize.ofSelect .everything = ⟨1, 1, 0, 0⟩ := rfl
  have taken :
      (StatementSize.ofPage .everything
        (entity.resolveSort request.sort).result).refusal? = none := by
    rw [StatementSize.refusal?_eq_none, StatementSize.ofPage, size]
    exact ⟨Nat.le_of_ble_eq_true rfl, Nat.le_of_ble_eq_true rfl,
      Nat.le_of_ble_eq_true rfl, entity.length_resolveSort_le (Nat.le_of_ble_eq_true rfl) few⟩
  have compiled :
      RecordQuery.compile .sqlite entity none = .ok .everything := rfl
  have visible :
      Visibility.everything.apply .everything = some .everything := rfl
  have apart : Predicate.everything.NamesApart entity.table :=
    Predicate.namesApart_of_joins_eq_nil rfl
  exact ⟨_, (result_findPageFor compiled visible database config
    request).trans (Predicate.answer_of_taken apart taken _)⟩

/-- A service that compares and sorts the instants of a field by time. -/
structure Service.FollowsTime
    (service : Service)
    (database : Database)
    (field : Field) :
    Prop where
  selects :
    ∀ operator moment,
      operator.isRange = true ∨ operator = .equals →
        moment.hasPlainYear = true →
          ∃ selected,
            service.Finds
                (field.asks operator (.value (.timestamp moment)))
                selected ∧
              ∀ record, field.KeepsTime database record →
                (record ∈ selected ↔
                  record ∈
                      (database.table service.entity.table).records ∧
                    ∃ instant,
                      some (.timestamp instant) ∈
                          field.contents database record ∧
                        operator.Meets instant moment)
  /-- Pages that are sorted by the field first list instants by time. -/
  sorts :
    ∀ column, field.source = .own column →
      ∀ criteria request visibility page direction others,
        request.sort = ⟨field.name, direction⟩ :: others →
          (service.findPageFor criteria request visibility).result =
              .ok page →
            page.content.Pairwise fun earlier later =>
              ∀ first second,
                earlier.get? column = some (.timestamp first) →
                  first.hasPlainYear = true →
                    later.get? column = some (.timestamp second) →
                      second.hasPlainYear = true →
                        direction.Allows first second
  /-- A page of all records is found, if not too many others sort it too. -/
  answers :
    ∀ request direction others,
      request.sort = ⟨field.name, direction⟩ :: others →
        request.sort.length ≤ StatementSize.mostSortKeys →
          ∃ page, (service.findPage none request).result = .ok page

/--
A timestamp field is compared by time, and sorted by time if it is an own
column, whatever records a database holds, as long as the years of the
timestamps have four digits.  The name of the field is its own, and its label
differs from the name of the table.
-/
theorem timestamps_follow_time
    {entity : Entity}
    {field : Field}
    (only : entity.HasOnly field)
    (apart : field.LabelApart entity.table)
    (isTimestamp : field.kind = .timestamp)
    (database : Database)
    (config : Config) :
    (Service.ofDatabase database entity config).FollowsTime database
      field where
  selects := by
    intro operator moment comparing momentPlain
    obtain ⟨comparison, asks, meets⟩ :=
      Operator.exists_comparison comparing
    have holds_iff {instant : Instant} (plain : instant.hasPlainYear = true) :
        (Sql.answer (some (.timestamp instant)) operator
            (.value (.timestamp moment)) == .holds) = true ↔
          operator.Meets instant moment := by
      rw [beq_iff_eq, asks,
        Sql.operandTruth_timestamp plain momentPlain, meets]
    refine ⟨_, Service.finds_finding only apart
      (Field.answers_timestamp isTimestamp comparing moment) database
      config, ?_⟩
    intro record keepsTime
    rw [Database.mem_finding]
    refine and_congr_right fun _ => ?_
    constructor
    · rintro ⟨content, isContent, holds⟩
      cases content with
      | none =>
          rw [asks, Sql.operandTruth_of_absent rfl] at holds
          exact absurd holds Bool.false_ne_true
      | some value =>
          obtain ⟨instant, rfl, plain⟩ :=
            exists_instant_of_isTime (keepsTime _ isContent)
          exact ⟨instant, isContent, (holds_iff plain).mp holds⟩
    · rintro ⟨instant, isContent, meetsMoment⟩
      exact ⟨_, isContent,
        (holds_iff (keepsTime _ isContent)).mpr meetsMoment⟩
  sorts := by
    intro column own criteria request visibility page direction others
      sorted answered
    rcases Service.eq_empty_or_findPage_of_findPageFor answered with
      rfl | ⟨predicate, rfl⟩
    · exact List.Pairwise.nil
    · refine (Database.pairwise_content_findPage _ _ _ _).imp ?_
      intro earlier later inOrder first second isFirst firstPlain isSecond
        secondPlain
      rw [sorted, only.resolveSort_cons own, SortKey.orderBy_cons]
        at inOrder
      have byField := Ordering.isLE_left_of_isLE_then inOrder
      exact SortKey.allows_of_isLE firstPlain secondPlain byField isFirst
        isSecond
  answers := fun _ _ _ _ few =>
    Service.exists_findPage_none database entity config few

namespace Club

/-- The field on the time at which an item was made. -/
def createdAt : Field := .own "createdAt" .timestamp "created_at"

/-- The first moment of the year 2024. -/
def newYear : Instant := (Instant.ofParts? 1704067200 0).get rfl

/-- The keys of the items that a question about their time finds. -/
def keysByTime (operator : Operator) : List Int64 :=
  (seeded.finding item createdAt fun content =>
    Sql.answer content operator (.value (.timestamp newYear)) ==
      .holds).map Record.key

end Club

/-- Items are compared with the new year to half a second and less. -/
theorem createdAt_follows_time :
    Club.item.HasOnly Club.createdAt ∧
      Club.createdAt.LabelApart Club.item.table ∧
      Club.createdAt.kind = .timestamp ∧
      (Club.serviceOf Club.item).FollowsTime Club.seeded Club.createdAt ∧
      (∀ record ∈ Club.items.records,
        Club.createdAt.KeepsTime Club.seeded record) ∧
      Club.newYear.hasPlainYear = true ∧
      Club.keysByTime .equals = [1] ∧
      Club.keysByTime .greaterThan = [2, 6] ∧
      Club.keysByTime .atMost = [1, 3, 5] := by
  have only : Club.item.HasOnly Club.createdAt := by
    unfold Entity.HasOnly
    decide +kernel
  have apart : Club.createdAt.LabelApart Club.item.table := by
    decide
  have isTimestamp : Club.createdAt.kind = .timestamp := rfl
  refine ⟨only, apart, isTimestamp,
    timestamps_follow_time only apart isTimestamp Club.seeded default,
    ?_, ?_, ?_, ?_, ?_⟩
  · unfold Field.KeepsTime
    decide +kernel
  · decide +kernel
  · decide +kernel
  · decide +kernel
  · decide +kernel

/-- Whether two records are in the order of time by what a field has for them. -/
def Field.InTime
    (field : Field)
    (database : Database)
    (earlier later : Record) :
    Prop :=
  ∀ first second,
    some (.timestamp first) ∈ field.contents database earlier →
      some (.timestamp second) ∈ field.contents database later →
        second.isBefore first = false

namespace Club

/-- The field on the time at which the item was made that an item lies in. -/
def parentCreatedAt : Field :=
  .related "parentCreatedAt" .timestamp (parent "created_at")

/-- A page of items by the time at which those were made that they lie in. -/
def byParentTime : PageRequest where
  page := 0
  size := 20
  sort := [⟨"parentCreatedAt", .ascending⟩]

/-- Half a second after the new year. -/
def afterNewYear : Instant :=
  (Instant.ofParts? 1704067200 500000000).get rfl

/-- Items with two times of one name. -/
def itemOfTimes : Entity :=
  { item with
    fields :=
      [ createdAt,
        .related "createdAt" .timestamp (parent "created_at") ] }

/-- The field on the time of a parent that is joined by the table's name. -/
def containerCreatedAt : Field :=
  .related "containerCreatedAt" .timestamp
    ⟨"item", "item", "parent_id", "id", "created_at"⟩

/-- Items that lie in others under the name of the table, with their times. -/
def itemOfContainerTime : Entity :=
  { item with fields := [containerCreatedAt] }

/-- A question for the items of the new year. -/
def ofNewYear (field : Field) : Criteria :=
  field.asks .equals (.value (.timestamp newYear))

theorem item_hasOnly_parentCreatedAt : item.HasOnly parentCreatedAt := by
  unfold Entity.HasOnly
  decide +kernel

/-- Items are sorted by their titles when the time of a parent is asked for. -/
theorem content_byParentTime :
    (seeded.findPage item .everything byParentTime).result.content =
      Database.sorted [⟨"title", .ascending⟩] items.records := by
  apply List.take_of_length_le
  rw [List.length_drop, Database.sorted, List.length_mergeSort]
  decide

/-- The titles of two items are not in the order of their parents' times. -/
theorem not_inTime_of_titles
    {ordered : List Record}
    (selected : ordered.Perm items.records)
    (byTitle :
      ordered.Pairwise fun earlier later =>
        (SortKey.orderBy [⟨"title", .ascending⟩] earlier later).isLE =
          true) :
    ¬ordered.Pairwise (parentCreatedAt.InTime seeded) := by
  intro inTime
  have third : items.records[2] ∈ ordered :=
    selected.mem_iff.mpr (List.getElem_mem _)
  have fourth : items.records[3] ∈ ordered :=
    selected.mem_iff.mpr (List.getElem_mem _)
  have different : items.records[2] ≠ items.records[3] := by
    decide +kernel
  have both :
      ordered.Pairwise
        (Relation.SymmGen fun earlier later =>
          (SortKey.orderBy [⟨"title", .ascending⟩] earlier later).isLE =
              true ∧
            parentCreatedAt.InTime seeded earlier later) :=
    (byTitle.and inTime).imp fun related => Or.inl related
  -- One of the two stands first, but neither is before the other in both.
  rcases both.forall third fourth different with
    ⟨titles, -⟩ | ⟨-, times⟩
  · revert titles
    decide +kernel
  · have inOrder : newYear.isBefore afterNewYear = false :=
      times afterNewYear newYear (by decide +kernel) (by decide +kernel)
    revert inOrder
    decide +kernel

end Club

/--
The timestamps of a field may not be compared or sorted by time: a sort by the
timestamps of related records changes nothing, two fields of one name are both
asked, and the label of a join may be the name of the table.
-/
theorem not_timestamps_follow_time :
    (Club.item.HasOnly Club.parentCreatedAt ∧
      Club.parentCreatedAt.kind = .timestamp ∧
      (∀ record ∈ Club.items.records,
        Club.parentCreatedAt.KeepsTime Club.seeded record) ∧
      ∃ page,
        ((Club.serviceOf Club.item).findPage none
          Club.byParentTime).result = .ok page ∧
        ¬page.content.Pairwise
          (Club.parentCreatedAt.InTime Club.seeded)) ∧
    (Club.createdAt ∈ Club.itemOfTimes.fields ∧
      Club.newYear.hasPlainYear = true ∧
      (∃ record ∈ Club.items.records,
        record.get? "created_at" = some (.timestamp Club.newYear)) ∧
      (Club.serviceOf Club.itemOfTimes).Finds
        (Club.ofNewYear Club.createdAt) []) ∧
    (Club.itemOfContainerTime.HasOnly Club.containerCreatedAt ∧
      (∃ record ∈ Club.items.records,
        some (.timestamp Club.newYear) ∈
          Club.containerCreatedAt.contents Club.seeded record) ∧
      (Club.serviceOf Club.itemOfContainerTime).FailsOn
        (Club.ofNewYear Club.containerCreatedAt) .ambiguousName) := by
  refine ⟨⟨Club.item_hasOnly_parentCreatedAt, rfl, ?_, ?_⟩,
    ⟨List.mem_cons_self, ?_, ?_, ?_⟩, ?_, ?_, ?_⟩
  · unfold Field.KeepsTime
    decide +kernel
  · have few :
        Club.byParentTime.sort.length ≤ StatementSize.mostSortKeys := by
      decide
    obtain ⟨page, found⟩ :=
      Service.exists_findPage_none Club.seeded Club.item default few
    refine ⟨page, found, ?_⟩
    have answer :=
      (Service.result_findPageFor rfl rfl Club.seeded default
        Club.byParentTime).symm.trans found
    obtain rfl := Predicate.eq_of_answer answer
    rw [Club.content_byParentTime]
    exact Club.not_inTime_of_titles (List.mergeSort_perm _ _)
      (Database.pairwise_sorted _ _)
  · decide +kernel
  · decide +kernel
  · refine Club.finds_of_select rfl ?_ ?_
    · decide +kernel
    · decide +kernel
  · unfold Entity.HasOnly
    decide +kernel
  · decide +kernel
  · exact Service.failsOn_of_ambiguous rfl Club.seeded default
      (by decide +kernel)

end RecordQuery
