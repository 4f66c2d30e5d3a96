import Mathlib.Data.List.Forall2
import RecordQuery.Club.Records
import RecordQuery.Proofs.Answers
import RecordQuery.Proofs.Compilation
import RecordQuery.Proofs.Sorting

namespace RecordQuery

/-!
# Pages in the order asked for

An order sorts if it names a field on an own column.  The orders of a request
that sort are the columns that a page is sorted by, one for one; the others are
told of and make no other difference.  `SortKey.Orders` says when one record may
stand before another: the first column that tells them apart decides, by the
order in which the database compares contents.
-/

namespace Field

theorem column?_eq_some_iff {field : Field} {column : String} :
    field.column? = some column ↔ field.source = .own column := by
  unfold column?
  cases field.source <;> simp

theorem isSome_column? (field : Field) :
    field.column?.isSome = !field.isRelation := by
  unfold column? isRelation
  cases field.source <;> rfl

end Field

/-- Whether an order names a field on an own column. -/
def Entity.sorts (entity : Entity) (order : SortOrder) : Bool :=
  match entity.field? order.property with
  | none => false
  | some field => !field.isRelation

/-- The column of the field that an order names, in the order's direction. -/
structure SortKey.IsFor
    (entity : Entity)
    (order : SortOrder)
    (key : SortKey) :
    Prop where
  column :
    ∃ field,
      entity.field? order.property = some field ∧
        field.source = .own key.column
  direction : key.direction = order.direction

namespace Entity

/-- The events that tell of the orders that do not sort. -/
def warnings (entity : Entity) (orders : List SortOrder) : List Event :=
  (orders.filter fun order => !entity.sorts order).map fun order =>
    .unsortable order.property entity.resource

/-- What a list of orders comes to. -/
structure Resolves (entity : Entity) (orders : List SortOrder) : Prop where
  nonempty : (entity.resolveSort orders).result ≠ []
  events : (entity.resolveSort orders).events = entity.warnings orders
  warns :
    ∀ event ∈ (entity.resolveSort orders).events, event.level = .warn
  named :
    (∃ order ∈ orders, entity.sorts order = true) →
      List.Forall₂ (SortKey.IsFor entity)
        (orders.filter entity.sorts) (entity.resolveSort orders).result
  default :
    (∀ order ∈ orders, entity.sorts order = false) →
      (entity.resolveSort orders).result =
        [⟨entity.defaultSort, .ascending⟩]
  /-- Orders that do not sort may be deleted, added and moved. -/
  alike :
    ∀ others,
      others.filter entity.sorts = orders.filter entity.sorts →
        (entity.resolveSort others).result =
          (entity.resolveSort orders).result

variable {entity : Entity}

/-- The events of a list of orders are warnings. -/
theorem level_of_mem_sortEvents
    {orders : List SortOrder}
    {event : Event}
    (member : event ∈ entity.sortEvents orders) :
    event.level = .warn := by
  obtain ⟨order, -, told⟩ := List.mem_filterMap.mp member
  split at told
  · exact absurd told (by simp)
  · cases told
    rfl

section

variable (distinctNames : (entity.fields.map Field.name).Nodup)

include distinctNames

/-- If no two fields share a name, a property is looked up in one of them. -/
theorem sortColumn?_eq_bind (property : String) :
    entity.sortColumn? property =
      (entity.field? property).bind Field.column? := by
  have mem_of_sortColumn? {column : String}
      (isColumn : entity.sortColumn? property = some column) :
      (entity.field? property).bind Field.column? = some column := by
    obtain ⟨field, member, read⟩ :=
      List.exists_of_findSome?_eq_some isColumn
    split at read
    next named =>
      rw [← named, field?_name distinctNames member, Option.bind_some, read]
    next =>
      exact absurd read (by simp)
  cases isColumn : entity.sortColumn? property with
  | some column =>
      exact (mem_of_sortColumn? isColumn).symm
  | none =>
      symm
      rw [Option.bind_eq_none_iff]
      intro field found
      rw [sortColumn?, List.findSome?_eq_none_iff] at isColumn
      have unread := isColumn field (mem_fields_of_field? found)
      rwa [if_pos (name_of_field? found)] at unread

theorem isSome_sortColumn? (order : SortOrder) :
    (entity.sortColumn? order.property).isSome = entity.sorts order := by
  rw [sortColumn?_eq_bind distinctNames, sorts]
  cases entity.field? order.property with
  | none =>
      rfl
  | some field =>
      exact field.isSome_column?

theorem isFor_of_sortColumn?
    {order : SortOrder}
    {column : String}
    (isColumn : entity.sortColumn? order.property = some column) :
    SortKey.IsFor entity order ⟨column, order.direction⟩ where
  column := by
    rw [sortColumn?_eq_bind distinctNames, Option.bind_eq_some_iff]
      at isColumn
    obtain ⟨field, found, isOwn⟩ := isColumn
    exact ⟨field, found, Field.column?_eq_some_iff.mp isOwn⟩
  direction := rfl

/-- The columns of a list of orders are those of the orders that sort. -/
theorem forall₂_sortKeys (orders : List SortOrder) :
    List.Forall₂ (SortKey.IsFor entity)
      (orders.filter entity.sorts) (entity.sortKeys orders) := by
  induction orders with
  | nil =>
      exact .nil
  | cons order rest inductionHypothesis =>
      have decided := isSome_sortColumn? distinctNames order
      cases isColumn : entity.sortColumn? order.property with
      | none =>
          rw [isColumn] at decided
          simpa [sortKeys, ← decided, isColumn] using inductionHypothesis
      | some column =>
          rw [isColumn] at decided
          simpa [sortKeys, ← decided, isColumn] using
            ⟨isFor_of_sortColumn? distinctNames isColumn,
              inductionHypothesis⟩

theorem sortEvents_eq (orders : List SortOrder) :
    entity.sortEvents orders = entity.warnings orders := by
  rw [sortEvents, warnings, ← List.filterMap_eq_map,
    List.filterMap_filter]
  refine List.filterMap_congr fun order _ => ?_
  rw [← isSome_sortColumn? distinctNames]
  cases entity.sortColumn? order.property <;> rfl

theorem sortKeys_filter_sorts (orders : List SortOrder) :
    entity.sortKeys (orders.filter entity.sorts) =
      entity.sortKeys orders := by
  rw [sortKeys, List.filterMap_filter, sortKeys]
  refine List.filterMap_congr fun order _ => ?_
  rw [← isSome_sortColumn? distinctNames]
  cases entity.sortColumn? order.property <;> rfl

/-- Orders that do not sort leave the columns to sort by as they are. -/
theorem result_resolveSort_congr
    {orders others : List SortOrder}
    (alike : others.filter entity.sorts = orders.filter entity.sorts) :
    (entity.resolveSort others).result =
      (entity.resolveSort orders).result := by
  have sameKeys : entity.sortKeys others = entity.sortKeys orders := by
    rw [← sortKeys_filter_sorts distinctNames others, alike,
      sortKeys_filter_sorts distinctNames orders]
  rw [resolveSort, resolveSort, sameKeys]

theorem resolves (orders : List SortOrder) : entity.Resolves orders where
  nonempty := entity.resolveSort_ne_nil orders
  events := sortEvents_eq distinctNames orders
  warns := fun _ member => level_of_mem_sortEvents member
  named := by
    rintro ⟨order, member, sorting⟩
    have keys := forall₂_sortKeys distinctNames orders
    rw [resolveSort]
    split
    next noKeys =>
      rw [noKeys, List.forall₂_nil_right_iff, List.filter_eq_nil_iff] at keys
      exact absurd sorting (keys order member)
    next =>
      exact keys
  default := by
    intro noneSorts
    have keys := forall₂_sortKeys distinctNames orders
    have noneLeft : orders.filter entity.sorts = [] := by
      rw [List.filter_eq_nil_iff]
      intro order member
      simp [noneSorts order member]
    rw [noneLeft, List.forall₂_nil_left_iff] at keys
    rw [resolveSort, keys]
  alike := fun _ same => result_resolveSort_congr distinctNames same

end

end Entity

/-- Whether a direction puts one content before another. -/
def Direction.Puts : Direction → Option Value → Option Value → Prop
  | .ascending, first, second => Sql.contentOrder first second = .lt
  | .descending, first, second => Sql.contentOrder second first = .lt

/-- Null comes first where the order ascends, and last where it descends. -/
def Direction.KeepsNull : Direction → Option Value → Option Value → Prop
  | .ascending, first, second =>
      storageOf second = none → storageOf first = none
  | .descending, first, second =>
      storageOf first = none → storageOf second = none

/-- What does not come after null is null. -/
theorem Sql.storageOf_eq_none_of_isLE
    {first second : Option Value}
    (inOrder : (contentOrder first second).isLE = true)
    (isNull : storageOf second = none) :
    storageOf first = none := by
  unfold contentOrder at inOrder
  rw [isNull] at inOrder
  cases stored : storageOf first with
  | none =>
      rfl
  | some _ =>
      rw [stored] at inOrder
      exact absurd inOrder Bool.false_ne_true

namespace SortKey

/-- Whether a column does not tell two records apart. -/
def IsLevel (key : SortKey) (earlier later : Record) : Prop :=
  Sql.contentOrder (earlier.get? key.column) (later.get? key.column) = .eq

/-- Whether a column alone puts a record before another. -/
def Puts (key : SortKey) (earlier later : Record) : Prop :=
  key.direction.Puts (earlier.get? key.column) (later.get? key.column)

/--
A record may stand before another in the order of a list of columns: the first
column that tells them apart puts it there, or none does.
-/
inductive Orders (earlier later : Record) : List SortKey → Prop where
  | level : Orders earlier later []
  | apart
      {key : SortKey}
      {rest : List SortKey}
      (puts : key.Puts earlier later) :
      Orders earlier later (key :: rest)
  | tied
      {key : SortKey}
      {rest : List SortKey}
      (isLevel : key.IsLevel earlier later)
      (others : Orders earlier later rest) :
      Orders earlier later (key :: rest)

variable {key : SortKey}
variable {earlier later : Record}

theorem order_eq_lt_iff :
    key.order earlier later = .lt ↔ key.Puts earlier later := by
  unfold order Puts
  cases key.direction with
  | ascending =>
      rfl
  | descending =>
      dsimp only [Direction.Puts]
      rw [← Std.OrientedCmp.eq_swap]

theorem order_eq_eq_iff :
    key.order earlier later = .eq ↔ key.IsLevel earlier later := by
  unfold order IsLevel
  cases key.direction with
  | ascending =>
      rfl
  | descending =>
      exact Ordering.swap_eq_eq

/-- Records are compared as the columns order them. -/
theorem isLE_orderBy_iff (keys : List SortKey) :
    (orderBy keys earlier later).isLE = true ↔
      Orders earlier later keys := by
  induction keys with
  | nil =>
      exact ⟨fun _ => .level, fun _ => rfl⟩
  | cons key rest inductionHypothesis =>
      rw [orderBy]
      constructor
      · intro inOrder
        cases compared : key.order earlier later with
        | lt =>
            exact .apart (order_eq_lt_iff.mp compared)
        | eq =>
            rw [compared] at inOrder
            exact .tied (order_eq_eq_iff.mp compared)
              (inductionHypothesis.mp inOrder)
        | gt =>
            rw [compared] at inOrder
            exact absurd inOrder Bool.false_ne_true
      · rintro (- | puts | ⟨isLevel, others⟩)
        · rw [order_eq_lt_iff.mpr puts]
          rfl
        · rw [order_eq_eq_iff.mpr isLevel]
          exact inductionHypothesis.mpr others

/-- One column that may put a record before another keeps null in place. -/
theorem keepsNull_of_isLE
    (inOrder : (key.order earlier later).isLE = true) :
    key.direction.KeepsNull
      (earlier.get? key.column) (later.get? key.column) := by
  unfold order at inOrder
  cases direction : key.direction with
  | ascending =>
      rw [direction] at inOrder
      exact Sql.storageOf_eq_none_of_isLE inOrder
  | descending =>
      rw [direction] at inOrder
      dsimp only at inOrder
      rw [← Std.OrientedCmp.eq_swap] at inOrder
      exact Sql.storageOf_eq_none_of_isLE inOrder

/-- A column keeps null in place among records that are level before it. -/
theorem Orders.keepsNull
    {before after : List SortKey}
    (ordered : Orders earlier later (before ++ key :: after))
    (isLevel : ∀ other ∈ before, other.IsLevel earlier later) :
    key.direction.KeepsNull
      (earlier.get? key.column) (later.get? key.column) := by
  induction before with
  | nil =>
      apply keepsNull_of_isLE
      cases ordered with
      | apart puts =>
          rw [order_eq_lt_iff.mpr puts]
          rfl
      | tied isLevel _ =>
          rw [order_eq_eq_iff.mpr isLevel]
          rfl
  | cons first rest inductionHypothesis =>
      rw [List.forall_mem_cons] at isLevel
      cases ordered with
      | apart puts =>
          have tied := order_eq_eq_iff.mpr isLevel.1
          rw [order_eq_lt_iff.mpr puts] at tied
          exact absurd tied (by simp)
      | tied _ others =>
          exact inductionHypothesis others isLevel.2

end SortKey

/-- A page whose records are in the order of a list of columns. -/
structure Page.Follows
    (page : Page Record)
    (keys : List SortKey) :
    Prop where
  sorted :
    page.content.Pairwise fun earlier later =>
      SortKey.Orders earlier later keys
  /-- Among records that are level so far, each column keeps null in place. -/
  nulls :
    ∀ before key after,
      keys = before ++ key :: after →
        page.content.Pairwise fun earlier later =>
          (∀ other ∈ before, other.IsLevel earlier later) →
            key.direction.KeepsNull
              (earlier.get? key.column) (later.get? key.column)

/-- Two answers with one result, whose events differ at one level only. -/
structure Answer.SameBut
    {Result : Type}
    (level : Level)
    (left right : Answer Result) :
    Prop where
  result : left.result = right.result
  calls : left.calls.map StoreCall.name = right.calls.map StoreCall.name
  events :
    (left.events.filter fun event => event.level ≠ level) =
      right.events.filter fun event => event.level ≠ level

/-- Two requests that differ in orders that do not sort, but in nothing else. -/
structure PageRequest.Resembles
    (entity : Entity)
    (left right : PageRequest) :
    Prop where
  page : left.page = right.page
  size : left.size = right.size
  sort : left.sort.filter entity.sorts = right.sort.filter entity.sorts

/-- The page of a request, as a database sorts it. -/
structure Database.SortsPage
    (database : Database)
    (entity : Entity)
    (request : PageRequest) :
    Prop where
  /-- A page is a window of the records selected, once they are sorted. -/
  window :
    ∀ predicate,
      predicate.NamesApart entity.table →
        (StatementSize.ofPage predicate
          (entity.resolveSort request.sort).result).refusal? = none →
          ∃ (page : Page Record) (records : List Record),
            ((Store.ofDatabase database entity).findPage
                predicate request).result = .ok page ∧
              records.Perm (database.select entity predicate) ∧
              (records.Pairwise fun earlier later =>
                SortKey.Orders earlier later
                  (entity.resolveSort request.sort).result) ∧
              page.content =
                (records.drop request.offset.toNat).take
                  request.size.toNat
  follows :
    ∀ predicate page,
      ((Store.ofDatabase database entity).findPage
          predicate request).result = .ok page →
        page.Follows (entity.resolveSort request.sort).result
  events :
    ∀ predicate,
      ((Store.ofDatabase database entity).findPage
          predicate request).events = entity.warnings request.sort
  /-- Orders that do not sort change no page. -/
  alike :
    ∀ other : PageRequest,
      other.Resembles entity request →
        ∀ predicate,
          ((Store.ofDatabase database entity).findPage
              predicate other).result =
            ((Store.ofDatabase database entity).findPage
              predicate request).result
  /-- In an answer to a query they change no more than the warnings. -/
  answersAlike :
    ∀ other : PageRequest,
      other.Resembles entity request →
        ∀ config criteria visibility,
          ((Service.ofDatabase database entity config).findPageFor
              criteria other visibility).SameBut .warn
            ((Service.ofDatabase database entity config).findPageFor
              criteria request visibility)

theorem Page.follows_of_sorted
    {page : Page Record}
    {keys : List SortKey}
    (sorted :
      page.content.Pairwise fun earlier later =>
        SortKey.Orders earlier later keys) :
    page.Follows keys where
  sorted := sorted
  nulls := by
    rintro before key after rfl
    exact sorted.imp fun ordered isLevel => ordered.keepsNull isLevel

/-- Stores that answer alike, but for some events, make services that do. -/
theorem Service.sameBut_query
    {Result : Type}
    {level : Level}
    {leftRun rightRun : Predicate → Traced (Except StoreError Result)}
    {leftCall rightCall : Predicate → StoreCall}
    (sameResult :
      ∀ predicate, (leftRun predicate).result = (rightRun predicate).result)
    (sameEvents :
      ∀ predicate,
        ((leftRun predicate).events.filter fun event =>
            event.level ≠ level) =
          (rightRun predicate).events.filter fun event =>
            event.level ≠ level)
    (sameCall :
      ∀ predicate, (leftCall predicate).name = (rightCall predicate).name)
    (service : Service)
    (asked : Event)
    (criteria : Option Criteria)
    (visibility : Visibility)
    (nothing : Result) :
    (service.query asked criteria visibility nothing leftCall
        leftRun).SameBut level
      (service.query asked criteria visibility nothing rightCall
        rightRun) := by
  cases compiled : (service.compile criteria).result with
  | error error =>
      simp only [query, compiled]
      exact ⟨rfl, rfl, rfl⟩
  | ok predicate =>
      cases visible : visibility.apply predicate with
      | none =>
          simp only [query, compiled, visible]
          exact ⟨rfl, rfl, rfl⟩
      | some narrowed =>
          simp only [query, compiled, visible]
          refine ⟨?_, ?_, ?_⟩
          · simp only [ofStore, Traced.map, sameResult]
          · simp only [List.map_cons, List.map_nil, sameCall]
          · simp only [ofStore, Traced.map, List.filter_cons, sameEvents]

theorem Store.result_findPage
    (database : Database)
    (entity : Entity)
    (predicate : Predicate)
    (request : PageRequest) :
    ((ofDatabase database entity).findPage predicate request).result =
      predicate.allow entity.table
        (.ofPage predicate (entity.resolveSort request.sort).result)
        (database.findPage entity predicate request).result :=
  rfl

/-- Without the warnings, a page of a database comes without events. -/
theorem Store.filter_events_findPage
    (database : Database)
    (entity : Entity)
    (predicate : Predicate)
    (request : PageRequest) :
    (((ofDatabase database entity).findPage predicate request).events.filter
      fun event => event.level ≠ .warn) = [] := by
  rw [List.filter_eq_nil_iff]
  intro event member
  have warns : event.level = .warn := Entity.level_of_mem_sortEvents member
  simp [warns]

section

variable {entity : Entity}
variable {left right : PageRequest}
variable (distinctNames : (entity.fields.map Field.name).Nodup)
variable (alike : left.Resembles entity right)

include distinctNames alike

theorem Store.result_findPage_congr
    (database : Database)
    (predicate : Predicate) :
    ((ofDatabase database entity).findPage predicate left).result =
      ((ofDatabase database entity).findPage predicate right).result := by
  obtain ⟨page, size, sort⟩ := left
  obtain ⟨samePage, sameSize, sameSort⟩ := alike
  dsimp only at samePage sameSize sameSort
  subst samePage sameSize
  have sameKeys :=
    Entity.result_resolveSort_congr distinctNames sameSort
  simp only [ofDatabase, Database.findPage, Traced.map, sameKeys]
  rfl

theorem Service.sameBut_findPageFor
    (database : Database)
    (config : Config)
    (criteria : Option Criteria)
    (visibility : Visibility) :
    ((ofDatabase database entity config).findPageFor
        criteria left visibility).SameBut .warn
      ((ofDatabase database entity config).findPageFor
        criteria right visibility) := by
  obtain ⟨page, size, sort⟩ := left
  have sameResult :=
    Store.result_findPage_congr distinctNames alike database
  obtain ⟨samePage, sameSize, -⟩ := alike
  dsimp only at samePage sameSize
  subst samePage sameSize
  unfold findPageFor
  refine sameBut_query sameResult (fun predicate => ?_) ?_ ..
  · rw [Store.filter_events_findPage, Store.filter_events_findPage]
  · exact fun _ => rfl

end

theorem Database.sortsPage
    {entity : Entity}
    (distinctNames : (entity.fields.map Field.name).Nodup)
    (database : Database)
    (request : PageRequest) :
    database.SortsPage entity request where
  window := by
    intro predicate apart taken
    refine ⟨(database.findPage entity predicate request).result,
      sorted (entity.resolveSort request.sort).result
        (database.select entity predicate), ?_, ?_, ?_, rfl⟩
    · rw [Store.result_findPage, Predicate.allow, if_pos apart,
        StatementSize.allow, taken]
    · exact List.mergeSort_perm _ _
    · exact (pairwise_sorted _ _).imp (SortKey.isLE_orderBy_iff _).mp
  follows := by
    intro predicate page found
    rw [Store.result_findPage] at found
    obtain rfl := Predicate.eq_of_allow found
    apply Page.follows_of_sorted
    exact (database.pairwise_content_findPage _ _ _).imp
      (SortKey.isLE_orderBy_iff _).mp
  events := fun _ => Entity.sortEvents_eq distinctNames request.sort
  alike := fun _ alike predicate =>
    Store.result_findPage_congr distinctNames alike database predicate
  answersAlike := fun _ alike config criteria visibility =>
    Service.sameBut_findPageFor distinctNames alike database config criteria
      visibility

/--
A page is sorted by the orders of its request that name fields on own columns,
in their order and directions, or by the default column if there are none.

The other orders are told of, one warning each, and change nothing else: neither
what is sorted by, nor a page, nor the answer to a query.
-/
theorem pages_follow_orders
    {entity : Entity}
    (distinctNames : (entity.fields.map Field.name).Nodup)
    (orders : List SortOrder) :
    entity.Resolves orders ∧
      ∀ (database : Database) (page size : UInt64),
        database.SortsPage entity ⟨page, size, orders⟩ :=
  ⟨Entity.resolves distinctNames orders, fun database page size =>
    database.sortsPage distinctNames ⟨page, size, orders⟩⟩

namespace Club

/-- Challenges by their time, the latest first, and then by their key. -/
def latestFirst : List SortOrder :=
  [ ⟨"cordName", .ascending⟩,
    ⟨"matchTime", .descending⟩,
    ⟨"proposerId", .descending⟩,
    ⟨"id", .ascending⟩ ]

end Club

/-- All challenges are listed; the one without a time is among them. -/
theorem pages_follow_latestFirst :
    (Club.challenge.fields.map Field.name).Nodup ∧
      (Club.challenge.resolveSort Club.latestFirst).events =
        [ .unsortable "cordName" "challenges",
          .unsortable "proposerId" "challenges" ] ∧
      ∃ page : Page Record,
        ((Store.ofDatabase Club.seeded Club.challenge).findPage .everything
            ⟨0, 20, Club.latestFirst⟩).result = .ok page ∧
          page.content.Perm Club.challenges.records ∧
          page.Follows
            [⟨"match_time", .descending⟩, ⟨"id", .ascending⟩] := by
  have distinctNames :
      (Club.challenge.fields.map Field.name).Nodup := by
    decide
  obtain ⟨resolves, sortsPage⟩ :=
    pages_follow_orders distinctNames Club.latestFirst
  obtain ⟨page, records, found, selected, -, content⟩ :=
    (sortsPage Club.seeded 0 20).window .everything (by decide)
      (by decide)
  have all : Club.seeded.select Club.challenge .everything =
      Club.challenges.records := rfl
  rw [all] at selected
  refine ⟨distinctNames, resolves.events, page, found, ?_,
    (sortsPage Club.seeded 0 20).follows .everything page found⟩
  have few : records.length ≤ 20 := by
    rw [selected.length_eq]
    decide
  rw [content, List.take_of_length_le]
  · exact selected
  · exact few

end RecordQuery
