import RecordQuery.Database.Basic
import RecordQuery.Page.Basic
import RecordQuery.Predicate
import RecordQuery.Sql.Evaluation

namespace RecordQuery

namespace Database

/-!
# Running a select

A left join gives a base record one row for every choice of a related record
under each label, where a label that finds none has the single choice of no
record.  The records selected are the base records of the rows on which the
condition holds, so that a record is listed once for each choice; with the
distinct hint it is listed once.
-/

/-- Whether a related record belongs to a base record by a join. -/
def joinsTo (join : Join) (base related : Record) : Bool :=
  Sql.compareTruth .equal
    (base.get? join.baseColumn) (related.get? join.joinedColumn) == .holds

/-- The records that belong to a base record by a join. -/
def relatedRecords (database : Database) (join : Join) (base : Record) :
    List Record :=
  (database.table join.table).records.filter (joinsTo join base)

/-- The choices that a join has for a base record; never none. -/
def relatedChoices (database : Database) (join : Join) (base : Record) :
    List (Option Record) :=
  match database.relatedRecords join base with
  | [] => [none]
  | records => records.map some

/-- The choices of one related record for each label. -/
def choices (database : Database) (base : Record) :
    List Join → List (List (String × Option Record))
  | [] => [[]]
  | join :: rest =>
      (database.relatedChoices join base).flatMap fun choice =>
        (choices database base rest).map fun others =>
          (join.label, choice) :: others

/-- The rows that the joins make of a base record. -/
def joinedRows (database : Database) (joins : List Join) (base : Record) :
    List JoinedRow :=
  (database.choices base joins).map fun related => ⟨base, related⟩

/-- A base record, once for each of its rows that satisfy the predicate. -/
def occurrences
    (database : Database)
    (predicate : Predicate)
    (base : Record) :
    List Record :=
  ((database.joinedRows predicate.joins base).filter fun row =>
    predicate.condition.truth row == .holds).map JoinedRow.base

/-- The records that a predicate selects from an entity's table. -/
def select (database : Database) (entity : Entity) (predicate : Predicate) :
    List Record :=
  let rows :=
    (database.table entity.table).records.flatMap
      (database.occurrences predicate)
  if predicate.isDistinct then rows.eraseDups else rows

/-- The number of records that a predicate selects. -/
def count (database : Database) (entity : Entity) (predicate : Predicate) :
    UInt64 :=
  UInt64.ofNat (database.select entity predicate).length

end Database

namespace SortKey

/-- The order of two records by one column. -/
def order (key : SortKey) (left right : Record) : Ordering :=
  let ascending :=
    Sql.contentOrder (left.get? key.column) (right.get? key.column)
  match key.direction with
  | .ascending => ascending
  | .descending => ascending.swap

/-- The order of two records by the first column that tells them apart. -/
def orderBy (keys : List SortKey) (left right : Record) : Ordering :=
  match keys with
  | [] => .eq
  | key :: rest => (key.order left right).then (orderBy rest left right)

end SortKey

namespace Database

/-- Records in the order of a list of columns. -/
def sorted (keys : List SortKey) (records : List Record) : List Record :=
  records.mergeSort fun left right =>
    (SortKey.orderBy keys left right).isLE

/-- A page of the records that a predicate selects, in the order asked for. -/
def findPage
    (database : Database)
    (entity : Entity)
    (predicate : Predicate)
    (request : PageRequest) :
    Traced (Page Record) :=
  (entity.resolveSort request.sort).map fun keys =>
    let records := sorted keys (database.select entity predicate)
    Page.ofRequest
      ((records.drop request.offset.toNat).take request.size.toNat)
      request
      (database.count entity predicate)

end Database

end RecordQuery
