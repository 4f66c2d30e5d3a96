import RecordQuery.Error
import RecordQuery.Record

namespace RecordQuery

/-!
# Databases

A database is a value: tables of records, each with the greatest key that it
ever gave away, so that keys are never used again.  What changes a record gives
contents by column name.
-/

/-- The records of a table and the greatest key it ever used. -/
structure Table where
  name : String
  records : List Record
  lastKey : Nat
  deriving DecidableEq

/-- A list of tables. -/
structure Database where
  tables : List Table
  deriving DecidableEq

/-- What a save sets: contents by column name. -/
abbrev Changes := List (String × Option Value)

/-- What a column keeps of a content: no NaN, and no negative zero. -/
def storedContent : Option Value → Option Value
  | some (.float value) =>
      if value.isNaN then
        none
      else if value.isZero then
        some (.float .zero)
      else
        some (.float value)
  | content => content

namespace Changes

/-- The content that is set for a column, if one is. -/
def set? (column : String) : Changes → Option (Option Value)
  | [] => none
  | change :: rest =>
      if change.1 = column then
        some (storedContent change.2)
      else
        set? column rest

/-- The key that is set, if one is. -/
def key? (changes : Changes) : Option Int64 :=
  match set? keyColumn changes with
  | some (some (.integer key)) => some key
  | _ => none

/-- The changes to other columns than the key. -/
def withoutKey (changes : Changes) : Changes :=
  changes.filter fun change => change.1 ≠ keyColumn

end Changes

namespace Table

/-- The key of the next record. -/
def nextKey (table : Table) : Int64 :=
  Int64.ofNat (table.lastKey + 1)

/-- The record of a key. -/
def find? (table : Table) (key : Int64) : Option Record :=
  table.records.find? fun record => record.key == key

/-- The table without the record of a key. -/
def erase (table : Table) (key : Int64) : Table :=
  { table with
    records := table.records.filter fun record => record.key ≠ key }

/-- The table with the records of a key replaced. -/
def replace (table : Table) (record : Record) : Table :=
  { table with
    records :=
      table.records.map fun existing =>
        if existing.key = record.key then record else existing }

/-- The table with a new record under the next key. -/
def add (table : Table) (record : Record) : Table :=
  { table with
    records := table.records ++ [record]
    lastKey := table.lastKey + 1 }

/-- Looking up a key after erasing one. -/
@[simp] theorem find?_erase (table : Table) (key other : Int64) :
    (table.erase key).find? other =
      if key = other then none else table.find? other := by
  unfold erase find?
  rw [List.find?_filter]
  split
  next same =>
    subst same
    simp
  next different =>
    congr 1
    funext record
    by_cases here : record.key = other
    · simp [here, Ne.symm different]
    · simp [here]

/-- Looking up a key after replacing the record of one. -/
@[simp] theorem find?_replace (table : Table) (record : Record) (key : Int64) :
    (table.replace record).find? key =
      if record.key = key then (table.find? key).map fun _ => record
      else table.find? key := by
  unfold replace find?
  simp only
  induction table.records with
  | nil =>
      simp
  | cons first rest inductionHypothesis =>
      by_cases replaced : first.key = record.key
      · by_cases here : record.key = key <;>
          simp_all
      · by_cases here : first.key = key
        · have apart : record.key ≠ key := fun equal =>
            replaced (here.trans equal.symm)
          simp [here, apart, Ne.symm apart]
        · simp_all

/-- Looking up a key after adding a record. -/
@[simp] theorem find?_add (table : Table) (record : Record) (key : Int64) :
    (table.add record).find? key =
      (table.find? key).or
        (if record.key = key then some record else none) := by
  by_cases here : record.key = key <;>
    simp [add, find?, List.find?_append, here]

end Table

namespace Record

/-- A record with the changes made to its cells. -/
def updated (record : Record) (changes : Changes) : Record :=
  { record with
    cells :=
      record.cells.map fun cell =>
        (cell.1, (Changes.set? cell.1 changes).getD cell.2) }

end Record

namespace Entity

/-- The columns besides the key. -/
def plainColumns (entity : Entity) : List Column :=
  entity.columns.filter fun column => column.name ≠ keyColumn

/-- The first required column that changes would leave null. -/
def missing? (entity : Entity) (changes : Changes) : Option Column :=
  entity.plainColumns.find? fun column =>
    column.required && ((Changes.set? column.name changes).join).isNone

/-- The first required column that changes set to null. -/
def nulled? (entity : Entity) (changes : Changes) : Option Column :=
  entity.plainColumns.find? fun column =>
    column.required && Changes.set? column.name changes == some none

/-- The cells of a new record; a column that is not set is null. -/
def newCells (entity : Entity) (changes : Changes) :
    List (String × Option Value) :=
  entity.plainColumns.map fun column =>
    (column.name, (Changes.set? column.name changes).join)

/-- The new record of a key. -/
def newRecord (entity : Entity) (key : Int64) (changes : Changes) : Record :=
  ⟨key, entity.newCells changes⟩

end Entity

namespace Database

/-- The table of a name; a table that is not there is empty. -/
def table (database : Database) (name : String) : Table :=
  (database.tables.find? fun table => table.name == name).getD
    ⟨name, [], 0⟩

/-- The database with the table of a name put in place. -/
def withTable (database : Database) (table : Table) : Database :=
  if database.tables.any fun existing => existing.name == table.name then
    { tables :=
        database.tables.map fun existing =>
          if existing.name = table.name then table else existing }
  else
    { tables := database.tables ++ [table] }

/-- The record of an entity under a key. -/
def find? (database : Database) (entity : Entity) (key : Int64) :
    Option Record :=
  (database.table entity.table).find? key

/-- The greatest key of all. -/
def greatestKey : Nat := 0x7fffffffffffffff

/-- Looking up a table in tables of which those of one name were replaced. -/
theorem find?_replaced
    (tables : List Table)
    (table : Table)
    (name : String) :
    (tables.map fun existing =>
        if existing.name = table.name then table else existing).find?
          (fun existing => existing.name == name) =
      if table.name = name then
        (tables.find? fun existing => existing.name == name).map
          fun _ => table
      else
        tables.find? fun existing => existing.name == name := by
  induction tables with
  | nil =>
      simp
  | cons first rest inductionHypothesis =>
      by_cases replaced : first.name = table.name
      · by_cases here : table.name = name <;>
          simp_all
      · by_cases here : first.name = name
        · have apart : table.name ≠ name := fun equal =>
            replaced (here.trans equal.symm)
          simp [here, apart, Ne.symm apart]
        · simp_all

/-- Only the table that was put in place is another one. -/
@[simp] theorem table_withTable
    (database : Database)
    (table : Table)
    (name : String) :
    (database.withTable table).table name =
      if table.name = name then table else database.table name := by
  unfold withTable
  split
  next present =>
    simp only [Database.table, find?_replaced]
    split
    next same =>
      obtain ⟨existing, member, matching⟩ := List.any_eq_true.mp present
      have found :
          (database.tables.find? fun other =>
            other.name == name).isSome := by
        rw [List.find?_isSome]
        exact ⟨existing, member, by simpa [← same] using matching⟩
      obtain ⟨first, isFirst⟩ := Option.isSome_iff_exists.mp found
      simp [isFirst]
    · rfl
  next absent =>
    simp only [Database.table, List.find?_append]
    split
    next same =>
      have notFound :
          (database.tables.find? fun other => other.name == name) = none := by
        rw [List.find?_eq_none]
        intro other member matching
        exact absent (List.any_eq_true.mpr
          ⟨other, member, by simpa [same] using matching⟩)
      simp [notFound, same]
    next different =>
      simp [different]

end Database

end RecordQuery
