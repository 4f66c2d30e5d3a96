import RecordQuery.Database.Basic

namespace RecordQuery

/-!
# Writing to a database

A record without a key is inserted under the next key of its table; a record
with a key is updated.  Both are read back after they were written.

What is written is a statement, which the rules of the database may refuse: a
foreign key, a check, a uniqueness.  A call that fails leaves whatever database
it has reached, so that a statement without effect is one that was backed out.
-/

/--
Why the tables of a database refuse to become others, if they do.

Rules refuse only: they neither change nor delete a record by themselves, as a
foreign key does that cascades.
-/
structure Rules where
  violation? : Database → Database → Option StoreError

/-- A column of a table that holds keys of a table. -/
structure Reference where
  table : String
  column : String
  target : String

namespace Database

/-- Whether a record has a key in a column that leads to no record. -/
def dangles
    (database : Database)
    (reference : Reference)
    (record : Record) :
    Bool :=
  match record.get? reference.column with
  | some (.integer key) =>
      ((database.table reference.target).find? key).isNone
  | _ => false

/-- The number of records with a key that leads to no record. -/
def danglingCount (database : Database) (reference : Reference) : Nat :=
  (database.table reference.table).records.countP
    (database.dangles reference)

end Database

/-- The rules of foreign keys: no statement leaves more of them dangling. -/
def Rules.ofReferences (references : List Reference) : Rules where
  violation? before after :=
    if references.any fun reference =>
        before.danglingCount reference < after.danglingCount reference then
      some (.constraintFailed "FOREIGN KEY")
    else
      none

/--
A call that writes: from a database to a result, or the error it fails with, and
the database that it leaves either way.
-/
abbrev Write (Result : Type) := ExceptT StoreError (StateM Database) Result

namespace Write

variable {Result Next : Type}

/-- What a call gives from a database, and the database that it leaves. -/
def start (call : Write Result) (database : Database) :
    Except StoreError Result × Database :=
  (call.run.run database).run

variable (database : Database)

@[simp] theorem start_pure (result : Result) :
    (pure result : Write Result).start database = (.ok result, database) :=
  rfl

@[simp] theorem start_throw (error : StoreError) :
    (throw error : Write Result).start database =
      (.error error, database) :=
  rfl

@[simp] theorem start_get :
    (get : Write Database).start database = (.ok database, database) :=
  rfl

@[simp] theorem start_set (next : Database) :
    (set next : Write PUnit).start database = (.ok ⟨⟩, next) :=
  rfl

/-- What comes next starts from where a call got, unless the call failed. -/
@[simp] theorem start_bind (call : Write Result) (next : Result → Write Next) :
    (call >>= next).start database =
      match call.start database with
      | (.ok result, reached) => (next result).start reached
      | (.error error, reached) => (.error error, reached) := by
  have bound :
      (call >>= next).start database =
        ExceptT.bindCont next (call.start database).1
          (call.start database).2 :=
    rfl
  rw [bound]
  rcases call.start database with ⟨_ | _, _⟩ <;> rfl

@[simp] theorem start_map (change : Result → Next) (call : Write Result) :
    (change <$> call).start database =
      match call.start database with
      | (.ok result, reached) => (.ok (change result), reached)
      | (.error error, reached) => (.error error, reached) := by
  rw [← bind_pure_comp]
  exact start_bind database call (pure ∘ change)

end Write

namespace Database

/-- Makes the effect of a statement, unless the rules refuse it. -/
def execute (rules : Rules) (effect : Database → Database) : Write Unit := do
  let before ← get
  set (effect before)
  match rules.violation? before (effect before) with
  | none => return
  | some error =>
      -- The effect of a refused statement is backed out.
      set before
      throw error

section

variable (rules : Rules)
variable (entity : Entity)

/-- Inserts a row under the next key, and tells the key. -/
def insertRow (changes : Changes) : Write Int64 := do
  let table := (← get).table entity.table
  match entity.missing? changes with
  | some column => throw (.missingColumn entity.table column.name)
  | none =>
      if table.lastKey < greatestKey then
        let record := entity.newRecord table.nextKey changes
        execute rules fun database => database.withTable (table.add record)
        return record.key
      else
        throw (.keysExhausted entity.table)

/-- Changes the row of a key, and tells how many rows there are. -/
def updateRow (key : Int64) (changes : Changes) : Write Nat := do
  let table := (← get).table entity.table
  match table.find? key with
  | none => return 0
  | some record =>
      match entity.nulled? changes with
      | some column => throw (.missingColumn entity.table column.name)
      | none =>
          execute rules fun database =>
            database.withTable (table.replace (record.updated changes))
          return 1

/-- Removes the row of a key, and tells how many rows there were. -/
def deleteRow (key : Int64) : Write Nat := do
  let table := (← get).table entity.table
  match table.find? key with
  | none => return 0
  | some _ =>
      execute rules fun database => database.withTable (table.erase key)
      return 1

/-- Why a record is not there that was just written. -/
def writtenNotFound (written : String) : String :=
  "Failed to find " ++ written ++ " item"

/-- The record of a key that was just written. -/
def readBack (written : String) (key : Int64) : Write Record := do
  match (← get).find? entity key with
  | some record => return record
  | none => throw (.recordNotFound (writtenNotFound written))

/-- Inserts a record. -/
def insert (changes : Changes) : Write Record := do
  let key ← insertRow rules entity changes
  readBack entity "inserted" key

/-- Changes the record of a key; without changes only looks it up. -/
def update (key : Int64) (changes : Changes) : Write Record := do
  unless changes.isEmpty do
    let rows ← updateRow rules entity key changes
    if rows = 0 then
      throw .recordNotUpdated
  readBack entity "updated" key

/-- Inserts a record, or updates it if its key is set. -/
def save (changes : Changes) : Write Record :=
  match changes.key? with
  | none => insert rules entity changes.withoutKey
  | some key => update rules entity key changes.withoutKey

/-- Removes the record of a key. -/
def delete (key : Int64) : Write Unit := do
  let rows ← deleteRow rules entity key
  if rows = 0 then
    throw (.recordNotFound (entity.resource ++ " not found"))

end

end Database

end RecordQuery
