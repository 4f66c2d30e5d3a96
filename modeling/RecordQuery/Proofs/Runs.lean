import RecordQuery.Database.Write
import RecordQuery.Proofs.Meaning
import RecordQuery.Proofs.Multiplicity

namespace RecordQuery

/-!
# Runs of a store

A store saves, deletes and finds single records.  Each call does one of a few
things to the database (`Database.perform_performs`), or fails and does nothing:
whatever the rules of the database refuse, keys stay distinct and no other
record is touched.  Over a run of calls a saved record is found as it was saved
until its key is saved or deleted again (`run_keeps_records`).
-/

/--
Whether a column gives a value back as it was: numbers do but for a NaN and the
negative zero, and instants do in the years of four digits.
-/
def Value.isKept : Value → Bool
  | .float number =>
      !number.isNaN && (!number.isZero || decide (number = Binary64.zero))
  | .timestamp instant => instant.hasPlainYear
  | _ => true

namespace Changes

/-- Whether all contents that changes give are kept as they are. -/
def areKept (changes : Changes) : Bool :=
  changes.all fun change => change.2.all Value.isKept

/-- The content that changes give a column, if they give one. -/
def given? (column : String) (changes : Changes) : Option (Option Value) :=
  NameMap.lookup column changes

theorem storedContent_of_isKept
    {content : Option Value}
    (isKept : content.all Value.isKept = true) :
    storedContent content = content := by
  cases content with
  | none =>
      rfl
  | some value =>
      cases value with
      | float number =>
          simp only [Option.all_some, Value.isKept, Bool.and_eq_true,
            Bool.not_eq_true', Bool.or_eq_true, decide_eq_true_eq]
            at isKept
          obtain ⟨isNumber, notZero | rfl⟩ := isKept
          · simp [storedContent, isNumber, notZero]
          · rfl
      | _ =>
          rfl

/-- What columns keep as it is, is set as it is given. -/
theorem set?_eq_given?
    {changes : Changes}
    (kept : changes.areKept = true)
    (column : String) :
    set? column changes = given? column changes := by
  induction changes with
  | nil =>
      rfl
  | cons change rest inductionHypothesis =>
      rw [areKept, List.all_cons, Bool.and_eq_true] at kept
      rw [set?, given?, NameMap.lookup]
      split
      · rw [storedContent_of_isKept kept.1]
      · exact inductionHypothesis kept.2

/-- The key has no part in what other columns are set to. -/
theorem set?_withoutKey
    {changes : Changes}
    (kept : changes.areKept = true)
    {column : String}
    (notKey : column ≠ keyColumn) :
    set? column changes.withoutKey = given? column changes := by
  have keptWithout : changes.withoutKey.areKept = true := by
    rw [areKept, List.all_eq_true] at kept ⊢
    intro change member
    exact kept change (List.mem_of_mem_filter member)
  rw [set?_eq_given? keptWithout, given?, withoutKey,
    NameMap.lookup_filter_ne, if_neg (Ne.symm notKey), given?]

end Changes

/-- A call of a store about single records. -/
inductive RecordCall where
  | save (changes : Changes)
  | delete (key : Int64)
  | find (key : Int64)

namespace RecordCall

/-- Whether a call saves or deletes the record of a key. -/
def touches (key : Int64) : RecordCall → Bool
  | save changes => changes.key? == some key
  | delete deleted => deleted == key
  | find _ => false

/-- Whether columns keep all that a call saves. -/
def isKept : RecordCall → Bool
  | save changes => changes.areKept
  | delete _ => true
  | find _ => true

end RecordCall

/-- What a call about single records gives when it succeeds. -/
inductive RecordAnswer where
  | saved (record : Record)
  | deleted
  | found (record? : Option Record)

/-- The call as it is made of a database. -/
def RecordCall.write (rules : Rules) (entity : Entity) :
    RecordCall → Write RecordAnswer
  | .save changes => RecordAnswer.saved <$> Database.save rules entity changes
  | .delete key =>
      (fun _ => RecordAnswer.deleted) <$> Database.delete rules entity key
  | .find key => do return .found ((← get).find? entity key)

namespace Database

/-- What a call gives, and the database after it. -/
def perform
    (database : Database)
    (rules : Rules)
    (entity : Entity)
    (call : RecordCall) :
    Except StoreError RecordAnswer × Database :=
  (call.write rules entity).start database

/-- The database after a run of calls. -/
def after
    (database : Database)
    (rules : Rules)
    (entity : Entity)
    (calls : List RecordCall) :
    Database :=
  calls.foldl
    (fun reached call => (reached.perform rules entity call).2) database

/--
A database in which an entity has the given records and the given last key,
while all other tables are as they were.
-/
structure Rewrites
    (entity : Entity)
    (before after : Database)
    (records : List Record)
    (lastKey : Nat) :
    Prop where
  here : after.table entity.table = ⟨entity.table, records, lastKey⟩
  elsewhere :
    ∀ name, name ≠ entity.table → after.table name = before.table name

end Database

/-- A record of an entity that changes make out of old contents. -/
structure Record.ResultsFrom
    (entity : Entity)
    (changes : Changes)
    (old : String → Option Value)
    (record : Record) :
    Prop where
  columns :
    record.cells.map Prod.fst = entity.plainColumns.map Column.name
  contents :
    ∀ column ∈ entity.plainColumns,
      record.get? column.name =
        (changes.given? column.name).getD (old column.name)

/-- What a call would write to a database, and what it would answer. -/
inductive Writes (entity : Entity) (before : Database) :
    RecordCall → RecordAnswer → Database → Prop where
  /-- Without a key, one record is added under a key that no record has. -/
  | inserted
      {changes : Changes}
      {record : Record}
      {after : Database}
      (unset : changes.key? = none)
      (next :
        record.key.toInt = (before.table entity.table).lastKey + 1)
      (fresh :
        ∀ existing ∈ (before.table entity.table).records,
          existing.key ≠ record.key)
      (results : record.ResultsFrom entity changes fun _ => none)
      (rewrites :
        before.Rewrites entity after
          ((before.table entity.table).records ++ [record])
          ((before.table entity.table).lastKey + 1)) :
      Writes entity before (.save changes) (.saved record) after
  /-- With the key of a record, what is set changes in the record. -/
  | updated
      {changes : Changes}
      {existing record : Record}
      {after : Database}
      (isSet : changes.key? = some record.key)
      (present : before.find? entity record.key = some existing)
      (results : record.ResultsFrom entity changes existing.get?)
      (rewrites :
        before.Rewrites entity after
          ((before.table entity.table).records.map fun other =>
            if other.key = record.key then record else other)
          (before.table entity.table).lastKey) :
      Writes entity before (.save changes) (.saved record) after
  /-- The record of the key is removed, and no other. -/
  | deleted
      {key : Int64}
      {after : Database}
      (present : (before.find? entity key).isSome = true)
      (rewrites :
        before.Rewrites entity after
          ((before.table entity.table).records.filter fun record =>
            record.key ≠ key)
          (before.table entity.table).lastKey) :
      Writes entity before (.delete key) .deleted after

/-- What a call does to a database under some rules, and what it answers. -/
inductive Performs (rules : Rules) (entity : Entity) (before : Database) :
    RecordCall → Except StoreError RecordAnswer → Database → Prop where
  /-- What would be written is, if the rules allow it. -/
  | written
      {call : RecordCall}
      {answer : RecordAnswer}
      {after : Database}
      (writes : Writes entity before call answer after)
      (allowed : rules.violation? before after = none) :
      Performs rules entity before call (.ok answer) after
  /-- What the rules refuse is not written. -/
  | refused
      {call : RecordCall}
      {answer : RecordAnswer}
      {attempted : Database}
      {error : StoreError}
      (writes : Writes entity before call answer attempted)
      (violates : rules.violation? before attempted = some error) :
      Performs rules entity before call (.error error) before
  /-- With nothing but the key of a record, the record is looked up. -/
  | lookedUp
      {changes : Changes}
      {record : Record}
      (isSet : changes.key? = some record.key)
      (nothing : changes.withoutKey = [])
      (present : before.find? entity record.key = some record) :
      Performs rules entity before (.save changes) (.ok (.saved record))
        before
  /-- A new record needs a content for every required column. -/
  | lacking
      {changes : Changes}
      {column : Column}
      (unset : changes.key? = none)
      (isColumn : column ∈ entity.plainColumns)
      (required : column.required = true)
      (lacks : (changes.given? column.name).join = none) :
      Performs rules entity before (.save changes)
        (.error (.missingColumn entity.table column.name)) before
  /-- A new record needs a key. -/
  | exhausted
      {changes : Changes}
      (unset : changes.key? = none)
      (last :
        Database.greatestKey ≤ (before.table entity.table).lastKey) :
      Performs rules entity before (.save changes)
        (.error (.keysExhausted entity.table)) before
  /-- No required column is set to null. -/
  | nulled
      {changes : Changes}
      {key : Int64}
      {column : Column}
      (isSet : changes.key? = some key)
      (present : (before.find? entity key).isSome = true)
      (isColumn : column ∈ entity.plainColumns)
      (required : column.required = true)
      (isNull : changes.given? column.name = some none) :
      Performs rules entity before (.save changes)
        (.error (.missingColumn entity.table column.name)) before
  /-- With the key of no record nothing is inserted. -/
  | notUpdated
      {changes : Changes}
      {key : Int64}
      (isSet : changes.key? = some key)
      (absent : before.find? entity key = none) :
      Performs rules entity before (.save changes)
        (.error
          (if changes.withoutKey.isEmpty then
            .recordNotFound (Database.writtenNotFound "updated")
          else
            .recordNotUpdated))
        before
  /-- There is nothing to remove under the key of no record. -/
  | notDeleted
      {key : Int64}
      (absent : before.find? entity key = none) :
      Performs rules entity before (.delete key)
        (.error (.recordNotFound (entity.resource ++ " not found"))) before
  /-- Looking up changes nothing. -/
  | found {key : Int64} :
      Performs rules entity before (.find key)
        (.ok (.found (before.find? entity key))) before

/--
A database that could have come about: keys are distinct, those of an entity are
not beyond the last key given away, and its records have its columns.
-/
structure Database.IsSound (entity : Entity) (database : Database) :
    Prop where
  distinct : database.HasDistinctKeys
  bounded :
    ∀ record ∈ (database.table entity.table).records,
      record.key.toInt ≤ (database.table entity.table).lastKey
  columns :
    ∀ record ∈ (database.table entity.table).records,
      record.cells.map Prod.fst = entity.plainColumns.map Column.name

theorem Entity.ne_keyColumn_of_mem
    {entity : Entity}
    {column : Column}
    (isColumn : column ∈ entity.plainColumns) :
    column.name ≠ keyColumn := by
  simpa using (List.mem_filter.mp isColumn).2

namespace Record

variable {entity : Entity}
variable {changes : Changes}

/-- A cell is found again where all cells keep their names. -/
theorem cellIn_map
    (content : String → Option Value → Option Value)
    {cells : List (String × Option Value)}
    {column : String}
    (member : column ∈ cells.map Prod.fst) :
    cellIn column (cells.map fun cell => (cell.1, content cell.1 cell.2)) =
      content column (cellIn column cells) := by
  induction cells with
  | nil =>
      exact absurd member List.not_mem_nil
  | cons cell rest inductionHypothesis =>
      rw [List.map_cons, cellIn, cellIn]
      split
      next same =>
        rw [same]
      next different =>
        rw [List.map_cons, List.mem_cons] at member
        exact inductionHypothesis
          (member.resolve_left fun same => different same.symm)

theorem get?_of_ne_keyColumn
    (record : Record)
    {column : String}
    (notKey : column ≠ keyColumn) :
    record.get? column = cellIn column record.cells := by
  rw [get?, if_neg notKey]

/-- A new record has what it is given, and null for the rest. -/
theorem results_newCells
    (kept : changes.areKept = true)
    (key : Int64) :
    ResultsFrom entity changes (fun _ => none)
      ⟨key, entity.newCells changes.withoutKey⟩ where
  columns := by
    rw [Entity.newCells, List.map_map]
    rfl
  contents := by
    intro column isColumn
    have notKey := Entity.ne_keyColumn_of_mem isColumn
    have named :
        column.name ∈
          (entity.plainColumns.map fun other =>
            (other.name, (none : Option Value))).map Prod.fst := by
      rw [List.map_map]
      exact List.mem_map_of_mem isColumn
    have found :=
      cellIn_map
        (fun name _ => (Changes.set? name changes.withoutKey).join) named
    rw [List.map_map] at found
    rw [get?_of_ne_keyColumn _ notKey]
    exact found.trans (by
      rw [Changes.set?_withoutKey kept notKey]
      cases changes.given? column.name <;> rfl)

/-- An updated record has what it is given, and the rest as it was. -/
theorem results_updated
    {existing : Record}
    (columns :
      existing.cells.map Prod.fst = entity.plainColumns.map Column.name)
    (kept : changes.areKept = true) :
    ResultsFrom entity changes existing.get?
      (existing.updated changes.withoutKey) where
  columns := by
    rw [← columns, updated, List.map_map]
    rfl
  contents := by
    intro column isColumn
    have notKey := Entity.ne_keyColumn_of_mem isColumn
    have named : column.name ∈ existing.cells.map Prod.fst :=
      columns ▸ List.mem_map_of_mem isColumn
    rw [get?_of_ne_keyColumn _ notKey, get?_of_ne_keyColumn _ notKey,
      ← Changes.set?_withoutKey kept notKey]
    exact cellIn_map
      (fun name content =>
        (Changes.set? name changes.withoutKey).getD content) named

end Record

namespace Database

variable {entity : Entity}
variable {database before after : Database}

theorem table_name (database : Database) (name : String) :
    (database.table name).name = name := by
  unfold table
  cases found :
      database.tables.find? fun table => table.name == name with
  | none =>
      rfl
  | some table =>
      simpa using List.find?_some found

/-- A table put in place is there, and no other table changes. -/
theorem rewrites_withTable
    {table : Table}
    (named : table.name = entity.table) :
    database.Rewrites entity (database.withTable table) table.records
      table.lastKey where
  here := by
    rw [table_withTable, if_pos named, ← named]
  elsewhere := by
    intro name elsewhere
    rw [table_withTable, named, if_neg (Ne.symm elsewhere)]

theorem Rewrites.find?_eq
    {records : List Record}
    {lastKey : Nat}
    (rewrites : before.Rewrites entity after records lastKey)
    (key : Int64) :
    after.find? entity key =
      records.find? fun record => record.key == key := by
  rw [find?, rewrites.here, Table.find?]

theorem mem_of_find?
    {key : Int64}
    {record : Record}
    (found : database.find? entity key = some record) :
    record ∈ (database.table entity.table).records ∧ record.key = key :=
  ⟨List.mem_of_find?_eq_some found, by simpa using List.find?_some found⟩

end Database

namespace Rules

/-- What becomes of a statement that would make a database another one. -/
def judge {Result : Type}
    (rules : Rules)
    (before attempted : Database)
    (result : Result) :
    Except StoreError Result × Database :=
  match rules.violation? before attempted with
  | none => (.ok result, attempted)
  | some error => (.error error, before)

variable {Result Next : Type}
variable {rules : Rules}
variable {before attempted : Database}
variable {result : Result}
variable {call : Write Result}
variable (judged : call.start before = rules.judge before attempted result)

include judged

/-- What follows a statement without failing leaves the rules to decide. -/
theorem start_bind_eq_judge
    {next : Result → Write Next}
    {last : Next}
    (follows : (next result).start attempted = (.ok last, attempted)) :
    (call >>= next).start before = rules.judge before attempted last := by
  rw [Write.start_bind, judged, judge, judge]
  cases rules.violation? before attempted with
  | none =>
      exact follows
  | some error =>
      rfl

theorem start_map_eq_judge (change : Result → Next) :
    (change <$> call).start before =
      rules.judge before attempted (change result) := by
  rw [Write.start_map, judged, judge, judge]
  cases rules.violation? before attempted <;> rfl

end Rules

namespace Writes

variable {entity : Entity}
variable {before after : Database}
variable {call : RecordCall}

/-- A saved record is found under its key. -/
theorem find?_saved
    {record : Record}
    (writes : Writes entity before call (.saved record) after) :
    after.find? entity record.key = some record := by
  cases writes with
  | inserted _ _ fresh _ rewrites =>
      have absent :
          (before.table entity.table).find? record.key = none := by
        rw [Table.find?, List.find?_eq_none]
        intro existing isRecord
        simpa using fresh existing isRecord
      have found :=
        (before.table entity.table).find?_add record record.key
      rw [absent, Option.none_or, if_pos rfl] at found
      exact (rewrites.find?_eq _).trans found
  | @updated _ existing _ _ _ present _ rewrites =>
      have inTable :
          (before.table entity.table).find? record.key = some existing :=
        present
      have found :=
        (before.table entity.table).find?_replace record record.key
      rw [if_pos rfl, inTable] at found
      exact (rewrites.find?_eq _).trans found

/-- What would be written is written, or refused by the rules. -/
theorem performs
    {rules : Rules}
    {answer : RecordAnswer}
    {outcome : Except StoreError RecordAnswer × Database}
    (writes : Writes entity before call answer after)
    (made : outcome = rules.judge before after answer) :
    Performs rules entity before call outcome.1 outcome.2 := by
  rw [made, Rules.judge]
  cases violation : rules.violation? before after with
  | none =>
      exact .written writes violation
  | some error =>
      exact .refused writes violation

end Writes

namespace Database

variable {rules : Rules}
variable {entity : Entity}
variable {database before after : Database}
variable {changes : Changes}

theorem start_execute (effect : Database → Database) :
    (execute rules effect).start database =
      rules.judge database (effect database) () := by
  rw [Rules.judge]
  cases violation : rules.violation? database (effect database) <;>
    simp [execute, violation]

theorem start_readBack
    {key : Int64}
    {record : Record}
    (found : database.find? entity key = some record)
    (written : String) :
    (readBack entity written key).start database =
      (.ok record, database) := by
  simp [readBack, found]

/-- The record that changes are inserted as. -/
def nextRecord
    (database : Database)
    (entity : Entity)
    (changes : Changes) :
    Record :=
  entity.newRecord (database.table entity.table).nextKey changes

theorem toInt_key_nextRecord
    (changes : Changes)
    (notLast : (database.table entity.table).lastKey < greatestKey) :
    (database.nextRecord entity changes).key.toInt =
      (database.table entity.table).lastKey + 1 := by
  rw [nextRecord, Entity.newRecord, Table.nextKey, Int64.toInt_ofNat_of_lt]
  · rfl
  · exact Nat.succ_lt_succ notLast

/-- With every column that is needed and a key left, a record is inserted. -/
theorem start_insert
    {attempted : Database}
    (complete : entity.missing? changes = none)
    (notLast : (database.table entity.table).lastKey < greatestKey)
    (adds :
      attempted =
        database.withTable
          ((database.table entity.table).add
            (database.nextRecord entity changes)))
    (found :
      attempted.find? entity (database.nextRecord entity changes).key =
        some (database.nextRecord entity changes)) :
    (insert rules entity changes).start database =
      rules.judge database attempted
        (database.nextRecord entity changes) := by
  have inserted :
      (insertRow rules entity changes).start database =
        rules.judge database attempted
          (database.nextRecord entity changes).key := by
    rw [insertRow, Write.start_bind, Write.start_get]
    dsimp only
    rw [complete]
    dsimp only
    rw [if_pos notLast, adds]
    exact Rules.start_bind_eq_judge (start_execute _)
      (Write.start_pure _ _)
  exact Rules.start_bind_eq_judge inserted (start_readBack found _)

/-- With some column to set, and no required one to null, a record changes. -/
theorem start_update
    {key : Int64}
    {existing : Record}
    {attempted : Database}
    (setsSome : changes.isEmpty = false)
    (present : (database.table entity.table).find? key = some existing)
    (complete : entity.nulled? changes = none)
    (replaces :
      attempted =
        database.withTable
          ((database.table entity.table).replace
            (existing.updated changes)))
    (found :
      attempted.find? entity key = some (existing.updated changes)) :
    (update rules entity key changes).start database =
      rules.judge database attempted (existing.updated changes) := by
  have updated :
      (updateRow rules entity key changes).start database =
        rules.judge database attempted 1 := by
    rw [updateRow, Write.start_bind, Write.start_get]
    dsimp only
    rw [present]
    dsimp only
    rw [complete, replaces]
    exact Rules.start_bind_eq_judge (start_execute _)
      (Write.start_pure _ _)
  rw [update, setsSome, if_neg Bool.false_ne_true]
  refine Rules.start_bind_eq_judge updated ?_
  rw [if_neg Nat.one_ne_zero]
  exact start_readBack found _

theorem start_delete
    {key : Int64}
    {existing : Record}
    (present : (database.table entity.table).find? key = some existing) :
    (delete rules entity key).start database =
      rules.judge database
        (database.withTable ((database.table entity.table).erase key))
        () := by
  have deleted :
      (deleteRow rules entity key).start database =
        rules.judge database
          (database.withTable ((database.table entity.table).erase key))
          1 := by
    rw [deleteRow, Write.start_bind, Write.start_get]
    dsimp only
    rw [present]
    exact Rules.start_bind_eq_judge (start_execute _)
      (Write.start_pure _ _)
  exact Rules.start_bind_eq_judge deleted rfl

theorem performs_insert
    (sound : database.IsSound entity)
    (kept : changes.areKept = true)
    (unset : changes.key? = none) :
    Performs rules entity database (.save changes)
      (database.perform rules entity (.save changes)).1
      (database.perform rules entity (.save changes)).2 := by
  cases missing : entity.missing? changes.withoutKey with
  | some column =>
      have refused :
          database.perform rules entity (.save changes) =
            (.error (.missingColumn entity.table column.name),
              database) := by
        simp [perform, RecordCall.write, save, unset, insert, insertRow,
          missing]
      have lacks := List.find?_some missing
      have isColumn := List.mem_of_find?_eq_some missing
      rw [Changes.set?_withoutKey kept (Entity.ne_keyColumn_of_mem isColumn),
        Bool.and_eq_true, Option.isNone_iff_eq_none] at lacks
      rw [refused]
      exact .lacking unset isColumn lacks.1 lacks.2
  | none =>
      by_cases last :
        (database.table entity.table).lastKey < greatestKey
      · have next := toInt_key_nextRecord changes.withoutKey last
        have fresh :
            ∀ existing ∈ (database.table entity.table).records,
              existing.key ≠
                (database.nextRecord entity changes.withoutKey).key := by
          intro existing isRecord sameKey
          have small := sound.bounded existing isRecord
          rw [sameKey, next] at small
          omega
        have writes :
            Writes entity database (.save changes)
              (.saved (database.nextRecord entity changes.withoutKey))
              (database.withTable
                ((database.table entity.table).add
                  (database.nextRecord entity changes.withoutKey))) :=
          .inserted unset next fresh (Record.results_newCells kept _)
            (rewrites_withTable (table_name database entity.table))
        apply writes.performs
        rw [perform, RecordCall.write, save, unset]
        exact Rules.start_map_eq_judge
          (start_insert missing last rfl writes.find?_saved) _
      · have refused :
            database.perform rules entity (.save changes) =
              (.error (.keysExhausted entity.table), database) := by
          simp [perform, RecordCall.write, save, unset, insert, insertRow,
            missing, last]
        rw [refused]
        exact .exhausted unset (Nat.le_of_not_lt last)

theorem performs_update
    {key : Int64}
    (sound : database.IsSound entity)
    (kept : changes.areKept = true)
    (isSet : changes.key? = some key) :
    Performs rules entity database (.save changes)
      (database.perform rules entity (.save changes)).1
      (database.perform rules entity (.save changes)).2 := by
  cases found : database.find? entity key with
  | none =>
      have absent : (database.table entity.table).find? key = none := found
      have refused :
          database.perform rules entity (.save changes) =
            (.error
              (if changes.withoutKey.isEmpty then
                .recordNotFound (writtenNotFound "updated")
              else
                .recordNotUpdated),
              database) := by
        cases isEmpty : changes.withoutKey.isEmpty <;>
          simp [perform, RecordCall.write, save, isSet, update, isEmpty,
            updateRow, absent, readBack, found]
      rw [refused]
      exact .notUpdated isSet found
  | some existing =>
      have present :
          (database.table entity.table).find? key = some existing := found
      obtain ⟨isRecord, rfl⟩ := mem_of_find? found
      cases isEmpty : changes.withoutKey.isEmpty with
      | true =>
          have lookedUp :
              database.perform rules entity (.save changes) =
                (.ok (.saved existing), database) := by
            simp [perform, RecordCall.write, save, isSet, update, isEmpty,
              readBack, found]
          rw [lookedUp]
          exact .lookedUp isSet (List.isEmpty_iff.mp isEmpty) found
      | false =>
          cases nulled : entity.nulled? changes.withoutKey with
          | some column =>
              have refused :
                  database.perform rules entity (.save changes) =
                    (.error (.missingColumn entity.table column.name),
                      database) := by
                simp [perform, RecordCall.write, save, isSet, update,
                  isEmpty, updateRow, present, nulled]
              have isNull := List.find?_some nulled
              have isColumn := List.mem_of_find?_eq_some nulled
              rw [Changes.set?_withoutKey kept
                  (Entity.ne_keyColumn_of_mem isColumn),
                Bool.and_eq_true, beq_iff_eq] at isNull
              rw [refused]
              exact .nulled isSet (found ▸ rfl) isColumn isNull.1 isNull.2
          | none =>
              have writes :
                  Writes entity database (.save changes)
                    (.saved (existing.updated changes.withoutKey))
                    (database.withTable
                      ((database.table entity.table).replace
                        (existing.updated changes.withoutKey))) :=
                .updated isSet found
                  (Record.results_updated
                    (sound.columns existing isRecord) kept)
                  (rewrites_withTable (table_name database entity.table))
              apply writes.performs
              rw [perform, RecordCall.write, save, isSet]
              exact Rules.start_map_eq_judge
                (start_update isEmpty present nulled rfl
                  writes.find?_saved) _

theorem performs_delete (key : Int64) :
    Performs rules entity database (.delete key)
      (database.perform rules entity (.delete key)).1
      (database.perform rules entity (.delete key)).2 := by
  cases found : database.find? entity key with
  | none =>
      have absent : (database.table entity.table).find? key = none := found
      have refused :
          database.perform rules entity (.delete key) =
            (.error (.recordNotFound (entity.resource ++ " not found")),
              database) := by
        simp [perform, RecordCall.write, delete, deleteRow, absent]
      rw [refused]
      exact .notDeleted found
  | some existing =>
      have present :
          (database.table entity.table).find? key = some existing := found
      have writes :
          Writes entity database (.delete key) .deleted
            (database.withTable
              ((database.table entity.table).erase key)) :=
        .deleted (found ▸ rfl)
          (rewrites_withTable (table_name database entity.table))
      apply writes.performs
      rw [perform, RecordCall.write]
      exact Rules.start_map_eq_judge (start_delete present) _

/-- Every call does one of the things that calls do. -/
theorem perform_performs
    {call : RecordCall}
    (sound : database.IsSound entity)
    (kept : call.isKept = true)
    (rules : Rules) :
    Performs rules entity database call
      (database.perform rules entity call).1
      (database.perform rules entity call).2 := by
  cases call with
  | save changes =>
      cases key : changes.key? with
      | none =>
          exact performs_insert sound kept key
      | some key =>
          exact performs_update sound kept key
  | delete key =>
      exact performs_delete key
  | find key =>
      exact .found

theorem map_key_replaced (records : List Record) (record : Record) :
    (records.map fun other =>
        if other.key = record.key then record else other).map Record.key =
      records.map Record.key := by
  rw [List.map_map]
  apply List.map_congr_left
  intro other _
  by_cases here : other.key = record.key <;> simp [here]

theorem mem_replaced
    {records : List Record}
    {record other : Record}
    (member :
      other ∈ records.map fun existing =>
        if existing.key = record.key then record else existing) :
    other ∈ records ∨ other = record := by
  obtain ⟨existing, isRecord, rfl⟩ := List.mem_map.mp member
  split
  · exact Or.inr rfl
  · exact Or.inl isRecord

/-- A database stays sound when records that suit their table are put in. -/
theorem Rewrites.isSound
    {records : List Record}
    {lastKey : Nat}
    (rewrites : before.Rewrites entity after records lastKey)
    (sound : before.IsSound entity)
    (distinct : (records.map Record.key).Nodup)
    (bounded : ∀ record ∈ records, record.key.toInt ≤ lastKey)
    (columns :
      ∀ record ∈ records,
        record.cells.map Prod.fst = entity.plainColumns.map Column.name) :
    after.IsSound entity where
  distinct := by
    intro name
    by_cases here : name = entity.table
    · rw [here, rewrites.here]
      exact distinct
    · rw [rewrites.elsewhere name here]
      exact sound.distinct name
  bounded := by
    rw [rewrites.here]
    exact bounded
  columns := by
    rw [rewrites.here]
    exact columns

end Database

namespace Writes

variable {entity : Entity}
variable {before after : Database}
variable {call : RecordCall}
variable {answer : RecordAnswer}

/-- What is written to a sound database leaves it sound. -/
theorem isSound
    (writes : Writes entity before call answer after)
    (sound : before.IsSound entity) :
    after.IsSound entity := by
  have keys := sound.distinct entity.table
  cases writes with
  | @inserted changes record _ unset next fresh results rewrites =>
      refine rewrites.isSound sound ?_ ?_ ?_
      · rw [List.map_append, List.nodup_append]
        refine ⟨keys, List.nodup_singleton _, ?_⟩
        intro key isKey other isOther
        obtain ⟨existing, isRecord, rfl⟩ := List.mem_map.mp isKey
        rw [List.map_singleton, List.mem_singleton] at isOther
        exact isOther ▸ fresh existing isRecord
      · intro other member
        rcases List.mem_append.mp member with isOld | isNew
        · have small := sound.bounded other isOld
          omega
        · rw [List.mem_singleton.mp isNew, next]
          exact Int.le_refl _
      · intro other member
        rcases List.mem_append.mp member with isOld | isNew
        · exact sound.columns other isOld
        · rw [List.mem_singleton.mp isNew]
          exact results.columns
  | @updated changes existing record _ isSet present results rewrites =>
      obtain ⟨isRecord, sameKey⟩ := Database.mem_of_find? present
      refine rewrites.isSound sound ?_ ?_ ?_
      · rw [Database.map_key_replaced]
        exact keys
      · intro other member
        rcases Database.mem_replaced member with isOld | rfl
        · exact sound.bounded other isOld
        · exact sameKey ▸ sound.bounded existing isRecord
      · intro other member
        rcases Database.mem_replaced member with isOld | rfl
        · exact sound.columns other isOld
        · exact results.columns
  | deleted present rewrites =>
      refine rewrites.isSound sound ?_ ?_ ?_
      · exact keys.sublist (List.filter_sublist.map Record.key)
      · intro other member
        exact sound.bounded other (List.mem_of_mem_filter member)
      · intro other member
        exact sound.columns other (List.mem_of_mem_filter member)

/-- A record stays as it is unless a call touches its key. -/
theorem find?_of_touches_eq_false
    (writes : Writes entity before call answer after)
    {record : Record}
    (present : before.find? entity record.key = some record)
    (untouched : call.touches record.key = false) :
    after.find? entity record.key = some record := by
  have inTable :
      (before.table entity.table).find? record.key = some record := present
  cases writes with
  | @inserted _ added _ _ _ _ _ rewrites =>
      have found := (before.table entity.table).find?_add added record.key
      rw [inTable, Option.some_or] at found
      exact (rewrites.find?_eq _).trans found
  | @updated _ _ changed _ isSet _ _ rewrites =>
      have different : changed.key ≠ record.key := by
        simpa [RecordCall.touches, isSet] using untouched
      have found :=
        (before.table entity.table).find?_replace changed record.key
      rw [if_neg different, inTable] at found
      exact (rewrites.find?_eq _).trans found
  | @deleted key _ _ rewrites =>
      have different : key ≠ record.key := by
        simpa [RecordCall.touches] using untouched
      have found := (before.table entity.table).find?_erase key record.key
      rw [if_neg different, inTable] at found
      exact (rewrites.find?_eq _).trans found

end Writes

namespace Performs

variable {rules : Rules}
variable {entity : Entity}
variable {before after : Database}
variable {call : RecordCall}
variable {outcome : Except StoreError RecordAnswer}

/-- A call leaves a sound database sound. -/
theorem isSound
    (performs : Performs rules entity before call outcome after)
    (sound : before.IsSound entity) :
    after.IsSound entity := by
  cases performs with
  | written writes _ =>
      exact writes.isSound sound
  | _ =>
      exact sound

theorem find?_of_touches_eq_false
    (performs : Performs rules entity before call outcome after)
    {record : Record}
    (present : before.find? entity record.key = some record)
    (untouched : call.touches record.key = false) :
    after.find? entity record.key = some record := by
  cases performs with
  | written writes _ =>
      exact writes.find?_of_touches_eq_false present untouched
  | _ =>
      exact present

theorem find?_saved
    {record : Record}
    (performs :
      Performs rules entity before call (.ok (.saved record)) after) :
    after.find? entity record.key = some record := by
  cases performs with
  | written writes _ =>
      exact writes.find?_saved
  | lookedUp _ _ present =>
      exact present

/-- A call that fails leaves the database as it was. -/
theorem eq_of_error
    {error : StoreError}
    (performs : Performs rules entity before call (.error error) after) :
    after = before := by
  cases performs <;> rfl

end Performs

namespace Database

variable {rules : Rules}
variable {entity : Entity}
variable {start : Database}

theorem after_append (earlier later : List RecordCall) :
    start.after rules entity (earlier ++ later) =
      (start.after rules entity earlier).after rules entity later :=
  List.foldl_append

/-- A run of calls leaves a sound database sound. -/
theorem isSound_after
    {calls : List RecordCall}
    (sound : start.IsSound entity)
    (kept : ∀ call ∈ calls, call.isKept = true)
    (rules : Rules) :
    (start.after rules entity calls).IsSound entity := by
  induction calls generalizing start with
  | nil =>
      exact sound
  | cons call rest inductionHypothesis =>
      rw [List.forall_mem_cons] at kept
      exact inductionHypothesis
        ((perform_performs sound kept.1 rules).isSound sound) kept.2

/-- A record stays as it is while no call touches its key. -/
theorem find?_after_of_touches_eq_false
    {calls : List RecordCall}
    {record : Record}
    (sound : start.IsSound entity)
    (kept : ∀ call ∈ calls, call.isKept = true)
    (present : start.find? entity record.key = some record)
    (untouched : ∀ call ∈ calls, call.touches record.key = false) :
    (start.after rules entity calls).find? entity record.key =
      some record := by
  induction calls generalizing start with
  | nil =>
      exact present
  | cons call rest inductionHypothesis =>
      rw [List.forall_mem_cons] at kept untouched
      have performs := perform_performs sound kept.1 rules
      exact inductionHypothesis (performs.isSound sound) kept.2
        (performs.find?_of_touches_eq_false present untouched.1) untouched.2

end Database

/--
In a run of calls every call does one of the things that calls do, whatever the
rules of the database refuse; keys are distinct after it, a call that fails
changes nothing, and a record that a call saves is found until another one saves
or deletes its key.
-/
theorem run_keeps_records
    {entity : Entity}
    {start : Database}
    {earlier later : List RecordCall}
    {call : RecordCall}
    (sound : start.IsSound entity)
    (kept : ∀ made ∈ earlier ++ call :: later, made.isKept = true)
    (rules : Rules) :
    (start.after rules entity
        (earlier ++ call :: later)).HasDistinctKeys ∧
      Performs rules entity (start.after rules entity earlier) call
        ((start.after rules entity earlier).perform rules entity call).1
        (start.after rules entity (earlier ++ [call])) ∧
      (∀ error,
        ((start.after rules entity earlier).perform rules entity call).1 =
            .error error →
          start.after rules entity (earlier ++ [call]) =
            start.after rules entity earlier) ∧
      ∀ record,
        ((start.after rules entity earlier).perform rules entity call).1 =
            .ok (.saved record) →
          (∀ other ∈ later, other.touches record.key = false) →
            ((start.after rules entity
                (earlier ++ call :: later)).perform rules entity
              (.find record.key)).1 = .ok (.found (some record)) := by
  have distinct := (Database.isSound_after sound kept rules).distinct
  rw [List.forall_mem_append, List.forall_mem_cons] at kept
  obtain ⟨keptEarlier, keptCall, keptLater⟩ := kept
  have reached := Database.isSound_after sound keptEarlier rules
  have performs := Database.perform_performs reached keptCall rules
  have last :
      start.after rules entity (earlier ++ [call]) =
        ((start.after rules entity earlier).perform rules entity call).2 :=
    Database.after_append earlier [call]
  refine ⟨distinct, last ▸ performs, ?_, ?_⟩
  · intro error failed
    rw [failed] at performs
    exact last.trans performs.eq_of_error
  · intro record saved untouched
    rw [saved] at performs
    have found :
        ((((start.after rules entity earlier).perform rules entity
          call).2).after rules entity later).find? entity record.key =
            some record :=
      Database.find?_after_of_touches_eq_false
        (performs.isSound reached) keptLater performs.find?_saved untouched
    rw [Database.perform, Database.after_append]
    exact congrArg (fun record? => Except.ok (RecordAnswer.found record?))
      found

namespace Club

/-- The columns of the club's tables that hold keys of others. -/
def references : List Reference :=
  [ ⟨"challenge", "proposer_id", "player"⟩,
    ⟨"challenge", "acceptor_id", "player"⟩,
    ⟨"challenge", "cord_id", "cord"⟩ ]

/-- The rules of the club. -/
def rules : Rules := .ofReferences references

/-- The call that saves a player who leaves again. -/
def invite : RecordCall :=
  .save [("full_name", text "Eve Black"), ("status", text "DELETED")]

/-- A new player. -/
def hired : Record :=
  recordOf player 5
    [text "Dana Green", none, none, none, text "ACTIVE"]

/-- The call that saves the new player. -/
def hire : RecordCall :=
  .save [("full_name", text "Dana Green"), ("status", text "ACTIVE")]

/-- The call that saves another status of the second player. -/
def retire : RecordCall :=
  .save [("id", integer 2), ("status", text "PASSIVE")]

/-- A guest comes and leaves before the new player is saved. -/
def beforeHire : List RecordCall := [invite, .delete 4]

/-- The first player has challenges, and so cannot be deleted. -/
def afterHire : List RecordCall := [retire, .delete 1]

theorem seeded_isSound : seeded.IsSound player where
  distinct := seeded_hasDistinctKeys
  bounded := by
    decide
  columns := by
    decide

end Club

/--
A new player is found after another was changed and one could not be deleted,
because challenges refer to that player.
-/
theorem run_keeps_hired :
    Club.seeded.IsSound Club.player ∧
      (Club.seeded.perform Club.rules Club.player (.delete 1)).1 =
        .error (.constraintFailed "FOREIGN KEY") ∧
      (∀ made ∈ Club.beforeHire ++ Club.hire :: Club.afterHire,
        made.isKept = true) ∧
      ((Club.seeded.after Club.rules Club.player
        Club.beforeHire).perform Club.rules Club.player Club.hire).1 =
          .ok (.saved Club.hired) ∧
      ((Club.seeded.after Club.rules Club.player
          (Club.beforeHire ++ Club.hire :: Club.afterHire)).perform
        Club.rules Club.player (.find Club.hired.key)).1 =
          .ok (.found (some Club.hired)) := by
  have kept :
      ∀ made ∈ Club.beforeHire ++ Club.hire :: Club.afterHire,
        made.isKept = true := by
    decide
  have saved :
      ((Club.seeded.after Club.rules Club.player
        Club.beforeHire).perform Club.rules Club.player Club.hire).1 =
          .ok (.saved Club.hired) := rfl
  have keeps := run_keeps_records Club.seeded_isSound kept Club.rules
  exact ⟨Club.seeded_isSound, rfl, kept, saved,
    keeps.2.2.2 Club.hired saved (by decide)⟩

end RecordQuery
