import RecordQuery.Kind

namespace RecordQuery

/-!
# Entities and their fields

An entity is a table together with the fields that may be filtered.  A field
reads either a column of the entity's own table or a column of a related record,
which a left join brings in under a label.  Columns are named with their owner,
so that a condition can be written and evaluated without the entity.
-/

/-- Whose column a column reference names. -/
inductive Owner where
  /-- The table that is queried. -/
  | base (table : String)
  /-- A joined table, under its label. -/
  | joined (label : String)
  deriving Repr, DecidableEq

namespace Owner

/-- The name by which a statement calls the owner. -/
def name : Owner → String
  | base table => table
  | joined label => label

end Owner

/-- A column of the queried table or of a joined one. -/
structure ColumnRef where
  owner : Owner
  column : String
  deriving Repr, DecidableEq

/--
A left join of a related table under a label.

A base record is joined with the records of `table` whose `joinedColumn` equals
its `baseColumn`; the field reads `column` of them.
-/
structure Join where
  label : String
  table : String
  baseColumn : String
  joinedColumn : String
  column : String
  deriving Repr, DecidableEq

namespace Join

/-- Whether two joins read the same column under the same label. -/
def sameTarget (left right : Join) : Bool :=
  left.label == right.label && left.column == right.column

/-- A join with the target that it reads, for messages. -/
def inspect (join : Join) : String :=
  "JoinDef \x7b alias: " ++ Text.quoted join.label ++ ", column: " ++
    Text.quoted join.column ++ ", .. \x7d"

end Join

/-- Where the value of a field lives. -/
inductive Source where
  /-- In a column of the entity's own table. -/
  | own (column : String)
  /-- In the column of a related record. -/
  | related (join : Join)
  deriving Repr, DecidableEq

/-- A field that may be filtered. -/
structure Field where
  name : String
  kind : Kind
  source : Source
  deriving Repr, DecidableEq

namespace Field

/-- A field on a column of the entity's own table. -/
def own (name : String) (kind : Kind) (column : String) : Field :=
  ⟨name, kind, .own column⟩

/-- A field on a column of a related record. -/
def related (name : String) (kind : Kind) (join : Join) : Field :=
  ⟨name, kind, .related join⟩

/-- Whether a field reads a related record. -/
def isRelation (field : Field) : Bool :=
  match field.source with
  | .own _ => false
  | .related _ => true

/-- The join that a field needs. -/
def join? (field : Field) : Option Join :=
  match field.source with
  | .own _ => none
  | .related join => some join

/-- The own column that a field reads. -/
def column? (field : Field) : Option String :=
  match field.source with
  | .own column => some column
  | .related _ => none

/-- The column that a field reads, with its owner. -/
def columnRef (field : Field) (table : String) : ColumnRef :=
  match field.source with
  | .own column => ⟨.base table, column⟩
  | .related join => ⟨.joined join.label, join.column⟩

end Field

/-- A column of a table; a required column is never null. -/
structure Column where
  name : String
  required : Bool
  deriving Repr, DecidableEq

/-- The name of every table's key column. -/
def keyColumn : String := "id"

/-- A table with its columns and its filterable fields. -/
structure Entity where
  table : String
  /-- The plural name, used in headers, events and messages. -/
  resource : String
  /-- The columns in the order in which records list them. -/
  columns : List Column
  fields : List Field
  /-- The column that sorts records when nothing else does. -/
  defaultSort : String
  deriving Repr

namespace Entity

/-- The field of a name; the first one if several have it. -/
def field? (entity : Entity) (name : String) : Option Field :=
  entity.fields.find? fun field => field.name == name

/-- The fields on own columns, then those on related records. -/
def compileOrder (entity : Entity) : List Field :=
  entity.fields.filter (fun field => !field.isRelation) ++
    entity.fields.filter Field.isRelation

/-- The fields that read the same target as a join. -/
def fieldsOn (entity : Entity) (join : Join) : List Field :=
  entity.fields.filter fun field =>
    match field.join? with
    | none => false
    | some other => other.sameTarget join

/-- A field that is found has the name it was looked up by. -/
theorem name_of_field?
    {entity : Entity}
    {name : String}
    {field : Field}
    (found : entity.field? name = some field) :
    field.name = name := by
  simpa using List.find?_some found

/-- A field that is found is one of the entity's. -/
theorem mem_fields_of_field?
    {entity : Entity}
    {name : String}
    {field : Field}
    (found : entity.field? name = some field) :
    field ∈ entity.fields :=
  List.mem_of_find?_eq_some found

end Entity

end RecordQuery
