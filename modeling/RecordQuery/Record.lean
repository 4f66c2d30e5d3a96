import RecordQuery.Entity

namespace RecordQuery

/-!
# Records

A record is a row of a table: its key, and a cell for every other column.  A
cell is a value or null, and a column that the record does not have reads as
null.
-/

/-- A row of a table. -/
structure Record where
  key : Int64
  cells : List (String × Option Value)
  deriving DecidableEq

namespace Record

/-- The cell of a name in a list of cells. -/
def cellIn (column : String) :
    List (String × Option Value) → Option Value
  | [] => none
  | cell :: rest =>
      if cell.1 = column then cell.2 else cellIn column rest

/-- The content of a column, null as `none`. -/
def get? (record : Record) (column : String) : Option Value :=
  if column = keyColumn then
    some (.integer record.key)
  else
    cellIn column record.cells

end Record

/--
A record with one related record for each label, or none where the label found
no related record.
-/
structure JoinedRow where
  base : Record
  related : List (String × Option Record)
  deriving DecidableEq

namespace JoinedRow

/-- The related record under a label. -/
def relatedIn (label : String) :
    List (String × Option Record) → Option Record
  | [] => none
  | entry :: rest =>
      if entry.1 = label then entry.2 else relatedIn label rest

/-- The content of a column of the base record or of a related one. -/
def get? (row : JoinedRow) (column : ColumnRef) : Option Value :=
  match column.owner with
  | .base _ => row.base.get? column.column
  | .joined label =>
      (relatedIn label row.related).bind fun record =>
        record.get? column.column

end JoinedRow

end RecordQuery
