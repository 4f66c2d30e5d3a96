import RecordQuery.Sql.Condition

namespace RecordQuery.Sql

/-!
# Names and literals

How names and values are spelled in the three dialects.  MySQL quotes names with
a grave accent and the others with a quotation mark; a quote inside a name is
doubled.  SQLite doubles apostrophes in texts, the others use backslashes, and
Postgres marks a text that holds a backslash.
-/

/-- The mark around names. -/
def Dialect.nameMark : Dialect → Char
  | .sqlite => '\x22'
  | .postgres => '\x22'
  | .mysql => '\x60'

/-- A name between its marks. -/
def quotedName (dialect : Dialect) (name : String) : String :=
  let mark := dialect.nameMark
  String.ofList
    (mark :: ((name.toList.flatMap fun character =>
      if character = mark then [mark, mark] else [character]) ++ [mark]))

/-- A column with its owner. -/
def columnText (dialect : Dialect) (column : ColumnRef) : String :=
  quotedName dialect column.owner.name ++ "." ++
    quotedName dialect column.column

/-- A character of a text where backslashes escape. -/
def backslashed (character : Char) : List Char :=
  if character = '\\' ∨ character = '\x22' ∨ character = '\'' then
    ['\\', character]
  else if character = '\x00' then
    ['\\', '0']
  else if character = '\x08' then
    ['\\', 'b']
  else if character = '\t' then
    ['\\', 't']
  else if character = '\x1a' then
    ['\\', 'z']
  else if character = '\n' then
    ['\\', 'n']
  else if character = '\r' then
    ['\\', 'r']
  else
    [character]

/-- A character of a text where apostrophes are doubled. -/
def doubled (character : Char) : List Char :=
  if character = '\'' then ['\'', '\''] else [character]

/-- The inside of a text literal. -/
def escapedText (dialect : Dialect) (text : String) : List Char :=
  match dialect with
  | .sqlite => text.toList.flatMap doubled
  | .postgres => text.toList.flatMap backslashed
  | .mysql => text.toList.flatMap backslashed

/-- A text literal. -/
def textLiteral (dialect : Dialect) (text : String) : String :=
  let inside := escapedText dialect text
  let literal := String.ofList ('\'' :: (inside ++ ['\'']))
  match dialect with
  | .postgres => if inside.contains '\\' then "E" ++ literal else literal
  | _ => literal

/-- The literal of a value. -/
def literal (dialect : Dialect) : Value → String
  | .integer value => (Value.integer value).display
  | .float value => value.plain
  | .text value => textLiteral dialect value
  | .boolean value => if value then "TRUE" else "FALSE"
  | .timestamp value => "'" ++ value.sqlText ++ "'"
  | .uuid value => "'" ++ value.text ++ "'"

/-- The literal of the character that escapes in patterns. -/
def patternEscape (dialect : Dialect) : String :=
  textLiteral dialect "\\"

end RecordQuery.Sql
