import RecordQuery.Predicate
import RecordQuery.Sql.Literal
import RecordQuery.Sql.Quotation
import RecordQuery.Text.Cut

namespace RecordQuery.Sql

/-!
# Select statements

A statement is written as a list of pieces: text that depends on the shape of
the query alone, and values that are bound to it.  With the bound values left
out the pieces give the statement with placeholders; with their literals in
place they give a statement to read.

The members of a junction are written from left to right.  A junction inside
another stands in parentheses, except that the first member of a junction needs
none when it joins in the same way.
-/

/-- A piece of a statement. -/
inductive Piece where
  /-- Text that stands as it is. -/
  | verbatim (text : String)
  /-- A bound value. -/
  | bound (value : Value)
  deriving DecidableEq

/-- How the members of a junction are joined. -/
inductive Connective where
  | and
  | or
  deriving Repr, DecidableEq

namespace Connective

/-- The word between members, with blanks around it. -/
def separator : Connective → String
  | and => " AND "
  | or => " OR "

/-- What a junction without members says. -/
def neutral : Connective → String
  | and => "TRUE"
  | or => "FALSE"

end Connective

namespace Comparison

/-- The sign of a comparison. -/
def symbol : Comparison → String
  | equal => "="
  | notEqual => "<>"
  | greater => ">"
  | atLeast => ">="
  | less => "<"
  | atMost => "<="

end Comparison

/-- A target, converted if it is to be. -/
def Target.text (dialect : Dialect) (target : Target) : String :=
  let column := columnText dialect target.column
  match target.cast with
  | none => column
  | some .text => "CAST(" ++ column ++ " AS TEXT)"
  | some .binary => "CAST(" ++ column ++ " AS BINARY)"

/-- Values between commas. -/
def valueList : List Value → List Piece
  | [] => []
  | [last] => [.bound last]
  | first :: second :: others =>
      .bound first :: .verbatim ", " :: valueList (second :: others)

/-- Two whole numbers compared for equality. -/
def numberTest (left right : Int64) : List Piece :=
  [.bound (.integer left), .verbatim " = ", .bound (.integer right)]

/-- The pieces of a test. -/
def Test.pieces (dialect : Dialect) : Test → List Piece
  | .compare target comparison operand =>
      [ .verbatim
          (target.text dialect ++ " " ++ comparison.symbol ++ " "),
        .bound operand ]
  | .member _ negated [] => numberTest 1 (if negated then 1 else 2)
  | .member target negated operands =>
      .verbatim
          (target.text dialect ++ (if negated then " NOT" else "") ++
            " IN (") ::
        (valueList operands ++ [.verbatim ")"])
  | .null target negated =>
      [ .verbatim
          (target.text dialect ++ " IS" ++
            (if negated then " NOT" else "") ++ " NULL") ]
  | .position target negated needle =>
      [ .verbatim ("INSTR(" ++ target.text dialect ++ ", "),
        .bound (.text needle),
        .verbatim (") " ++ (if negated then "=" else ">") ++ " "),
        .bound (.integer 0) ]
  | .like target negated pattern =>
      [ .verbatim
          (target.text dialect ++ (if negated then " NOT" else "") ++
            " LIKE "),
        .bound (.text pattern),
        .verbatim (" ESCAPE " ++ patternEscape dialect) ]

/-- How a condition joins its members when it is written. -/
def Condition.connective? : Condition → Option Connective
  | .test _ => none
  | .all [] => none
  | .all [only] => only.connective?
  | .all (_ :: _ :: _) => some .and
  | .any [] => none
  | .any [only] => only.connective?
  | .any (_ :: _ :: _) => some .or

/-- Pieces between parentheses. -/
def parenthesized (wrapped : Bool) (pieces : List Piece) : List Piece :=
  if wrapped then
    .verbatim "(" :: (pieces ++ [.verbatim ")"])
  else
    pieces

/-- Whether the first member of a junction needs parentheses. -/
def wrapsFirst (connective : Connective) (member : Condition) : Bool :=
  match member.connective? with
  | none => false
  | some other => other != connective

mutual

/-- The pieces of a condition. -/
def Condition.pieces (dialect : Dialect) : Condition → List Piece
  | .test test => test.pieces dialect
  | .all members => junctionPieces dialect .and members
  | .any members => junctionPieces dialect .or members

/-- The pieces of a junction. -/
def junctionPieces (dialect : Dialect) (connective : Connective) :
    List Condition → List Piece
  | [] => [.verbatim connective.neutral]
  | first :: rest =>
      parenthesized (!rest.isEmpty && wrapsFirst connective first)
          (first.pieces dialect) ++
        laterPieces dialect connective rest

/-- The pieces of the members of a junction after the first. -/
def laterPieces (dialect : Dialect) (connective : Connective) :
    List Condition → List Piece
  | [] => []
  | member :: rest =>
      .verbatim connective.separator ::
        (parenthesized member.connective?.isSome (member.pieces dialect) ++
          laterPieces dialect connective rest)

end

/-- The columns that a statement selects. -/
def selectedColumns (dialect : Dialect) (entity : Entity) : String :=
  Text.join ", "
    (entity.columns.map fun column =>
      columnText dialect ⟨.base entity.table, column.name⟩)

/-- A left join with its condition. -/
def joinText (dialect : Dialect) (entity : Entity) (join : Join) : String :=
  " LEFT JOIN " ++ quotedName dialect join.table ++ " AS " ++
    quotedName dialect join.label ++ " ON " ++
    columnText dialect ⟨.base entity.table, join.baseColumn⟩ ++ " = " ++
    columnText dialect ⟨.joined join.label, join.joinedColumn⟩

/-- A statement up to its condition. -/
def selectHead
    (dialect : Dialect)
    (entity : Entity)
    (predicate : Predicate) :
    String :=
  "SELECT " ++ (if predicate.isDistinct then "DISTINCT " else "") ++
    selectedColumns dialect entity ++ " FROM " ++
    quotedName dialect entity.table ++
    String.join (predicate.joins.map (joinText dialect entity)) ++
    " WHERE "

/-- The pieces of the statement that selects a predicate's records. -/
def selectPieces
    (dialect : Dialect)
    (entity : Entity)
    (predicate : Predicate) :
    List Piece :=
  .verbatim (selectHead dialect entity predicate) ::
    predicate.condition.pieces dialect

/-- The mark that stands for a bound value; Postgres counts from one. -/
def placeholder (dialect : Dialect) (index : Nat) : String :=
  match dialect with
  | .postgres => "$" ++ Decimal.text (index + 1)
  | _ => "?"

/-- The texts of pieces, values as placeholders counted from `index`. -/
def placeholderTexts (dialect : Dialect) :
    Nat → List Piece → List String
  | _, [] => []
  | index, .verbatim text :: rest =>
      text :: placeholderTexts dialect index rest
  | index, .bound _ :: rest =>
      placeholder dialect index :: placeholderTexts dialect (index + 1) rest

/-- A statement with placeholders. -/
def preparedText (dialect : Dialect) (pieces : List Piece) : String :=
  String.join (placeholderTexts dialect 0 pieces)

/-- The values bound to a statement, in the order of their placeholders. -/
def boundValues (pieces : List Piece) : List Value :=
  pieces.filterMap fun piece =>
    match piece with
    | .verbatim _ => none
    | .bound value => some value

/--
The texts of pieces, values as literals.  What a quotation holds is no
placeholder, so a value that falls into one keeps its placeholder.
-/
def literalTexts (dialect : Dialect) :
    Reading → Nat → List Piece → List String
  | _, _, [] => []
  | reading, index, .verbatim text :: rest =>
      text :: literalTexts dialect (reading.after text) index rest
  | .outside, index, .bound value :: rest =>
      literal dialect value ::
        literalTexts dialect .outside (index + 1) rest
  | .inside closing escaped, index, .bound _ :: rest =>
      let mark := placeholder dialect index
      mark ::
        literalTexts dialect ((Reading.inside closing escaped).after mark)
          (index + 1) rest

/-- A statement with literals in place of its values. -/
def literalText (dialect : Dialect) (pieces : List Piece) : String :=
  String.join (literalTexts dialect .outside 0 pieces)

end RecordQuery.Sql
