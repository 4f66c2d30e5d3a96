import RecordQuery.Sql.Statement

namespace RecordQuery.Sql

/-!
# Placeholders in the text of a statement

A database finds the placeholders of a statement in its text alone, outside all
quotations.  Names and literals of a statement are quoted so that none of them
ends early, whatever they hold: between its quotations the text of a piece has
no placeholder, and that of a bound value has one.  So a statement has as many
placeholders as bound values (`placeholdersIn_preparedText`).
-/

/-- The sign that a placeholder begins with. -/
def Dialect.placeholderSign : Dialect → Char
  | .sqlite => '?'
  | .postgres => '$'
  | .mysql => '?'

/--
Where the reader of a statement stands.

A quotation ends at its closing mark and nowhere else; a doubled mark ends one
quotation and begins another.  A backslash is a character like others here,
unlike for a `Reading`: a name may end with one.
-/
structure Scan where
  /-- The mark that closes the quotation around the reader, if there is one. -/
  closing? : Option Char
  /-- The number of placeholders before the reader. -/
  passed : Nat

namespace Scan

/-- Where the reader stands after one more character. -/
def next (dialect : Dialect) (scan : Scan) (character : Char) : Scan :=
  match scan.closing? with
  | some closing =>
      if character = closing then ⟨none, scan.passed⟩ else scan
  | none =>
      match closingMark? character with
      | some closing => ⟨some closing, scan.passed⟩
      | none =>
          if character = dialect.placeholderSign then
            ⟨none, scan.passed + 1⟩
          else
            scan

/-- Where the reader stands after some more characters. -/
def after (dialect : Dialect) (scan : Scan) (characters : List Char) : Scan :=
  characters.foldl (next dialect) scan

end Scan

/-- The number of placeholders in the text of a statement. -/
def placeholdersIn (dialect : Dialect) (text : String) : Nat :=
  (Scan.after dialect ⟨none, 0⟩ text.toList).passed

/-- A text that ends outside quotations and holds some placeholders. -/
def Holds (dialect : Dialect) (text : String) (count : Nat) : Prop :=
  ∀ passed,
    Scan.after dialect ⟨none, passed⟩ text.toList = ⟨none, passed + count⟩

section

variable {dialect : Dialect}

theorem placeholdersIn_of_holds
    {text : String}
    {count : Nat}
    (holds : Holds dialect text count) :
    placeholdersIn dialect text = count := by
  rw [placeholdersIn, holds, Nat.zero_add]

theorem Holds.append
    {first second : String}
    {left right : Nat}
    (holdsFirst : Holds dialect first left)
    (holdsSecond : Holds dialect second right) :
    Holds dialect (first ++ second) (left + right) := by
  intro passed
  rw [String.toList_append, Scan.after, List.foldl_append]
  change Scan.after dialect (Scan.after dialect _ _) _ = _
  rw [holdsFirst, holdsSecond, Nat.add_assoc]

/-- Two texts without placeholders, one after the other. -/
theorem Holds.append_zero
    {first second : String}
    (holdsFirst : Holds dialect first 0)
    (holdsSecond : Holds dialect second 0) :
    Holds dialect (first ++ second) 0 :=
  holdsFirst.append holdsSecond

/-- A character that neither begins a quotation nor a placeholder. -/
def isPlain (character : Char) : Bool :=
  (closingMark? character).isNone && character != '?' && character != '$'

theorem next_of_isPlain
    {character : Char}
    (plain : isPlain character = true)
    (passed : Nat) :
    Scan.next dialect ⟨none, passed⟩ character = ⟨none, passed⟩ := by
  simp only [isPlain, Bool.and_eq_true, Option.isNone_iff_eq_none,
    bne_iff_ne] at plain
  obtain ⟨⟨unquoted, notMark⟩, notDollar⟩ := plain
  have notSign : character ≠ dialect.placeholderSign := by
    cases dialect <;> assumption
  simp [Scan.next, unquoted, notSign]

theorem holds_of_isPlain
    {text : String}
    (plain : ∀ character ∈ text.toList, isPlain character = true) :
    Holds dialect text 0 := by
  intro passed
  generalize text.toList = characters at plain
  induction characters with
  | nil =>
      rfl
  | cons character rest inductionHypothesis =>
      rw [List.forall_mem_cons] at plain
      rw [Scan.after, List.foldl_cons, next_of_isPlain plain.1]
      exact inductionHypothesis plain.2

theorem holds_plain
    (text : String)
    (plain : text.toList.all isPlain = true) :
    Holds dialect text 0 :=
  holds_of_isPlain (List.all_eq_true.mp plain)

/-- Inside its marks a name never leaves the quotation. -/
theorem after_doubled
    (mark : Char)
    (isMark : closingMark? mark = some mark)
    (name : List Char)
    (passed : Nat) :
    Scan.after dialect ⟨some mark, passed⟩
        (name.flatMap fun character =>
          if character = mark then [mark, mark] else [character]) =
      ⟨some mark, passed⟩ := by
  induction name with
  | nil =>
      rfl
  | cons character rest inductionHypothesis =>
      rw [List.flatMap_cons, Scan.after, List.foldl_append]
      have stays :
          (if character = mark then [mark, mark] else [character]).foldl
              (Scan.next dialect) ⟨some mark, passed⟩ =
            ⟨some mark, passed⟩ := by
        split
        next same =>
          simp [Scan.next, isMark]
        next different =>
          simp [Scan.next, different]
      rw [stays]
      exact inductionHypothesis

theorem holds_quotedName (name : String) :
    Holds dialect (quotedName dialect name) 0 := by
  intro passed
  have isMark : closingMark? dialect.nameMark = some dialect.nameMark := by
    cases dialect <;> rfl
  have opens :
      Scan.next dialect ⟨none, passed⟩ dialect.nameMark =
        ⟨some dialect.nameMark, passed⟩ := by
    simp [Scan.next, isMark]
  rw [quotedName, String.toList_ofList, Scan.after, List.foldl_cons, opens,
    List.foldl_append]
  have inside (mark : Char) (isMark : closingMark? mark = some mark) :
      (name.toList.flatMap fun character =>
          if character = mark then [mark, mark] else [character]).foldl
          (Scan.next dialect) ⟨some mark, passed⟩ =
        ⟨some mark, passed⟩ :=
    after_doubled mark isMark name.toList passed
  rw [inside _ isMark]
  simp [Scan.next]

theorem holds_columnText (column : ColumnRef) :
    Holds dialect (columnText dialect column) 0 :=
  ((holds_quotedName _).append_zero (holds_plain "." rfl)).append_zero
    (holds_quotedName _)

theorem holds_targetText (target : Target) :
    Holds dialect (target.text dialect) 0 := by
  have column : Holds dialect (columnText dialect target.column) 0 :=
    holds_columnText target.column
  unfold Target.text
  cases target.cast with
  | none =>
      exact column
  | some cast =>
      have opened := (holds_plain "CAST(" rfl).append_zero column
      cases cast with
      | text =>
          exact opened.append_zero (holds_plain " AS TEXT)" rfl)
      | binary =>
          exact opened.append_zero (holds_plain " AS BINARY)" rfl)

theorem holds_patternEscape : Holds dialect (patternEscape dialect) 0 := by
  cases dialect <;> intro passed <;> rfl

theorem holds_empty : Holds dialect "" 0 :=
  holds_plain "" rfl

theorem holds_join
    (separator : String)
    (plain : separator.toList.all isPlain = true)
    {texts : List String}
    (each : ∀ text ∈ texts, Holds dialect text 0) :
    Holds dialect (Text.join separator texts) 0 := by
  induction texts with
  | nil =>
      exact holds_empty
  | cons first rest inductionHypothesis =>
      rw [List.forall_mem_cons] at each
      cases rest with
      | nil =>
          exact each.1
      | cons second others =>
          exact (each.1.append_zero
            (holds_plain separator plain)).append_zero
              (inductionHypothesis each.2)

theorem holds_selectedColumns (entity : Entity) :
    Holds dialect (selectedColumns dialect entity) 0 := by
  apply holds_join ", " rfl
  intro text isText
  obtain ⟨column, -, rfl⟩ := List.mem_map.mp isText
  exact holds_columnText _

theorem holds_joinText (entity : Entity) (join : Join) :
    Holds dialect (joinText dialect entity join) 0 := by
  have table : Holds dialect (quotedName dialect join.table) 0 :=
    holds_quotedName join.table
  have named :=
    ((holds_plain " LEFT JOIN " rfl).append_zero table).append_zero
      (holds_plain " AS " rfl)
  have labelled :=
    (named.append_zero (holds_quotedName join.label)).append_zero
      (holds_plain " ON " rfl)
  exact ((labelled.append_zero (holds_columnText _)).append_zero
    (holds_plain " = " rfl)).append_zero (holds_columnText _)

theorem holds_joinTexts (entity : Entity) (joins : List Join) :
    Holds dialect (String.join (joins.map (joinText dialect entity))) 0 := by
  induction joins with
  | nil =>
      exact holds_empty
  | cons join rest inductionHypothesis =>
      rw [List.map_cons, String.join_cons]
      exact (holds_joinText entity join).append_zero inductionHypothesis

theorem holds_selectHead (entity : Entity) (predicate : Predicate) :
    Holds dialect (selectHead dialect entity predicate) 0 := by
  have hint :
      Holds dialect (if predicate.isDistinct then "DISTINCT " else "")
        0 := by
    cases predicate.isDistinct with
    | false =>
        exact holds_empty
    | true =>
        exact holds_plain "DISTINCT " rfl
  have selected :=
    ((holds_plain "SELECT " rfl).append_zero hint).append_zero
      (holds_selectedColumns entity)
  have fromTable :=
    (selected.append_zero (holds_plain " FROM " rfl)).append_zero
      (holds_quotedName entity.table)
  exact (fromTable.append_zero
    (holds_joinTexts entity predicate.joins)).append_zero
      (holds_plain " WHERE " rfl)

/-- Pieces without a placeholder in the texts that stand as they are. -/
def Unmarked (dialect : Dialect) (pieces : List Piece) : Prop :=
  ∀ text, .verbatim text ∈ pieces → Holds dialect text 0

theorem unmarked_nil : Unmarked dialect [] := by
  intro text member
  exact absurd member List.not_mem_nil

theorem Unmarked.verbatim
    {text : String}
    {pieces : List Piece}
    (unmarked : Unmarked dialect pieces)
    (holds : Holds dialect text 0) :
    Unmarked dialect (.verbatim text :: pieces) := by
  intro other member
  rcases List.mem_cons.mp member with same | later
  · cases same
    exact holds
  · exact unmarked other later

theorem Unmarked.bound
    {value : Value}
    {pieces : List Piece}
    (unmarked : Unmarked dialect pieces) :
    Unmarked dialect (.bound value :: pieces) := by
  intro text member
  rcases List.mem_cons.mp member with same | later
  · cases same
  · exact unmarked text later

theorem Unmarked.append
    {first second : List Piece}
    (unmarkedFirst : Unmarked dialect first)
    (unmarkedSecond : Unmarked dialect second) :
    Unmarked dialect (first ++ second) := by
  intro text member
  rcases List.mem_append.mp member with inFirst | inSecond
  · exact unmarkedFirst text inFirst
  · exact unmarkedSecond text inSecond

theorem Unmarked.parenthesized
    {pieces : List Piece}
    (unmarked : Unmarked dialect pieces)
    (wrapped : Bool) :
    Unmarked dialect (parenthesized wrapped pieces) := by
  cases wrapped with
  | false =>
      exact unmarked
  | true =>
      exact (unmarked.append
        (unmarked_nil.verbatim (holds_plain ")" rfl))).verbatim
          (holds_plain "(" rfl)

theorem unmarked_valueList (values : List Value) :
    Unmarked dialect (valueList values) := by
  induction values with
  | nil =>
      exact unmarked_nil
  | cons first rest inductionHypothesis =>
      cases rest with
      | nil =>
          exact unmarked_nil.bound
      | cons second others =>
          exact (inductionHypothesis.verbatim (holds_plain ", " rfl)).bound

theorem holds_negation (negated : Bool) :
    Holds dialect (if negated then " NOT" else "") 0 := by
  cases negated with
  | false =>
      exact holds_empty
  | true =>
      exact holds_plain " NOT" rfl

theorem unmarked_testPieces (test : Test) :
    Unmarked dialect (test.pieces dialect) := by
  have target : Holds dialect (test.target.text dialect) 0 :=
    holds_targetText test.target
  cases test with
  | compare _ comparison operand =>
      have symbol : Holds dialect comparison.symbol 0 := by
        cases comparison <;> exact holds_plain _ rfl
      have compared :=
        (target.append_zero (holds_plain " " rfl)).append_zero symbol
      exact unmarked_nil.bound.verbatim
        (compared.append_zero (holds_plain " " rfl))
  | member _ negated operands =>
      cases operands with
      | nil =>
          exact (unmarked_nil.bound.verbatim
            (holds_plain " = " rfl)).bound
      | cons first rest =>
          have listed := target.append_zero (holds_negation negated)
          exact ((unmarked_valueList (first :: rest)).append
            (unmarked_nil.verbatim (holds_plain ")" rfl))).verbatim
              (listed.append_zero (holds_plain " IN (" rfl))
  | null _ negated =>
      have asked :=
        (target.append_zero (holds_plain " IS" rfl)).append_zero
          (holds_negation negated)
      exact unmarked_nil.verbatim
        (asked.append_zero (holds_plain " NULL" rfl))
  | position _ negated needle =>
      have searched :=
        ((holds_plain "INSTR(" rfl).append_zero target).append_zero
          (holds_plain ", " rfl)
      have sign : Holds dialect (if negated then "=" else ">") 0 := by
        cases negated <;> exact holds_plain _ rfl
      have compared :=
        ((holds_plain ") " rfl).append_zero sign).append_zero
          (holds_plain " " rfl)
      exact (unmarked_nil.bound.verbatim compared).bound.verbatim searched
  | like _ negated pattern =>
      have matched :=
        (target.append_zero (holds_negation negated)).append_zero
          (holds_plain " LIKE " rfl)
      exact (unmarked_nil.verbatim
        ((holds_plain " ESCAPE " rfl).append_zero
          holds_patternEscape)).bound.verbatim matched

mutual

theorem unmarked_pieces (condition : Condition) :
    Unmarked dialect (condition.pieces dialect) := by
  cases condition with
  | test test =>
      exact unmarked_testPieces test
  | all members =>
      exact unmarked_junctionPieces .and members
  | any members =>
      exact unmarked_junctionPieces .or members

theorem unmarked_junctionPieces
    (connective : Connective)
    (members : List Condition) :
    Unmarked dialect (junctionPieces dialect connective members) := by
  cases members with
  | nil =>
      cases connective <;> exact unmarked_nil.verbatim (holds_plain _ rfl)
  | cons first rest =>
      exact ((unmarked_pieces first).parenthesized _).append
        (unmarked_laterPieces connective rest)

theorem unmarked_laterPieces
    (connective : Connective)
    (members : List Condition) :
    Unmarked dialect (laterPieces dialect connective members) := by
  cases members with
  | nil =>
      exact unmarked_nil
  | cons member rest =>
      have separated : Holds dialect connective.separator 0 := by
        cases connective <;> exact holds_plain _ rfl
      exact (((unmarked_pieces member).parenthesized _).append
        (unmarked_laterPieces connective rest)).verbatim separated

end

theorem unmarked_selectPieces (entity : Entity) (predicate : Predicate) :
    Unmarked dialect (selectPieces dialect entity predicate) :=
  (unmarked_pieces predicate.condition).verbatim
    (holds_selectHead entity predicate)

theorem isPlain_of_isDigit
    {character : Char}
    (isDigit : character.isDigit = true) :
    isPlain character = true := by
  have different (other : Char) (noDigit : other.isDigit = false) :
      character ≠ other := by
    rintro rfl
    exact absurd isDigit (by simp [noDigit])
  simp [isPlain, closingMark?, different]

/-- A placeholder is one, whatever its number. -/
theorem holds_placeholder (index : Nat) :
    Holds dialect (placeholder dialect index) 1 := by
  cases dialect with
  | sqlite =>
      have sign : Holds .sqlite "?" 1 := fun _ => rfl
      exact sign
  | mysql =>
      have sign : Holds .mysql "?" 1 := fun _ => rfl
      exact sign
  | postgres =>
      have sign : Holds .postgres "$" 1 := fun _ => rfl
      have digits :
          Holds .postgres (Decimal.text (index + 1)) 0 := by
        apply holds_of_isPlain
        intro digit isDigit
        rw [Decimal.text, String.toList_ofList] at isDigit
        exact isPlain_of_isDigit (Nat.isDigit_of_mem_toDigits
          (by decide) (by decide) isDigit)
      exact sign.append digits

/-- The values of pieces are their placeholders. -/
theorem holds_placeholderTexts
    {pieces : List Piece}
    (unmarked : Unmarked dialect pieces)
    (index : Nat) :
    Holds dialect (String.join (placeholderTexts dialect index pieces))
      (boundValues pieces).length := by
  induction pieces generalizing index with
  | nil =>
      exact holds_empty
  | cons piece rest inductionHypothesis =>
      have later : Unmarked dialect rest := fun text member =>
        unmarked text (List.mem_cons_of_mem piece member)
      cases piece with
      | verbatim text =>
          have whole :=
            (unmarked text List.mem_cons_self).append
              (inductionHypothesis later index)
          rw [Nat.zero_add] at whole
          rw [placeholderTexts, String.join_cons]
          exact whole
      | bound value =>
          have whole :=
            (holds_placeholder index).append
              (inductionHypothesis later (index + 1))
          rw [Nat.add_comm 1] at whole
          rw [placeholderTexts, String.join_cons]
          exact whole

/-- A select has as many placeholders as bound values. -/
theorem placeholdersIn_selectPieces
    (entity : Entity)
    (predicate : Predicate) :
    placeholdersIn dialect
        (preparedText dialect (selectPieces dialect entity predicate)) =
      (boundValues (selectPieces dialect entity predicate)).length :=
  placeholdersIn_of_holds
    (holds_placeholderTexts (unmarked_selectPieces entity predicate) 0)

end

end RecordQuery.Sql
