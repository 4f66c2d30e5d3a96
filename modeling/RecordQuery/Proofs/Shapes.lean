import Mathlib.Data.List.Basic
import Mathlib.Data.List.Forall2
import RecordQuery.Proofs.Binding
import RecordQuery.Proofs.Oversize
import RecordQuery.Proofs.Placeholders

namespace RecordQuery

/-!
# Operands stay out of statements

The shape of an operand is what a statement says of it: that it is a value, how
many values it has, what a flag says, or that it is a substring.  Two criteria
of one shape compile to conditions with the same outline, and an outline gives
the text.  So whatever their operands are, the text of both statements is one,
and the operands are in the bound values (`selects_of_sameShape`).
-/

/-- What a statement says of an operand. -/
inductive OperandShape where
  | value
  | values (count : Nat)
  | flag (flag : Bool)
  | substring
  deriving Repr, DecidableEq

/-- The shape of an operand. -/
def Operand.shape : Operand → OperandShape
  | .value _ => .value
  | .values several => .values several.length
  | .flag isSet => .flag isSet
  | .substring _ => .substring

/-- The values that an operand is bound as. -/
def Operand.boundAs
    (dialect : Sql.Dialect)
    (operator : Operator) :
    Operand → List Value
  | .value single => [single]
  | .values [] => [.integer 1, .integer (if operator = .noneOf then 1 else 2)]
  | .values (first :: rest) => first :: rest
  | .flag _ => []
  | .substring part =>
      match dialect with
      | .postgres => [.text (Sql.containsPattern part)]
      | _ => [.text part, .integer 0]

/-- Two filters with operands of one shape for the same operators. -/
def Filter.SameShape (left right : Filter) : Prop :=
  ∀ operator,
    (left.operand? operator).map Operand.shape =
      (right.operand? operator).map Operand.shape

/-- Two criteria of one shape. -/
structure Criteria.SameShape (left right : Criteria) : Prop where
  operands :
    ∀ name operator,
      (left.operandOn? name operator).map Operand.shape =
        (right.operandOn? name operator).map Operand.shape
  hints : left.distinct = right.distinct

namespace Sql

/-- What a piece of a statement shows: its text, if it is no bound value. -/
def Piece.outline : Piece → Option String
  | .verbatim text => some text
  | .bound _ => none

/-- What a test shows when it is written. -/
def Test.outline (dialect : Dialect) (test : Test) : List (Option String) :=
  (test.pieces dialect).map Piece.outline

/-- The outline decides the text of a statement. -/
theorem preparedText_of_outlines
    {dialect : Dialect}
    {left right : List Piece}
    (sameOutline : left.map Piece.outline = right.map Piece.outline) :
    preparedText dialect left = preparedText dialect right := by
  have sameTexts (index : Nat) :
      placeholderTexts dialect index left =
        placeholderTexts dialect index right := by
    induction left generalizing right index with
    | nil =>
        rw [List.map_nil, eq_comm, List.map_eq_nil_iff] at sameOutline
        rw [sameOutline]
    | cons piece rest inductionHypothesis =>
        obtain ⟨other, others, rfl, sameFirst, sameRest⟩ :=
          List.map_eq_cons_iff.mp sameOutline.symm
        have later := inductionHypothesis sameRest.symm
        cases piece <;> cases other <;> cases sameFirst <;>
          simp only [placeholderTexts, later]
  rw [preparedText, preparedText, sameTexts]

/-- Two conditions that are written alike, up to their bound values. -/
structure Condition.SameOutline
    (dialect : Dialect)
    (left right : Condition) :
    Prop where
  connective : left.connective? = right.connective?
  pieces :
    (left.pieces dialect).map Piece.outline =
      (right.pieces dialect).map Piece.outline

section

variable {dialect : Dialect}
variable {left right : Condition}
variable {lefts rights : List Condition}

theorem outline_parenthesized
    {pieces others : List Piece}
    (sameOutline : pieces.map Piece.outline = others.map Piece.outline)
    (wrapped : Bool) :
    (parenthesized wrapped pieces).map Piece.outline =
      (parenthesized wrapped others).map Piece.outline := by
  cases wrapped with
  | false =>
      exact sameOutline
  | true =>
      simp [parenthesized, sameOutline]

theorem outline_laterPieces
    (connective : Connective)
    (alike : List.Forall₂ (Condition.SameOutline dialect) lefts rights) :
    (laterPieces dialect connective lefts).map Piece.outline =
      (laterPieces dialect connective rights).map Piece.outline := by
  induction alike with
  | nil =>
      rfl
  | cons same _ inductionHypothesis =>
      have wrapped := outline_parenthesized same.pieces
      simp only [laterPieces, List.map_cons, List.map_append,
        inductionHypothesis, same.connective, wrapped]

theorem outline_junctionPieces
    (connective : Connective)
    (alike : List.Forall₂ (Condition.SameOutline dialect) lefts rights) :
    (junctionPieces dialect connective lefts).map Piece.outline =
      (junctionPieces dialect connective rights).map Piece.outline := by
  cases alike with
  | nil =>
      rfl
  | @cons first other rest others same later =>
      have sameLater := outline_laterPieces connective later
      have wrapped := outline_parenthesized same.pieces
      have sameNesting : rest.isEmpty = others.isEmpty := by
        cases later <;> rfl
      simp only [junctionPieces, wrapsFirst, List.map_append, sameLater,
        same.connective, sameNesting, wrapped]

theorem Condition.SameOutline.all
    (alike : List.Forall₂ (Condition.SameOutline dialect) lefts rights) :
    (Condition.all lefts).SameOutline dialect (.all rights) where
  connective := by
    cases alike with
    | nil =>
        rfl
    | cons same later =>
        cases later with
        | nil =>
            exact same.connective
        | cons =>
            rfl
  pieces := outline_junctionPieces .and alike

/-- A junction around a single member is not written. -/
theorem Condition.pieces_unwrapped (condition : Condition) :
    condition.unwrapped.pieces dialect = condition.pieces dialect := by
  unfold unwrapped
  split <;> simp [pieces, junctionPieces, laterPieces, parenthesized]

theorem Condition.connective?_unwrapped (condition : Condition) :
    condition.unwrapped.connective? = condition.connective? := by
  unfold unwrapped
  split <;> rfl

theorem Condition.SameOutline.unwrapped
    (same : left.SameOutline dialect right) :
    left.unwrapped.SameOutline dialect right.unwrapped where
  connective := by
    rw [connective?_unwrapped, connective?_unwrapped, same.connective]
  pieces := by
    rw [pieces_unwrapped, pieces_unwrapped, same.pieces]

/-- How a list of values is written depends on their number. -/
theorem outline_valueList
    {values others : List Value}
    (sameLength : values.length = others.length) :
    (valueList values).map Piece.outline =
      (valueList others).map Piece.outline := by
  induction values generalizing others with
  | nil =>
      rw [List.eq_nil_of_length_eq_zero sameLength.symm]
  | cons value rest inductionHypothesis =>
      obtain ⟨other, more, rfl⟩ :=
        List.exists_cons_of_length_eq_add_one sameLength.symm
      rw [List.length_cons, List.length_cons, Nat.add_right_cancel_iff]
        at sameLength
      have later := inductionHypothesis sameLength
      cases rest <;> cases more <;> simp_all [valueList, Piece.outline]

/-- How a test for membership is written depends on the number of values. -/
theorem outline_member
    (target : Target)
    {values others : List Value}
    (sameLength : values.length = others.length)
    (negated : Bool) :
    (Test.member target negated values).outline dialect =
      (Test.member target negated others).outline dialect := by
  have listed := outline_valueList sameLength
  cases values <;> cases others
  · rfl
  · cases sameLength
  · cases sameLength
  · simp only [Test.outline, Test.pieces, List.map_cons, List.map_append,
      listed]

/-- How a test for a substring is written does not depend on the substring. -/
theorem outline_substringTest
    (column : ColumnRef)
    (negated : Bool)
    (part other : String) :
    (substringTest dialect column negated part).outline dialect =
      (substringTest dialect column negated other).outline dialect := by
  cases dialect <;>
    simp only [substringTest, Test.outline, Test.pieces, List.map_cons,
      Piece.outline]

variable {kind : Kind}
variable {column : ColumnRef}

/-- How an operator is written depends on the shape of its operand. -/
theorem outline_testOf?
    (operator : Operator)
    {operand other : Operand}
    (sameShape : operand.shape = other.shape) :
    (testOf? dialect kind column operator operand).map
        (Test.outline dialect) =
      (testOf? dialect kind column operator other).map
        (Test.outline dialect) := by
  cases operand with
  | value value =>
      cases other <;> cases sameShape
      cases operator <;> rfl
  | values values =>
      cases other with
      | values others =>
          have sameLength := OperandShape.values.inj sameShape
          cases operator <;> first
            | rfl
            | exact congrArg some (outline_member _ sameLength _)
      | _ =>
          cases sameShape
  | flag flag =>
      cases other <;> cases sameShape
      rfl
  | substring part =>
      cases other <;> cases sameShape
      cases operator <;> first
        | rfl
        | exact congrArg some (outline_substringTest column _ _ _)

theorem outline_testsOf
    {filter other : Filter}
    (sameShape : filter.SameShape other) :
    (testsOf dialect kind column filter).map (Test.outline dialect) =
      (testsOf dialect kind column other).map (Test.outline dialect) := by
  rw [testsOf, testsOf, List.map_filterMap, List.map_filterMap]
  apply List.filterMap_congr
  intro operator _
  have same := sameShape operator
  cases found : filter.operand? operator with
  | none =>
      rw [found, Option.map_none, eq_comm, Option.map_eq_none_iff] at same
      rw [same]
  | some operand =>
      rw [found, Option.map_some] at same
      obtain ⟨otherOperand, otherFound, sameOperand⟩ :=
        Option.map_eq_some_iff.mp same.symm
      rw [otherFound]
      exact outline_testOf? operator sameOperand.symm

/-- Filters of one shape ask for conditions that are written alike. -/
theorem sameOutline_conditionOf
    (table : String)
    (field : Field)
    {filter other : Filter}
    (sameShape : filter.SameShape other) :
    (conditionOf dialect table field filter).SameOutline dialect
      (conditionOf dialect table field other) := by
  have sameTests :
      (testsOf dialect field.kind (field.columnRef table) filter).map
          (Test.outline dialect) =
        (testsOf dialect field.kind (field.columnRef table) other).map
          (Test.outline dialect) :=
    outline_testsOf sameShape
  rw [← List.forall₂_eq_eq_eq, List.forall₂_map_left_iff,
    List.forall₂_map_right_iff] at sameTests
  apply Condition.SameOutline.all
  rw [List.forall₂_map_left_iff, List.forall₂_map_right_iff]
  exact sameTests.imp fun _ _ same => ⟨rfl, same⟩

end

end Sql

namespace Filter

variable {left right : Filter}

theorem SameShape.operators_eq (sameShape : left.SameShape right) :
    left.operators = right.operators := by
  rw [Filter.operators_eq, Filter.operators_eq]
  apply List.filter_congr
  intro operator _
  have same := congrArg Option.isSome (sameShape operator)
  rwa [Option.isSome_map, Option.isSome_map] at same

theorem SameShape.isEmpty_eq (sameShape : left.SameShape right) :
    left.isEmpty = right.isEmpty := by
  rw [isEmpty, isEmpty, sameShape.operators_eq]

end Filter

/-- Two predicates whose selects are written alike. -/
structure Predicate.SameOutline
    (dialect : Sql.Dialect)
    (left right : Predicate) :
    Prop where
  joins : left.joins = right.joins
  distinct : left.distinct = right.distinct
  members :
    List.Forall₂ (Sql.Condition.SameOutline dialect) left.members
      right.members

namespace Predicate.SameOutline

variable {dialect : Sql.Dialect}
variable {left right : Predicate}

theorem addJoinOf
    (same : left.SameOutline dialect right)
    (field : Field) :
    (left.addJoinOf field).SameOutline dialect (right.addJoinOf field) := by
  unfold Predicate.addJoinOf
  cases field.join? with
  | none =>
      exact same
  | some join =>
      simp only [addJoin, same.joins]
      split
      · exact same
      · exact ⟨rfl, same.distinct, same.members⟩

theorem and
    (same : left.SameOutline dialect right)
    {condition other : Sql.Condition}
    (sameCondition : condition.SameOutline dialect other) :
    (left.and condition).SameOutline dialect (right.and other) where
  joins := same.joins
  distinct := same.distinct
  members :=
    List.rel_append same.members (.cons sameCondition.unwrapped .nil)

/-- The selects of predicates that are written alike have one text. -/
theorem preparedText_eq
    (same : left.SameOutline dialect right)
    (entity : Entity) :
    Sql.preparedText dialect (Sql.selectPieces dialect entity left) =
      Sql.preparedText dialect (Sql.selectPieces dialect entity right) := by
  apply Sql.preparedText_of_outlines
  have sameHint : left.isDistinct = right.isDistinct := by
    rw [isDistinct, isDistinct, same.distinct]
  have sameHead :
      Sql.selectHead dialect entity left =
        Sql.selectHead dialect entity right := by
    rw [Sql.selectHead, Sql.selectHead, sameHint, same.joins]
  have sameCondition := (Sql.Condition.SameOutline.all same.members).pieces
  simp only [Sql.selectPieces, List.map_cons, condition, sameHead,
    sameCondition]

end Predicate.SameOutline

namespace Criteria

section

variable {left right : Criteria}

theorem SameShape.filterOrEmpty
    (sameShape : left.SameShape right)
    (name : String) :
    (left.filterOrEmpty name).SameShape (right.filterOrEmpty name) :=
  sameShape.operands name

/-- Criteria of one shape add conditions that are written alike. -/
theorem SameShape.extend
    (sameShape : left.SameShape right)
    {dialect : Sql.Dialect}
    {predicate other : Predicate}
    (same : predicate.SameOutline dialect other)
    (table : String)
    (field : Field) :
    (left.extend dialect table predicate field).SameOutline dialect
      (right.extend dialect table other field) := by
  have sameFilter := sameShape.filterOrEmpty field.name
  unfold Criteria.extend
  rw [populated?_eq, populated?_eq, sameFilter.isEmpty_eq]
  cases (right.filterOrEmpty field.name).isEmpty with
  | true =>
      exact same
  | false =>
      exact (same.addJoinOf field).and
        (Sql.sameOutline_conditionOf table field sameFilter)

/-- Criteria of one shape have predicates that are written alike. -/
theorem SameShape.predicate
    (sameShape : left.SameShape right)
    (dialect : Sql.Dialect)
    (entity : Entity) :
    (left.predicate dialect entity).SameOutline dialect
      (right.predicate dialect entity) := by
  have run
      (fields : List Field)
      {start other : Predicate}
      (same : start.SameOutline dialect other) :
      (fields.foldl (left.extend dialect entity.table) start).SameOutline
        dialect
        (fields.foldl (right.extend dialect entity.table) other) := by
    induction fields generalizing start other with
    | nil =>
        exact same
    | cons field rest inductionHypothesis =>
        exact inductionHypothesis
          (sameShape.extend same entity.table field)
  exact run _ ⟨rfl, sameShape.hints, .nil⟩

end

end Criteria

namespace Sql

variable {dialect : Dialect}

/-- A test for membership binds its values, or two numbers if it has none. -/
theorem boundValues_member
    (target : Target)
    (negated : Bool)
    (values : List Value) :
    boundValues ((Test.member target negated values).pieces dialect) =
      if values.isEmpty then
        [.integer 1, .integer (if negated then 1 else 2)]
      else
        values := by
  cases values with
  | nil =>
      rfl
  | cons first rest =>
      have listed := boundValues_valueList (first :: rest)
      have closed :=
        boundValues_append (valueList (first :: rest)) [.verbatim ")"]
      rw [listed] at closed
      exact closed.trans (List.append_nil _)

/-- The test of an operator binds the values of its operand. -/
theorem exists_test_of_fits
    (dialect : Dialect)
    (kind : Kind)
    (column : ColumnRef)
    {operator : Operator}
    {operand : Operand}
    (fits : operand.fits operator = true) :
    ∃ test,
      testOf? dialect kind column operator operand = some test ∧
        boundValues (test.pieces dialect) =
          operand.boundAs dialect operator := by
  cases operand with
  | values several =>
      cases operator <;> first
        | exact absurd fits Bool.false_ne_true
        | exact ⟨_, rfl, by
            rw [boundValues_member]
            cases several <;> rfl⟩
  | substring part =>
      cases operator <;> first
        | exact absurd fits Bool.false_ne_true
        | cases dialect <;> exact ⟨_, rfl, rfl⟩
  | _ =>
      cases operator <;> first
        | exact absurd fits Bool.false_ne_true
        | exact ⟨_, rfl, rfl⟩

end Sql

/-- The values that the operands of a filter are bound as. -/
def Filter.boundAs (dialect : Sql.Dialect) (filter : Filter) : List Value :=
  Operator.all.flatMap fun operator =>
    (filter.operand? operator).elim [] (Operand.boundAs dialect operator)

/-- A filter without operands binds nothing. -/
theorem Filter.boundAs_of_isEmpty
    {dialect : Sql.Dialect}
    {filter : Filter}
    (isEmpty : filter.isEmpty = true) :
    filter.boundAs dialect = [] := by
  rw [Filter.isEmpty, List.isEmpty_iff, Filter.operators_eq,
    List.filter_eq_nil_iff] at isEmpty
  rw [Filter.boundAs, List.flatMap_eq_nil_iff]
  intro operator listed
  have unset := isEmpty operator listed
  rw [Option.not_isSome_iff_eq_none] at unset
  rw [unset, Option.elim_none]

/-- The condition of a filter binds the operands of the filter. -/
theorem Sql.boundValues_conditionOf
    (dialect : Sql.Dialect)
    (table : String)
    (field : Field)
    (filter : Filter) :
    boundValues
        ((conditionOf dialect table field filter).pieces dialect) =
      filter.boundAs dialect := by
  rw [conditionOf, Condition.pieces, boundValues_junctionPieces,
    List.flatMap_map, testsOf, List.filterMap_eq_flatMap_toList,
    List.flatMap_assoc, Filter.boundAs]
  apply List.flatMap_congr
  intro operator _
  cases populated : filter.operand? operator with
  | none =>
      rfl
  | some operand =>
      have fits := Filter.fits_of_operand? populated
      obtain ⟨test, isTest, binds⟩ :=
        exists_test_of_fits dialect field.kind (field.columnRef table) fits
      simp only [Option.bind_some, isTest, Option.toList_some,
        List.flatMap_singleton, Condition.pieces, binds, Option.elim_some]

namespace Criteria

/-- The values that the operands of a criteria are bound as. -/
def boundAs
    (dialect : Sql.Dialect)
    (entity : Entity)
    (criteria : Criteria) :
    List Value :=
  entity.compileOrder.flatMap fun field =>
    (criteria.filterOrEmpty field.name).boundAs dialect

variable {dialect : Sql.Dialect}
variable {entity : Entity}
variable {criteria : Criteria}

/-- One step binds the operands on its field, after all others. -/
theorem boundValues_extend
    (table : String)
    (predicate : Predicate)
    (field : Field) :
    Sql.boundValues
        ((criteria.extend dialect table predicate field).condition.pieces
          dialect) =
      Sql.boundValues (predicate.condition.pieces dialect) ++
        (criteria.filterOrEmpty field.name).boundAs dialect := by
  unfold extend
  rw [populated?_eq]
  cases isEmpty : (criteria.filterOrEmpty field.name).isEmpty with
  | true =>
      rw [Filter.boundAs_of_isEmpty isEmpty, List.append_nil]
      rfl
  | false =>
      have sameMembers :
          (predicate.addJoinOf field).members = predicate.members :=
        Sql.Condition.all.inj (predicate.condition_addJoinOf field)
      have added :=
        Sql.boundValues_conditionOf dialect table field
          (criteria.filterOrEmpty field.name)
      simp only [Bool.false_eq_true, if_false, Predicate.and,
        Predicate.condition, Sql.Condition.appended, Sql.Condition.pieces,
        Sql.boundValues_junctionPieces, List.flatMap_append,
        List.flatMap_singleton, Sql.Condition.pieces_unwrapped,
        sameMembers, added]

theorem boundValues_predicate :
    Sql.boundValues
        ((criteria.predicate dialect entity).condition.pieces dialect) =
      criteria.boundAs dialect entity := by
  have run (fields : List Field) (start : Predicate) :
      Sql.boundValues
          ((fields.foldl (criteria.extend dialect entity.table)
            start).condition.pieces dialect) =
        Sql.boundValues (start.condition.pieces dialect) ++
          fields.flatMap fun field =>
            (criteria.filterOrEmpty field.name).boundAs dialect := by
    induction fields generalizing start with
    | nil =>
        exact (List.append_nil _).symm
    | cons field rest inductionHypothesis =>
        rw [List.foldl_cons, inductionHypothesis, boundValues_extend,
          List.append_assoc, List.flatMap_cons]
  exact run _ _

/--
A statement that binds the operands of a criteria and no more, with one
placeholder for each bound value.
-/
structure IsCarriedBy
    (criteria : Criteria)
    (dialect : Sql.Dialect)
    (entity : Entity)
    (statement : List Sql.Piece) :
    Prop where
  values : Sql.boundValues statement = criteria.boundAs dialect entity
  placeholders :
    Sql.placeholdersIn dialect (Sql.preparedText dialect statement) =
      (Sql.boundValues statement).length

theorem isCarriedBy_select
    (criteria : Criteria)
    (dialect : Sql.Dialect)
    (entity : Entity) :
    criteria.IsCarriedBy dialect entity
      (Sql.selectPieces dialect entity
        (criteria.predicate dialect entity)) where
  values := boundValues_predicate
  placeholders := Sql.placeholdersIn_selectPieces entity _

end Criteria

/--
Criteria of one shape have one text of their selects, whatever their operands
are, and the operands are in the bound values.
-/
theorem selects_of_sameShape
    {dialect : Sql.Dialect}
    {entity : Entity}
    {left right : Criteria}
    {leftPredicate rightPredicate : Predicate}
    (leftCompiled :
      compile dialect entity (some left) = .ok leftPredicate)
    (rightCompiled :
      compile dialect entity (some right) = .ok rightPredicate)
    (sameShape : left.SameShape right) :
    Sql.preparedText dialect
        (Sql.selectPieces dialect entity leftPredicate) =
      Sql.preparedText dialect
        (Sql.selectPieces dialect entity rightPredicate) ∧
      left.IsCarriedBy dialect entity
        (Sql.selectPieces dialect entity leftPredicate) ∧
      right.IsCarriedBy dialect entity
        (Sql.selectPieces dialect entity rightPredicate) := by
  obtain ⟨-, -, rfl⟩ := (compile_eq_ok_iff _ _ _ _).mp leftCompiled
  obtain ⟨-, -, rfl⟩ := (compile_eq_ok_iff _ _ _ _).mp rightCompiled
  exact ⟨(sameShape.predicate dialect entity).preparedText_eq entity,
    left.isCarriedBy_select dialect entity,
    right.isCarriedBy_select dialect entity⟩

namespace Club

/-- Players of two levels whose names have a part. -/
def playersNamed (part : String) (first second : String) : Criteria :=
  (Criteria.empty.insert "fullName"
    { Filter.empty with contains := some part }).insert "level"
      { Filter.empty with oneOf := some [.text first, .text second] }

/-- A search for a name. -/
def searched : Criteria := playersNamed "Ann" "BEGINNER" "ADVANCED"

/-- A search for what would end the statement if it stood in its text. -/
def injected : Criteria :=
  playersNamed "\x27; DROP TABLE player; --" "ADVANCED" "ADVANCED"

theorem playersNamed_sameShape
    (part first second other third fourth : String) :
    (playersNamed part first second).SameShape
      (playersNamed other third fourth) where
  operands := by
    intro name operator
    simp only [playersNamed, Criteria.operandOn?_insert]
    split
    · cases operator <;> rfl
    · split
      · cases operator <;> rfl
      · rfl
  hints := rfl

end Club

/-- A name that would end the statement is bound like any other. -/
theorem selects_playersNamed :
    Club.searched.SameShape Club.injected ∧
      Sql.preparedText .postgres
          (Sql.selectPieces .postgres Club.player
            (Club.searched.predicate .postgres Club.player)) =
        Sql.preparedText .postgres
          (Sql.selectPieces .postgres Club.player
            (Club.injected.predicate .postgres Club.player)) ∧
      Club.searched.IsCarriedBy .postgres Club.player
        (Sql.selectPieces .postgres Club.player
          (Club.searched.predicate .postgres Club.player)) ∧
      Club.injected.IsCarriedBy .postgres Club.player
        (Sql.selectPieces .postgres Club.player
          (Club.injected.predicate .postgres Club.player)) := by
  have sameShape : Club.searched.SameShape Club.injected :=
    Club.playersNamed_sameShape _ _ _ _ _ _
  exact ⟨sameShape, selects_of_sameShape rfl rfl sameShape⟩

end RecordQuery
