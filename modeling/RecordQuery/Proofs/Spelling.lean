import RecordQuery.Proofs.Composition

namespace RecordQuery

/-!
# What the kind of a database changes

A criteria is compiled for one kind of database, but whether it compiles, what
it joins and which tests it asks for do not depend on it.  The kind decides the
spelling of two tests: how a substring is looked for, and that Postgres compares
an enumeration as a text.  `compile_spells` says that nothing else differs.
-/

namespace Sql

/-- A test with another conversion of its target. -/
def Test.recast (cast : Option Cast) : Test → Test
  | compare target comparison operand =>
      compare { target with cast := cast } comparison operand
  | member target negated operands =>
      member { target with cast := cast } negated operands
  | null target negated => null { target with cast := cast } negated
  | position target negated needle =>
      position { target with cast := cast } negated needle
  | like target negated pattern =>
      like { target with cast := cast } negated pattern

/-- The conversion of an enumeration before it is compared. -/
def enumerationCast : Dialect → Option Cast
  | .postgres => some .text
  | _ => none

/-- The test of an operator, as it is written for two kinds of databases. -/
structure Spelling where
  operator : Operator
  left : Test
  right : Test

namespace Spelling

/-- How far the tests of an operator may differ between two databases. -/
inductive Agrees
    (left right : Dialect)
    (table : String)
    (field : Field) :
    Spelling → Prop where
  | same
      {operator : Operator}
      {test : Test} :
      Agrees left right table field ⟨operator, test, test⟩
  /-- Each looks for one substring, in one column, in its own way. -/
  | substring
      {operator : Operator}
      (searches : operator.isSubstring = true)
      (negated : Bool)
      (part : String) :
      Agrees left right table field
        ⟨operator,
          substringTest left (field.columnRef table) negated part,
          substringTest right (field.columnRef table) negated part⟩
  /-- Equality, membership and presence of an enumeration, which one casts. -/
  | enumeration
      {operator : Operator}
      {variants : List String}
      (kind : field.kind = .enumeration variants)
      (notRange : operator.isRange = false)
      (notSubstring : operator.isSubstring = false)
      (oneCasts : left = .postgres ∨ right = .postgres)
      (test : Test) :
      Agrees left right table field
        ⟨operator,
          test.recast (enumerationCast left),
          test.recast (enumerationCast right)⟩

/-- A spelling of the test that a filter on a field asks for. -/
structure IsFor
    (spelling : Spelling)
    (left right : Dialect)
    (table : String)
    (field : Field)
    (filter : Filter) :
    Prop where
  isLeft : IsTestOf left table field filter spelling.operator spelling.left
  isRight :
    IsTestOf right table field filter spelling.operator spelling.right
  agrees : spelling.Agrees left right table field

end Spelling

/-- Either both databases compare a field alike, or one casts it to a text. -/
theorem comparedTarget_eq_or_casts
    (left right : Dialect)
    (kind : Kind)
    (column : ColumnRef) :
    comparedTarget left kind column = comparedTarget right kind column ∨
      (∃ variants, kind = .enumeration variants) ∧
        (left = .postgres ∨ right = .postgres) ∧
        ∀ dialect,
          comparedTarget dialect kind column =
            ⟨column, enumerationCast dialect⟩ := by
  cases kind with
  | enumeration variants =>
      by_cases oneCasts : left = .postgres ∨ right = .postgres
      · refine Or.inr ⟨⟨variants, rfl⟩, oneCasts, ?_⟩
        intro dialect
        cases dialect <;> rfl
      · left
        cases left <;> cases right <;> simp at oneCasts <;> rfl
  | _ =>
      exact Or.inl rfl

section

variable {operator : Operator}
variable {operand : Operand}

/-- A test that looks for no substring sees the database in its target only. -/
theorem exists_test_of_target
    (fits : operand.fits operator = true)
    (notSubstring : operator.isSubstring = false) :
    ∃ make : Target → Test,
      (∀ dialect kind column,
        testOf? dialect kind column operator operand =
          some (make (comparedTarget dialect kind column))) ∧
      ∀ target cast,
        (make target).recast cast = make { target with cast := cast } := by
  cases operand with
  | value value =>
      have compared (comparison : Comparison) (target : Target)
          (cast : Option Cast) :
          (Test.compare target comparison value).recast cast =
            .compare { target with cast := cast } comparison value :=
        rfl
      cases operator
      case equals => exact ⟨_, fun _ _ _ => rfl, compared .equal⟩
      case notEquals => exact ⟨_, fun _ _ _ => rfl, compared .notEqual⟩
      case greaterThan => exact ⟨_, fun _ _ _ => rfl, compared .greater⟩
      case atLeast => exact ⟨_, fun _ _ _ => rfl, compared .atLeast⟩
      case lessThan => exact ⟨_, fun _ _ _ => rfl, compared .less⟩
      case atMost => exact ⟨_, fun _ _ _ => rfl, compared .atMost⟩
      all_goals exact absurd fits Bool.false_ne_true
  | values values =>
      have listed (negated : Bool) (target : Target) (cast : Option Cast) :
          (Test.member target negated values).recast cast =
            .member { target with cast := cast } negated values :=
        rfl
      cases operator
      case oneOf => exact ⟨_, fun _ _ _ => rfl, listed false⟩
      case noneOf => exact ⟨_, fun _ _ _ => rfl, listed true⟩
      all_goals exact absurd fits Bool.false_ne_true
  | flag flag =>
      have present (target : Target) (cast : Option Cast) :
          (Test.null target flag).recast cast =
            .null { target with cast := cast } flag :=
        rfl
      cases operator
      case specified => exact ⟨_, fun _ _ _ => rfl, present⟩
      all_goals exact absurd fits Bool.false_ne_true
  | substring part =>
      cases operator
      case contains => exact absurd notSubstring (by decide)
      case lacks => exact absurd notSubstring (by decide)
      all_goals exact absurd fits Bool.false_ne_true

theorem exists_substringTest
    (fits : operand.fits operator = true)
    (searches : operator.isSubstring = true) :
    ∃ negated part, ∀ dialect kind column,
      testOf? dialect kind column operator operand =
        some (substringTest dialect column negated part) := by
  cases operator <;> cases operand <;>
    first
      | exact absurd searches Bool.false_ne_true
      | exact absurd fits Bool.false_ne_true
      | exact ⟨_, _, fun _ _ _ => rfl⟩

end

/-- Ranges are no operators of an enumeration. -/
theorem isRange_eq_false_of_enumeration
    {variants : List String}
    {operator : Operator}
    (supported : (Kind.enumeration variants).supports operator = true) :
    operator.isRange = false := by
  cases isRange : operator.isRange with
  | false =>
      rfl
  | true =>
      simp [Kind.supports, Kind.isOrdinal, isRange] at supported

section

variable (left right : Dialect)
variable (table : String)
variable {field : Field}
variable {filter : Filter}

/-- A supported operator is spelled for both databases. -/
theorem exists_spelling
    {operator : Operator}
    {operand : Operand}
    (populated : filter.operand? operator = some operand)
    (supported : field.kind.supports operator = true) :
    ∃ spelling : Spelling,
      spelling.operator = operator ∧
        testOf? left field.kind (field.columnRef table) operator operand =
          some spelling.left ∧
        testOf? right field.kind (field.columnRef table) operator operand =
          some spelling.right ∧
        spelling.IsFor left right table field filter := by
  have fits := Filter.fits_of_operand? populated
  cases searches : operator.isSubstring with
  | true =>
      obtain ⟨negated, part, made⟩ := exists_substringTest fits searches
      have isLeft := made left field.kind (field.columnRef table)
      have isRight := made right field.kind (field.columnRef table)
      exact ⟨⟨operator, _, _⟩, rfl, isLeft, isRight,
        ⟨operand, populated, isLeft⟩, ⟨operand, populated, isRight⟩,
        .substring searches negated part⟩
  | false =>
      obtain ⟨make, made, recasts⟩ := exists_test_of_target fits searches
      have isLeft := made left field.kind (field.columnRef table)
      have isRight := made right field.kind (field.columnRef table)
      refine ⟨⟨operator, _, _⟩, rfl, isLeft, isRight,
        ⟨operand, populated, isLeft⟩, ⟨operand, populated, isRight⟩, ?_⟩
      rcases comparedTarget_eq_or_casts left right field.kind
          (field.columnRef table) with
        same | ⟨⟨variants, kind⟩, oneCasts, casts⟩
      · rw [same]
        exact .same
      · rw [kind] at supported
        rw [casts, casts]
        have agrees :
            Spelling.Agrees left right table field ⟨operator, _, _⟩ :=
          .enumeration kind (isRange_eq_false_of_enumeration supported)
            searches oneCasts (make (.plain (field.columnRef table)))
        rw [recasts, recasts] at agrees
        exact agrees

/-- The tests of a filter are spelled one by one, in one order. -/
theorem exists_spellings
    (supported :
      ∀ operator ∈ filter.operators, field.kind.supports operator = true) :
    ∃ spellings : List Spelling,
      spellings.map Spelling.operator = filter.operators ∧
        spellings.map Spelling.left =
          testsOf left field.kind (field.columnRef table) filter ∧
        spellings.map Spelling.right =
          testsOf right field.kind (field.columnRef table) filter ∧
        ∀ spelling ∈ spellings,
          spelling.IsFor left right table field filter := by
  -- The list of all operators becomes general, so that it can be inducted on.
  unfold testsOf
  rw [Filter.operators_eq] at supported ⊢
  revert supported
  induction Operator.all with
  | nil =>
      intro _
      exact ⟨[], rfl, rfl, rfl, by simp⟩
  | cons operator rest inductionHypothesis =>
      intro supported
      cases populated : filter.operand? operator with
      | none =>
          simp only [List.filter_cons, List.filterMap_cons, populated,
            Option.isSome_none, Bool.false_eq_true, if_false,
            Option.bind_none] at supported ⊢
          exact inductionHypothesis supported
      | some operand =>
          simp only [List.filter_cons, populated, Option.isSome_some,
            if_true, List.forall_mem_cons] at supported
          obtain ⟨spellings, operators, lefts, rights, each⟩ :=
            inductionHypothesis supported.2
          obtain ⟨spelling, sameOperator, isLeft, isRight, isFor⟩ :=
            exists_spelling left right table populated supported.1
          refine ⟨spelling :: spellings, ?_, ?_, ?_, ?_⟩
          · simp [populated, sameOperator, operators]
          · simp [populated, isLeft, lefts]
          · simp [populated, isRight, rights]
          · exact List.forall_mem_cons.mpr ⟨isFor, each⟩

end

end Sql

theorem Predicate.joins_addJoin_congr
    {predicate other : Predicate}
    (same : predicate.joins = other.joins)
    (join : Join) :
    (predicate.addJoin join).joins = (other.addJoin join).joins := by
  unfold addJoin
  rw [same]
  split
  · exact same
  · rfl

namespace Criteria

/--
The members for a field in the predicates of two databases.

They have the same number of tests, one for each populated operator, and the
tests of one operator agree up to their spelling.
-/
inductive SpellsMember
    (criteria : Criteria)
    (left right : Sql.Dialect)
    (table : String)
    (field : Field) :
    Sql.Condition × Sql.Condition → Prop where
  | tests
      {filter : Filter}
      {spellings : List Sql.Spelling}
      (populated : criteria.populated? field.name = some filter)
      (operators :
        spellings.map Sql.Spelling.operator = filter.operators)
      (each :
        ∀ spelling ∈ spellings,
          spelling.IsFor left right table field filter) :
      SpellsMember criteria left right table field
        ((Sql.Condition.all
            ((spellings.map Sql.Spelling.left).map .test)).unwrapped,
          (Sql.Condition.all
            ((spellings.map Sql.Spelling.right).map .test)).unwrapped)

/-- Two predicates of a criteria that differ in spelling only. -/
structure Spells
    (criteria : Criteria)
    (left right : Sql.Dialect)
    (entity : Entity)
    (predicate other : Predicate) :
    Prop where
  joins : predicate.joins = other.joins
  distinct : predicate.distinct = other.distinct
  members :
    ∃ members : List (Sql.Condition × Sql.Condition),
      List.Forall₂ (criteria.SpellsMember left right entity.table)
          (criteria.constrained entity.compileOrder) members ∧
        predicate.members = members.map Prod.fst ∧
        other.members = members.map Prod.snd

variable {criteria : Criteria}
variable (left right : Sql.Dialect)

section

variable (table : String)

theorem exists_spellsMember
    {field : Field}
    {filter : Filter}
    (populated : criteria.populated? field.name = some filter)
    (faultless : criteria.faultOn? field = none) :
    ∃ members : Sql.Condition × Sql.Condition,
      criteria.SpellsMember left right table field members ∧
        criteria.memberOf? left table field = some members.1 ∧
        criteria.memberOf? right table field = some members.2 := by
  rw [faultOn?, populated, Option.bind_some, Field.fault?_eq_none_iff]
    at faultless
  have supported :
      ∀ operator ∈ filter.operators,
        field.kind.supports operator = true := by
    intro operator listed
    exact faultless.supported operator (Filter.mem_operators.mp listed)
  obtain ⟨spellings, operators, lefts, rights, each⟩ :=
    Sql.exists_spellings left right table supported
  refine ⟨_, .tests populated operators each, ?_, ?_⟩
  · rw [memberOf?, populated, lefts]
    rfl
  · rw [memberOf?, populated, rights]
    rfl

theorem exists_members
    {fields : List Field}
    (faultless : ∀ field ∈ fields, criteria.faultOn? field = none) :
    ∃ members : List (Sql.Condition × Sql.Condition),
      List.Forall₂ (criteria.SpellsMember left right table)
          (criteria.constrained fields) members ∧
        fields.filterMap (criteria.memberOf? left table) =
          members.map Prod.fst ∧
        fields.filterMap (criteria.memberOf? right table) =
          members.map Prod.snd := by
  unfold constrained
  induction fields with
  | nil =>
      exact ⟨[], .nil, rfl, rfl⟩
  | cons field rest inductionHypothesis =>
      rw [List.forall_mem_cons] at faultless
      obtain ⟨members, spelled, lefts, rights⟩ :=
        inductionHypothesis faultless.2
      cases populated : criteria.populated? field.name with
      | none =>
          refine ⟨members, ?_, ?_, ?_⟩
          · simpa [populated] using spelled
          · simpa [memberOf?, populated] using lefts
          · simpa [memberOf?, populated] using rights
      | some filter =>
          obtain ⟨pair, spelledFirst, isLeft, isRight⟩ :=
            exists_spellsMember left right table populated faultless.1
          refine ⟨pair :: members, ?_, ?_, ?_⟩
          · simpa [populated] using List.Forall₂.cons spelledFirst spelled
          · simp [isLeft, lefts]
          · simp [isRight, rights]

/-- The joins of a run of steps are the same for every database. -/
theorem joins_foldl_extend_congr
    (fields : List Field)
    {start other : Predicate}
    (same : start.joins = other.joins) :
    (fields.foldl (criteria.extend left table) start).joins =
      (fields.foldl (criteria.extend right table) other).joins := by
  induction fields generalizing start other with
  | nil =>
      exact same
  | cons field rest inductionHypothesis =>
      apply inductionHypothesis
      rw [joins_extend, joins_extend]
      split
      · exact Predicate.joins_addJoin_congr same _
      · exact same

end

variable {entity : Entity}

theorem spells_predicate
    (faultless : ∀ field ∈ entity.fields, criteria.faultOn? field = none) :
    criteria.Spells left right entity
      (criteria.predicate left entity)
      (criteria.predicate right entity) where
  joins := joins_foldl_extend_congr left right entity.table _ rfl
  distinct := distinct_predicate.trans distinct_predicate.symm
  members := by
    obtain ⟨members, spelled, lefts, rights⟩ :=
      exists_members left right entity.table
        fun field (member : field ∈ entity.compileOrder) =>
          faultless field (Entity.mem_compileOrder.mp member)
    exact ⟨members, spelled, members_predicate.trans lefts,
      members_predicate.trans rights⟩

end Criteria

/--
For two kinds of databases a criteria fails to compile with one error, or it
compiles to predicates that differ in the spelling of their tests only.
-/
theorem compile_spells
    (left right : Sql.Dialect)
    (entity : Entity)
    (criteria : Criteria) :
    (∃ error,
      compile left entity (some criteria) = .error error ∧
        compile right entity (some criteria) = .error error) ∨
    ∃ predicate other,
      compile left entity (some criteria) = .ok predicate ∧
        compile right entity (some criteria) = .ok other ∧
        criteria.Spells left right entity predicate other := by
  cases compiled : compile left entity (some criteria) with
  | error error =>
      have faulty := (Criteria.compile_eq_error_iff left error).mp compiled
      exact Or.inl
        ⟨error, rfl, (Criteria.compile_eq_error_iff right error).mpr faulty⟩
  | ok predicate =>
      obtain ⟨known, faultless, rfl⟩ :=
        (compile_eq_ok_iff _ _ _ _).mp compiled
      have compiledOther :=
        (compile_eq_ok_iff right entity criteria _).mpr
          ⟨known, faultless, rfl⟩
      exact Or.inr ⟨_, _, rfl, compiledOther,
        Criteria.spells_predicate left right faultless⟩

end RecordQuery
