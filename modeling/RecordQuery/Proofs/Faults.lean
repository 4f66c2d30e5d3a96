import RecordQuery.Club.Entities
import RecordQuery.Proofs.Binding
import RecordQuery.Proofs.ByteOrder

namespace RecordQuery

/-!
# Which fault a compilation finds

A criteria fits an entity when the entity has all its populated fields and each
of them admits its filter.  Then it compiles; otherwise compilation fails with
one fault, and three orders decide with which: names stand in the order of their
bytes, fields in the order of compilation, and in one field operators that do
not go together come before an unsupported one, and that before an operand of
another type.
-/

/-- The first entry of a list that has a property. -/
structure IsFirst
    {Entry : Type}
    (entries : List Entry)
    (property : Entry → Prop)
    (entry : Entry) :
    Prop where
  has : property entry
  noneBefore :
    ∃ before after, entries = before ++ entry :: after ∧
      ∀ other ∈ before, ¬property other

section

variable {Entry : Type}

theorem IsFirst.mem
    {entries : List Entry}
    {property : Entry → Prop}
    {entry : Entry}
    (first : IsFirst entries property entry) :
    entry ∈ entries := by
  obtain ⟨before, after, shape, -⟩ := first.noneBefore
  rw [shape]
  exact List.mem_append_right before List.mem_cons_self

theorem find?_eq_some_iff_isFirst
    {entries : List Entry}
    {wanted : Entry → Bool}
    {entry : Entry} :
    entries.find? wanted = some entry ↔
      IsFirst entries (fun other => wanted other = true) entry := by
  rw [List.find?_eq_some_iff_append]
  constructor
  · rintro ⟨isWanted, before, after, shape, unwanted⟩
    refine ⟨isWanted, before, after, shape, ?_⟩
    simpa using unwanted
  · rintro ⟨isWanted, before, after, shape, unwanted⟩
    refine ⟨isWanted, before, after, shape, ?_⟩
    simpa using unwanted

theorem findSome?_eq_some_iff_isFirst
    {Found : Type}
    {entries : List Entry}
    {search : Entry → Option Found}
    {found : Found} :
    entries.findSome? search = some found ↔
      ∃ entry,
        IsFirst entries (fun other => (search other).isSome = true) entry ∧
          search entry = some found := by
  rw [List.findSome?_eq_some_iff]
  constructor
  · rintro ⟨before, entry, after, shape, here, nothing⟩
    refine ⟨entry, ⟨by simp [here], before, after, shape, ?_⟩, here⟩
    intro other member
    simp [nothing other member]
  · rintro ⟨entry, ⟨-, before, after, shape, nothing⟩, here⟩
    refine ⟨before, entry, after, shape, here, ?_⟩
    intro other member
    simpa using nothing other member

end

namespace Filter

/-- Whether a filter has an operand for an operator. -/
def Populates (filter : Filter) (operator : Operator) : Prop :=
  (filter.operand? operator).isSome = true

/-- Whether `specified` stands without any other operator, if it stands. -/
def SpecifiedAlone (filter : Filter) : Prop :=
  filter.Populates .specified →
    ∀ operator, filter.Populates operator → operator = .specified

/-- Whether a range operator stands beside a substring operator. -/
def Mixes (filter : Filter) : Prop :=
  ∃ range substring, range.isRange = true ∧
    substring.isSubstring = true ∧
      filter.Populates range ∧ filter.Populates substring

/-- Operators that go together. -/
structure GoesTogether (filter : Filter) : Prop where
  specifiedAlone : filter.SpecifiedAlone
  notMixed : ¬filter.Mixes

/-- Why operators do not go together; what `specified` does comes first. -/
inductive Conflict (filter : Filter) : FilterFault → Prop where
  | specifiedNotAlone
      (notAlone : ¬filter.SpecifiedAlone) :
      Conflict filter .specifiedNotAlone
  | rangeWithSubstring
      (specifiedAlone : filter.SpecifiedAlone)
      (mixes : filter.Mixes) :
      Conflict filter .rangeWithSubstring

variable {filter : Filter}

/-- Operators are listed once, so another one makes the list longer than one. -/
theorem one_lt_length_operators_iff
    (specified : filter.Populates .specified) :
    1 < filter.operators.length ↔
      ∃ other, filter.Populates other ∧ other ≠ .specified := by
  have distinct : filter.operators.Nodup := filter.nodup_operators
  simp only [Populates, ← mem_operators] at specified ⊢
  match operators : filter.operators with
  | [] =>
      rw [operators] at specified
      exact absurd specified List.not_mem_nil
  | [only] =>
      rw [operators, List.mem_singleton] at specified
      simp [specified]
  | first :: second :: rest =>
      rw [operators, List.nodup_cons] at distinct
      refine iff_of_true (by simp) ?_
      by_cases isFirst : first = .specified
      · refine ⟨second, by simp, ?_⟩
        rintro rfl
        exact distinct.1 (isFirst ▸ List.mem_cons_self)
      · exact ⟨first, List.mem_cons_self, isFirst⟩

theorem specifiedNotAlone_iff :
    (filter.specified.isSome && decide (1 < filter.operators.length)) =
        true ↔
      ¬filter.SpecifiedAlone := by
  have slot :
      filter.specified.isSome = true ↔ filter.Populates .specified := by
    simp [Populates, operand?]
  rw [Bool.and_eq_true, decide_eq_true_iff, slot, SpecifiedAlone,
    Classical.not_imp]
  refine and_congr_right fun specified => ?_
  rw [one_lt_length_operators_iff specified]
  simp only [Classical.not_forall, exists_prop, ne_eq]

theorem mixes_iff :
    (filter.operators.any Operator.isRange &&
        filter.operators.any Operator.isSubstring) = true ↔
      filter.Mixes := by
  simp only [Bool.and_eq_true, List.any_eq_true, mem_operators, Mixes,
    Populates]
  constructor
  · rintro ⟨⟨range, populatesRange, isRange⟩,
      ⟨substring, populatesSubstring, isSubstring⟩⟩
    exact ⟨range, substring, isRange, isSubstring, populatesRange,
      populatesSubstring⟩
  · rintro ⟨range, substring, isRange, isSubstring, populatesRange,
      populatesSubstring⟩
    exact ⟨⟨range, populatesRange, isRange⟩,
      ⟨substring, populatesSubstring, isSubstring⟩⟩

theorem fault?_eq_some_iff {fault : FilterFault} :
    filter.fault? = some fault ↔ filter.Conflict fault := by
  unfold fault?
  dsimp only
  split
  next notAlone =>
    rw [specifiedNotAlone_iff] at notAlone
    rw [Option.some.injEq]
    constructor
    · rintro rfl
      exact .specifiedNotAlone notAlone
    · rintro (_ | specifiedAlone)
      · rfl
      · exact absurd specifiedAlone notAlone
  next alone =>
    rw [specifiedNotAlone_iff, Classical.not_not] at alone
    split
    next mixes =>
      rw [mixes_iff] at mixes
      rw [Option.some.injEq]
      constructor
      · rintro rfl
        exact .rangeWithSubstring alone mixes
      · rintro (notAlone | _)
        · exact absurd alone notAlone
        · rfl
    next notMixed =>
      rw [mixes_iff] at notMixed
      refine iff_of_false (by simp) ?_
      rintro (notAlone | ⟨-, mixes⟩)
      · exact notAlone alone
      · exact notMixed mixes

theorem fault?_eq_none_iff :
    filter.fault? = none ↔ filter.GoesTogether := by
  rw [Option.eq_none_iff_forall_ne_some]
  simp only [ne_eq, fault?_eq_some_iff]
  constructor
  · intro noConflict
    have alone : filter.SpecifiedAlone :=
      Classical.not_not.mp fun notAlone =>
        noConflict _ (.specifiedNotAlone notAlone)
    exact ⟨alone, fun mixes =>
      noConflict _ (.rangeWithSubstring alone mixes)⟩
  · rintro ⟨alone, notMixed⟩ fault (notAlone | ⟨-, mixes⟩)
    · exact notAlone alone
    · exact notMixed mixes

theorem fst_of_mem_valuesOf
    {operator : Operator}
    {entry : Operator × Value}
    (member : entry ∈ filter.valuesOf operator) :
    entry.1 = operator := by
  unfold valuesOf at member
  split at member
  · exact absurd member List.not_mem_nil
  · obtain ⟨value, -, rfl⟩ := List.mem_map.mp member
    rfl

end Filter

/-- The order in which operands are checked: sets of values come last. -/
def Operator.setsLast : List Operator :=
  all.filter (fun operator => !operator.isSet) ++ all.filter isSet

theorem Operator.mem_setsLast (operator : Operator) :
    operator ∈ setsLast := by
  cases operator <;> decide

namespace Field

/-- An operator with an operand that a field's kind does not accept. -/
def Misfits
    (field : Field)
    (filter : Filter)
    (operator : Operator) :
    Prop :=
  ∃ operand, filter.operand? operator = some operand ∧
    ∃ value ∈ operand.members, field.kind.accepts value = false

/-- A filter that may be applied to a field. -/
structure Admits (field : Field) (filter : Filter) : Prop where
  together : filter.GoesTogether
  supported :
    ∀ operator, filter.Populates operator →
      field.kind.supports operator = true
  accepted :
    ∀ operator operand, filter.operand? operator = some operand →
      ∀ value ∈ operand.members, field.kind.accepts value = true

/-- The fault of a filter on a field. -/
inductive Faulty (field : Field) (filter : Filter) : QueryError → Prop where
  | invalidFilter
      {fault : FilterFault}
      (conflict : filter.Conflict fault) :
      Faulty field filter (.invalidFilter field.name fault)
  | unsupportedOperator
      {operator : Operator}
      (together : filter.GoesTogether)
      (first :
        IsFirst Operator.all
          (fun other => filter.Populates other ∧
            field.kind.supports other = false)
          operator) :
      Faulty field filter
        (.unsupportedOperator field.name operator field.kind)
  | operandType
      {operator : Operator}
      (together : filter.GoesTogether)
      (supported :
        ∀ other, filter.Populates other →
          field.kind.supports other = true)
      (first : IsFirst Operator.setsLast (field.Misfits filter) operator) :
      Faulty field filter (.operandType field.name operator)

variable {field : Field}
variable {filter : Filter}

theorem unsupported?_eq_some_iff {operator : Operator} :
    field.unsupported? filter = some operator ↔
      IsFirst Operator.all
        (fun other => filter.Populates other ∧
          field.kind.supports other = false)
        operator := by
  rw [unsupported?, Filter.operators_eq, List.find?_filter,
    find?_eq_some_iff_isFirst]
  simp only [Bool.not_eq_true', decide_eq_true_iff, Filter.Populates]

theorem unsupported?_eq_none_iff :
    field.unsupported? filter = none ↔
      ∀ operator, filter.Populates operator →
        field.kind.supports operator = true := by
  simp [unsupported?, Filter.mem_operators, Filter.Populates]

/-- Whether a field's kind does not accept a value of an operator. -/
def misfits (field : Field) (filter : Filter) (operator : Operator) : Bool :=
  (filter.valuesOf operator).any fun entry => !field.kind.accepts entry.2

theorem misfits_iff {operator : Operator} :
    field.misfits filter operator = true ↔
      field.Misfits filter operator := by
  unfold misfits Misfits Filter.valuesOf
  cases filter.operand? operator with
  | none =>
      simp
  | some operand =>
      simp

/-- The first value that is not accepted tells the first operator with one. -/
theorem find?_valuesOf (operators : List Operator) :
    ((operators.flatMap filter.valuesOf).find? fun entry =>
        !field.kind.accepts entry.2).map Prod.fst =
      operators.find? (field.misfits filter) := by
  induction operators with
  | nil =>
      rfl
  | cons operator rest inductionHypothesis =>
      rw [List.flatMap_cons, List.find?_append, List.find?_cons]
      cases here : field.misfits filter operator with
      | false =>
          have noneHere :
              ((filter.valuesOf operator).find? fun entry =>
                !field.kind.accepts entry.2) = none := by
            rw [List.find?_eq_none]
            exact List.any_eq_false.mp here
          rw [noneHere, Option.none_or]
          exact inductionHypothesis
      | true =>
          obtain ⟨entry, found⟩ :=
            Option.isSome_iff_exists.mp
              (List.find?_isSome.mpr (List.any_eq_true.mp here))
          rw [found, Option.some_or, Option.map_some,
            Filter.fst_of_mem_valuesOf (List.mem_of_find?_eq_some found)]

/-- The operators without typed values are never found at fault for one. -/
theorem find?_misfits :
    (Filter.scalarOperators ++ [Operator.oneOf, Operator.noneOf]).find?
        (field.misfits filter) =
      Operator.setsLast.find? (field.misfits filter) := by
  -- The list that is searched leaves `specified` and the substring operators
  -- out, and these have no values to find.
  have typed :
      Filter.scalarOperators ++ [Operator.oneOf, Operator.noneOf] =
        Operator.setsLast.filter fun operator =>
          operator != .specified && !operator.isSubstring := by
    decide
  rw [typed, List.find?_filter]
  congr 1
  funext operator
  have untyped :
      (operator != .specified && !operator.isSubstring) = false →
        field.misfits filter operator = false := by
    intro notTyped
    rw [Bool.eq_false_iff, ne_eq, misfits_iff]
    rintro ⟨operand, populated, value, member, -⟩
    cases operator <;> cases notTyped <;>
      obtain ⟨_, -, rfl⟩ := Option.map_eq_some_iff.mp populated <;>
        exact absurd member List.not_mem_nil
  cases typed :
      operator != .specified && !operator.isSubstring with
  | false =>
      simp [untyped typed]
  | true =>
      simp

theorem unaccepted?_eq_find? :
    field.unaccepted? filter =
      Operator.setsLast.find? (field.misfits filter) := by
  rw [← find?_misfits, unaccepted?, Filter.values_eq]
  exact find?_valuesOf _

theorem unaccepted?_eq_some_iff {operator : Operator} :
    field.unaccepted? filter = some operator ↔
      IsFirst Operator.setsLast (field.Misfits filter) operator := by
  rw [unaccepted?_eq_find?, find?_eq_some_iff_isFirst]
  simp only [misfits_iff]

theorem unaccepted?_eq_none_iff :
    field.unaccepted? filter = none ↔
      ∀ operator operand, filter.operand? operator = some operand →
        ∀ value ∈ operand.members, field.kind.accepts value = true := by
  rw [unaccepted?_eq_find?, List.find?_eq_none]
  simp only [misfits_iff, Misfits, not_exists, not_and,
    Bool.not_eq_false]
  constructor
  · intro fits operator operand populated
    exact fits operator (Operator.mem_setsLast operator) operand populated
  · intro accepted operator _ operand populated
    exact accepted operator operand populated

theorem fault?_eq_some_iff {error : QueryError} :
    field.fault? filter = some error ↔ field.Faulty filter error := by
  unfold fault?
  cases conflict : filter.fault? with
  | some fault =>
      have notTogether : ¬filter.GoesTogether := by
        rw [← Filter.fault?_eq_none_iff, conflict]
        simp
      dsimp only
      rw [Option.some.injEq]
      constructor
      · rintro rfl
        exact .invalidFilter (Filter.fault?_eq_some_iff.mp conflict)
      · rintro (other | together | together)
        · rw [← Filter.fault?_eq_some_iff, conflict,
            Option.some.injEq] at other
          rw [other]
        · exact absurd together notTogether
        · exact absurd together notTogether
  | none =>
      have noConflict (fault : FilterFault) : ¬filter.Conflict fault := by
        rw [← Filter.fault?_eq_some_iff, conflict]
        simp
      have together := Filter.fault?_eq_none_iff.mp conflict
      dsimp only
      cases unsupported : field.unsupported? filter with
      | some operator =>
          dsimp only
          rw [Option.some.injEq]
          constructor
          · rintro rfl
            exact .unsupportedOperator together
              (unsupported?_eq_some_iff.mp unsupported)
          · rintro (other | ⟨-, other⟩ | ⟨-, supported, -⟩)
            · exact absurd other (noConflict _)
            · rw [← unsupported?_eq_some_iff, unsupported,
                Option.some.injEq] at other
              rw [other]
            · rw [← unsupported?_eq_none_iff, unsupported] at supported
              exact absurd supported (by simp)
      | none =>
          dsimp only
          rw [Option.map_eq_some_iff]
          constructor
          · rintro ⟨operator, unaccepted, rfl⟩
            exact .operandType together
              (unsupported?_eq_none_iff.mp unsupported)
              (unaccepted?_eq_some_iff.mp unaccepted)
          · rintro (other | ⟨-, other⟩ | ⟨-, -, first⟩)
            · exact absurd other (noConflict _)
            · rw [← unsupported?_eq_some_iff, unsupported] at other
              exact absurd other (by simp)
            · exact ⟨_, unaccepted?_eq_some_iff.mpr first, rfl⟩

theorem fault?_eq_none_iff :
    field.fault? filter = none ↔ field.Admits filter := by
  rw [fault?_eq_none_iff_checked, Filter.fault?_eq_none_iff,
    unsupported?_eq_none_iff, unaccepted?_eq_none_iff]
  exact
    ⟨fun ⟨together, supported, accepted⟩ => ⟨together, supported, accepted⟩,
      fun ⟨together, supported, accepted⟩ => ⟨together, supported, accepted⟩⟩

end Field

theorem Entity.field?_eq_none_iff {entity : Entity} {name : String} :
    entity.field? name = none ↔ name ∉ entity.fields.map Field.name := by
  simp [field?]

namespace Criteria

/-- A criteria that may be applied to an entity. -/
def Fits (criteria : Criteria) (entity : Entity) : Prop :=
  ∀ name filter, criteria.populated? name = some filter →
    ∃ field ∈ entity.fields, field.name = name ∧ field.Admits filter

/-- A field that does not admit its filter. -/
def Offends (criteria : Criteria) (field : Field) : Prop :=
  ∃ filter, criteria.populated? field.name = some filter ∧
    ¬field.Admits filter

/-- The fault of a criteria on an entity. -/
inductive Faulty (criteria : Criteria) (entity : Entity) :
    QueryError → Prop where
  | unknownField
      {name : String}
      {filter : Filter}
      (populated : criteria.populated? name = some filter)
      (unknown : name ∉ entity.fields.map Field.name)
      (least :
        ∀ other otherFilter,
          criteria.populated? other = some otherFilter →
            other ∉ entity.fields.map Field.name →
              other = name ∨ Text.bytes name < Text.bytes other) :
      Faulty criteria entity (.unknownField name)
  | ofField
      {field : Field}
      {filter : Filter}
      {error : QueryError}
      (known :
        ∀ name filter, criteria.populated? name = some filter →
          name ∈ entity.fields.map Field.name)
      (first : IsFirst entity.compileOrder criteria.Offends field)
      (populated : criteria.populated? field.name = some filter)
      (faulty : field.Faulty filter error) :
      Faulty criteria entity error

variable {criteria : Criteria}
variable {entity : Entity}
variable {field : Field}

theorem faultOn?_eq_some_iff {error : QueryError} :
    criteria.faultOn? field = some error ↔
      ∃ filter, criteria.populated? field.name = some filter ∧
        field.Faulty filter error := by
  simp only [faultOn?, Option.bind_eq_some_iff, Field.fault?_eq_some_iff]

theorem isSome_faultOn?_iff :
    (criteria.faultOn? field).isSome = true ↔ criteria.Offends field := by
  unfold faultOn? Offends
  cases criteria.populated? field.name with
  | none =>
      simp
  | some filter =>
      simp [← Field.fault?_eq_none_iff, Option.isSome_iff_ne_none]

/-- The first offending field decides how the fields fail to compile. -/
theorem compileFields_eq_error_iff
    (dialect : Sql.Dialect)
    (table : String)
    (criteria : Criteria)
    (fields : List Field)
    (start : Predicate)
    (error : QueryError) :
    compileFields dialect table criteria fields start = .error error ↔
      fields.findSome? criteria.faultOn? = some error := by
  induction fields generalizing start with
  | nil =>
      simp [compileFields]
  | cons field rest inductionHypothesis =>
      rw [compileFields, List.findSome?_cons]
      cases found : criteria.populated? field.name with
      | none =>
          simp [inductionHypothesis, faultOn?, found]
      | some filter =>
          cases faulty : field.fault? filter with
          | none =>
              simp [inductionHypothesis, faultOn?, found, faulty]
          | some error =>
              simp [faultOn?, found, faulty]

/-- A populated name that the entity does not have, before all the others. -/
structure IsLeastUnknown
    (criteria : Criteria)
    (entity : Entity)
    (name : String) :
    Prop where
  populated : ∃ filter, criteria.populated? name = some filter
  unknown : name ∉ entity.fields.map Field.name
  least :
    ∀ other otherFilter, criteria.populated? other = some otherFilter →
      other ∉ entity.fields.map Field.name →
        other = name ∨ name < other

theorem isLeastUnknown_of_unknownField?
    {name : String}
    (found : criteria.unknownField? entity = some name) :
    criteria.IsLeastUnknown entity name := by
  obtain ⟨⟨_, filter⟩, first, rfl⟩ := Option.map_eq_some_iff.mp found
  have member := List.mem_of_find?_eq_some first
  obtain ⟨isUnknown, before, after, shape, known⟩ :=
    find?_eq_some_iff_isFirst.mp first
  have ascending :
      criteria.fields.Pairwise fun left right => left.1 < right.1 :=
    criteria.filters.ascending.filter _
  rw [shape, List.pairwise_append, List.pairwise_cons] at ascending
  refine ⟨⟨filter, mem_fields_iff.mp member⟩, ?_, ?_⟩
  · rw [← Entity.field?_eq_none_iff]
    simpa using isUnknown
  · intro other otherFilter populated unknown
    have otherMember := mem_fields_iff.mpr populated
    rw [shape, List.mem_append, List.mem_cons] at otherMember
    rw [← Entity.field?_eq_none_iff] at unknown
    rcases otherMember with isBefore | same | isAfter
    · exact absurd (by simp [unknown]) (known _ isBefore)
    · exact Or.inl (congrArg Prod.fst same)
    · exact Or.inr (ascending.2.1.1 _ isAfter)

/-- The unknown field that is found has the least name of all. -/
theorem unknownField?_eq_some_iff {name : String} :
    criteria.unknownField? entity = some name ↔
      criteria.IsLeastUnknown entity name := by
  constructor
  · exact isLeastUnknown_of_unknownField?
  · rintro ⟨⟨filter, populated⟩, unknown, least⟩
    cases found : criteria.unknownField? entity with
    | none =>
        rw [unknownField?, Option.map_eq_none_iff,
          List.find?_eq_none] at found
        rw [← Entity.field?_eq_none_iff] at unknown
        exact absurd (by simp [unknown])
          (found _ (mem_fields_iff.mpr populated))
    | some other =>
        -- Two names that are both the least are the same.
        obtain ⟨⟨otherFilter, otherPopulated⟩, otherUnknown, otherLeast⟩ :=
          isLeastUnknown_of_unknownField? found
        rcases otherLeast name filter populated unknown with
          same | otherBefore
        · rw [same]
        rcases least other otherFilter otherPopulated otherUnknown with
          same | before
        · rw [same]
        · exact absurd (String.lt_trans before otherBefore)
            (String.lt_irrefl name)

theorem unknownField?_eq_none_iff :
    criteria.unknownField? entity = none ↔
      ∀ name filter, criteria.populated? name = some filter →
        name ∈ entity.fields.map Field.name := by
  rw [unknownField?, Option.map_eq_none_iff, List.find?_eq_none]
  simp only [Prod.forall, mem_fields_iff, Option.isNone_iff_eq_none,
    Entity.field?_eq_none_iff, Classical.not_not]

theorem compile_eq_error_iff
    (dialect : Sql.Dialect)
    (error : QueryError) :
    RecordQuery.compile dialect entity (some criteria) = .error error ↔
      criteria.Faulty entity error := by
  simp only [RecordQuery.compile, compile]
  cases unknown : criteria.unknownField? entity with
  | some name =>
      have found := unknownField?_eq_some_iff.mp unknown
      obtain ⟨⟨filter, populated⟩, notKnown, least⟩ := found
      dsimp only
      rw [Except.error.injEq]
      constructor
      · rintro rfl
        refine .unknownField populated notKnown ?_
        simpa only [Text.bytes_lt_bytes_iff] using least
      · rintro (⟨otherPopulated, otherUnknown, otherLeast⟩ | known)
        · simp only [Text.bytes_lt_bytes_iff] at otherLeast
          have other :=
            unknownField?_eq_some_iff.mpr
              ⟨⟨_, otherPopulated⟩, otherUnknown, otherLeast⟩
          rw [unknown, Option.some.injEq] at other
          rw [other]
        · exact absurd (known _ _ populated) notKnown
  | none =>
      have known := unknownField?_eq_none_iff.mp unknown
      dsimp only
      rw [compileFields_eq_error_iff, findSome?_eq_some_iff_isFirst]
      simp only [isSome_faultOn?_iff, faultOn?_eq_some_iff]
      constructor
      · rintro ⟨field, first, filter, populated, faulty⟩
        exact .ofField known first populated faulty
      · rintro (⟨populated, notKnown, -⟩ | ⟨-, first, populated, faulty⟩)
        · exact absurd (known _ _ populated) notKnown
        · exact ⟨_, first, _, populated, faulty⟩

theorem compile_isOk_iff_fits
    (distinctNames : (entity.fields.map Field.name).Nodup)
    (dialect : Sql.Dialect) :
    (∃ predicate,
        RecordQuery.compile dialect entity (some criteria) =
          .ok predicate) ↔
      criteria.Fits entity := by
  constructor
  · rintro ⟨predicate, compiled⟩ name filter populated
    obtain ⟨known, faultless, -⟩ := (compile_eq_ok_iff _ _ _ _).mp compiled
    obtain ⟨field, found⟩ :=
      Option.isSome_iff_exists.mp
        (known _ (mem_fields_iff.mpr populated))
    have sameName := Entity.name_of_field? found
    have member := Entity.mem_fields_of_field? found
    have noFault := faultless field member
    rw [faultOn?, sameName, populated] at noFault
    exact ⟨field, member, sameName, Field.fault?_eq_none_iff.mp noFault⟩
  · intro fits
    refine ⟨_, (compile_eq_ok_iff _ _ _ _).mpr ⟨?_, ?_, rfl⟩⟩
    · rintro ⟨name, filter⟩ member
      obtain ⟨field, isField, rfl, -⟩ :=
        fits name filter (mem_fields_iff.mp member)
      rw [Entity.field?_name distinctNames isField]
      rfl
    · intro field member
      unfold faultOn?
      cases populated : criteria.populated? field.name with
      | none =>
          rfl
      | some filter =>
          obtain ⟨other, isField, sameName, admits⟩ :=
            fits field.name filter populated
          have found := Entity.field?_name distinctNames isField
          rw [sameName, Entity.field?_name distinctNames member,
            Option.some.injEq] at found
          subst found
          exact Field.fault?_eq_none_iff.mpr admits

section

variable {left right : Criteria}
variable (samePopulated :
  ∀ name, left.populated? name = right.populated? name)

include samePopulated

theorem compileFields_congr
    (dialect : Sql.Dialect)
    (table : String)
    (fields : List Field)
    (start : Predicate) :
    compileFields dialect table left fields start =
      compileFields dialect table right fields start := by
  induction fields generalizing start with
  | nil =>
      rfl
  | cons field rest inductionHypothesis =>
      simp only [compileFields, samePopulated, inductionHypothesis]

/-- Compilation looks at filters that are not empty only. -/
theorem compile_congr
    (sameHint : left.distinct = right.distinct)
    (dialect : Sql.Dialect)
    (entity : Entity) :
    RecordQuery.compile dialect entity (some left) =
      RecordQuery.compile dialect entity (some right) := by
  have sameUnknown :
      left.unknownField? entity = right.unknownField? entity := by
    apply Option.ext
    intro name
    rw [unknownField?_eq_some_iff, unknownField?_eq_some_iff]
    constructor
    · rintro ⟨populated, unknown, least⟩
      simp only [samePopulated] at populated least
      exact ⟨populated, unknown, least⟩
    · rintro ⟨populated, unknown, least⟩
      simp only [← samePopulated] at populated least
      exact ⟨populated, unknown, least⟩
  simp only [RecordQuery.compile, compile, sameUnknown, sameHint,
    compileFields_congr samePopulated]

end

/-- An empty filter populates nothing. -/
theorem populated?_insert_empty
    {name : String}
    (notPopulated : criteria.populated? name = none)
    (other : String) :
    (criteria.insert name Filter.empty).populated? other =
      criteria.populated? other := by
  rw [populated?_insert]
  split
  next same =>
    rw [← same, notPopulated]
    rfl
  next =>
    rfl

end Criteria

/--
A criteria compiles exactly when it fits the entity, and fails exactly with its
fault, which the order of names, fields and checks makes one.

An empty filter changes nothing, whatever its name.
-/
theorem compile_fits_or_fails
    {entity : Entity}
    (distinctNames : (entity.fields.map Field.name).Nodup)
    (dialect : Sql.Dialect)
    (criteria : Criteria) :
    ((∃ predicate,
        compile dialect entity (some criteria) = .ok predicate) ↔
      criteria.Fits entity) ∧
    (∀ error,
      compile dialect entity (some criteria) = .error error ↔
        criteria.Faulty entity error) ∧
    ∀ name, criteria.populated? name = none →
      compile dialect entity
          (some (criteria.insert name Filter.empty)) =
        compile dialect entity (some criteria) := by
  refine ⟨Criteria.compile_isOk_iff_fits distinctNames dialect,
    Criteria.compile_eq_error_iff dialect, ?_⟩
  intro name notPopulated
  exact Criteria.compile_congr
    (Criteria.populated?_insert_empty notPopulated) rfl dialect entity

namespace Club

/-- Players whose key is a text, and holds another. -/
def keyIsText : Criteria :=
  Criteria.empty.insert "id"
    { Filter.empty with
      equals := some (.text "1")
      contains := some "1" }

end Club

/-- An unsupported operator is told before an operand of another type. -/
theorem faulty_keyIsText :
    (Club.player.fields.map Field.name).Nodup ∧
      ¬Club.keyIsText.Fits Club.player ∧
        Club.keyIsText.Faulty Club.player
          (.unsupportedOperator "id" .contains .integer) := by
  have distinctNames : (Club.player.fields.map Field.name).Nodup := by
    decide
  have failed :
      compile .sqlite Club.player (some Club.keyIsText) =
        .error (.unsupportedOperator "id" .contains .integer) := rfl
  obtain ⟨fits, fails, -⟩ :=
    compile_fits_or_fails distinctNames .sqlite Club.keyIsText
  refine ⟨distinctNames, ?_, (fails _).mp failed⟩
  intro isFitting
  obtain ⟨predicate, compiled⟩ := fits.mpr isFitting
  rw [failed] at compiled
  exact absurd compiled (by simp)

end RecordQuery
