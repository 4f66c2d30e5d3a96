import RecordQuery.Club.Entities
import RecordQuery.Proofs.Meaning
import RecordQuery.Request.Binding

namespace RecordQuery

/-!
# What a request binds to

Binding checks a request before a criteria exists, and compiling checks a
criteria again.  The invariant `Criteria.IsBoundFrom` of the partly built
criteria says that every populated operand suits the field of its name and was
asked for by a parameter of that name.  Every parameter keeps it, and it
excludes each fault that compilation looks for: a request is either refused as a
client error or its criteria compiles on every dialect.
-/

section

variable {Fault Result Changed : Type}

theorem map_eq_ok_iff
    {change : Result → Changed}
    {outcome : Except Fault Result}
    {changed : Changed} :
    outcome.map change = .ok changed ↔
      ∃ result, outcome = .ok result ∧ change result = changed := by
  cases outcome <;> simp [Except.map]

theorem map_eq_error_iff
    {change : Result → Changed}
    {outcome : Except Fault Result}
    {fault : Fault} :
    outcome.map change = .error fault ↔ outcome = .error fault := by
  cases outcome <;> simp [Except.map]

end

namespace Request

theorem orFault_map_eq_ok_iff
    {Read Result : Type}
    {fault : ParameterFault}
    {change : Read → Result}
    {read : Option Read}
    {result : Result} :
    orFault fault (read.map change) = .ok result ↔
      ∃ found, read = some found ∧ change found = result := by
  cases read <;> simp [orFault]

/-- A value that was read for a kind is accepted by it. -/
theorem accepts_of_value
    {kind : Kind}
    {raw : String}
    {result : Value}
    (wasRead : value kind raw = .ok result) :
    kind.accepts result = true := by
  cases kind <;> simp only [value] at wasRead
  case text =>
    cases wasRead
    rfl
  case boolean =>
    obtain ⟨flag, -, rfl⟩ := map_eq_ok_iff.mp wasRead
    rfl
  case enumeration variants =>
    split at wasRead
    next isVariant =>
      cases wasRead
      exact isVariant
    next =>
      exact absurd wasRead (by simp)
  all_goals
    obtain ⟨found, -, rfl⟩ := orFault_map_eq_ok_iff.mp wasRead
    rfl

theorem accepts_of_values
    {kind : Kind}
    {raws : List String}
    {results : List Value}
    (wereRead : values kind raws = .ok results) :
    ∀ result ∈ results, kind.accepts result = true := by
  induction raws generalizing results with
  | nil =>
      cases wereRead
      intro result member
      exact absurd member List.not_mem_nil
  | cons raw rest inductionHypothesis =>
      rw [values] at wereRead
      cases first : value kind raw with
      | error fault =>
          simp [first] at wereRead
      | ok firstResult =>
          cases others : values kind rest with
          | error fault =>
              simp [first, others] at wereRead
          | ok otherResults =>
              simp only [first, others, Except.ok.injEq] at wereRead
              subst wereRead
              rw [List.forall_mem_cons]
              exact ⟨accepts_of_value first, inductionHypothesis others⟩

/-- The typed values of an operand that was read are accepted by its kind. -/
theorem accepts_of_operand
    {kind : Kind}
    {operator : Operator}
    {raw : String}
    {result : Operand}
    (wasRead : operand kind operator raw = .ok result) :
    ∀ member ∈ result.members, kind.accepts member = true := by
  cases operator <;> simp only [operand] at wasRead
  case specified =>
    obtain ⟨flag, -, rfl⟩ := map_eq_ok_iff.mp wasRead
    intro member isMember
    exact absurd isMember List.not_mem_nil
  case contains =>
    cases wasRead
    intro member isMember
    exact absurd isMember List.not_mem_nil
  case lacks =>
    cases wasRead
    intro member isMember
    exact absurd isMember List.not_mem_nil
  case oneOf =>
    obtain ⟨results, wereRead, rfl⟩ := map_eq_ok_iff.mp wasRead
    exact accepts_of_values wereRead
  case noneOf =>
    obtain ⟨results, wereRead, rfl⟩ := map_eq_ok_iff.mp wasRead
    exact accepts_of_values wereRead
  all_goals
    obtain ⟨single, singleRead, rfl⟩ := map_eq_ok_iff.mp wasRead
    intro member isMember
    rw [List.mem_singleton.mp isMember]
    exact accepts_of_value singleRead

end Request

/-- An operand suits the field of a name: it applies to the field's kind. -/
def Entity.Takes
    (entity : Entity)
    (name : String)
    (operator : Operator)
    (operand : Operand) :
    Prop :=
  ∃ field, entity.field? name = some field ∧
    field.kind.supports operator = true ∧
    ∀ member ∈ operand.members, field.kind.accepts member = true

namespace Parameter

/-- The part of a parameter's name before the first dot. -/
def fieldPart? (parameter : Parameter) : Option String :=
  (Text.cutAt? '.' parameter.name).map Prod.fst

/-- A parameter has the name that asks for an operator on a field. -/
def Names
    (parameter : Parameter)
    (name : String)
    (operator : Operator) :
    Prop :=
  Text.cutAt? '.' parameter.name = some (name, operator.name)

/-- An error names a parameter as the one that is malformed. -/
def IsBlamedBy (parameter : Parameter) (error : QueryError) : Prop :=
  ∃ fault, error = .invalidParameter parameter.name fault

section

variable {Result : Type}
variable {parameter : Parameter}
variable {error : QueryError}

theorem isBlamedBy_of_refuse
    {fault : ParameterFault}
    (refused :
      (parameter.refuse fault : Except QueryError Result) =
        .error error) :
    parameter.IsBlamedBy error := by
  cases refused
  exact ⟨fault, rfl⟩

theorem naming_eq_ok_iff
    {read : Except ParameterFault Result}
    {result : Result} :
    parameter.naming read = .ok result ↔ read = .ok result := by
  cases read <;> simp [naming, refuse]

/-- A reader's fault is blamed on the parameter whose value it read. -/
theorem isBlamedBy_of_naming
    {Changed : Type}
    {change : Result → Changed}
    {read : Except ParameterFault Result}
    (failed : (parameter.naming read).map change = .error error) :
    parameter.IsBlamedBy error := by
  rw [map_eq_error_iff] at failed
  cases read with
  | error fault =>
      exact isBlamedBy_of_refuse failed
  | ok result =>
      exact absurd failed (by simp [naming])

end

/-- Only an operand of the field's kind is asked for. -/
theorem fieldBinding_eq_ok
    {parameter : Parameter}
    {field : Field}
    {operatorName : String}
    {bound : Binding}
    (asked : parameter.fieldBinding field operatorName = .ok bound) :
    ∃ operator operand,
      bound = .operand field operator operand ∧
        operator.name = operatorName ∧
        field.kind.supports operator = true ∧
        Request.operand field.kind operator parameter.value =
          .ok operand := by
  unfold fieldBinding at asked
  split at asked
  next unknown =>
    exact absurd asked (by simp [refuse])
  next operator found =>
    split at asked
    next supported =>
      obtain ⟨operand, named, rfl⟩ := map_eq_ok_iff.mp asked
      exact ⟨operator, operand, rfl, Operator.name_of_ofName? found,
        supported, naming_eq_ok_iff.mp named⟩
    next unsupported =>
      exact absurd asked (by simp [refuse])

/-- An operand that a parameter asks for suits the field that it names. -/
theorem binding_eq_operand
    {entity : Entity}
    {parameter : Parameter}
    {field : Field}
    {operator : Operator}
    {operand : Operand}
    (asked :
      parameter.binding entity = .ok (.operand field operator operand)) :
    parameter.Names field.name operator ∧
      entity.Takes field.name operator operand := by
  unfold binding at asked
  split at asked
  next tooLong =>
    exact absurd asked (by simp [refuse])
  split at asked
  next isDistinct =>
    obtain ⟨flag, -, impossible⟩ := map_eq_ok_iff.mp asked
    exact absurd impossible (by simp)
  split at asked
  next undotted =>
    exact absurd asked (by simp)
  next fieldName operatorName cutHere =>
    split at asked
    next unknown =>
      exact absurd asked (by simp)
    next known found =>
      obtain ⟨_, _, sameBinding, sameName, supported, wasRead⟩ :=
        fieldBinding_eq_ok asked
      cases sameBinding
      have fieldName := Entity.name_of_field? found
      refine ⟨?_, field, ?_, supported,
        Request.accepts_of_operand wasRead⟩
      · rw [Names, cutHere, fieldName, sameName]
      · rw [fieldName, found]

theorem isBlamedBy_of_fieldBinding
    {parameter : Parameter}
    {field : Field}
    {operatorName : String}
    {error : QueryError}
    (failed : parameter.fieldBinding field operatorName = .error error) :
    parameter.IsBlamedBy error := by
  unfold fieldBinding at failed
  split at failed
  · exact isBlamedBy_of_refuse failed
  · split at failed
    · exact isBlamedBy_of_naming failed
    · exact isBlamedBy_of_refuse failed

/-- A parameter that does not make sense is blamed for it. -/
theorem isBlamedBy_of_binding
    {entity : Entity}
    {parameter : Parameter}
    {error : QueryError}
    (failed : parameter.binding entity = .error error) :
    parameter.IsBlamedBy error := by
  unfold binding at failed
  split at failed
  next tooLong =>
    exact isBlamedBy_of_refuse failed
  split at failed
  next isDistinct =>
    exact isBlamedBy_of_naming failed
  split at failed
  next undotted =>
    exact absurd failed (by simp)
  next cutHere =>
    split at failed
    next unknown =>
      exact absurd failed (by simp)
    next known =>
      exact isBlamedBy_of_fieldBinding failed

end Parameter

/-- An error names a parameter of a list, or a field that two of them filter. -/
def QueryError.IsAbout
    (parameters : List Parameter)
    (error : QueryError) :
    Prop :=
  ∃ name fault, error = .invalidParameter name fault ∧
    (name ∈ parameters.map Parameter.name ∨
      ∃ first ∈ parameters, ∃ second ∈ parameters,
        first.name ≠ second.name ∧
          first.fieldPart? = some name ∧
          second.fieldPart? = some name)

theorem Parameter.IsBlamedBy.isAbout
    {parameters : List Parameter}
    {parameter : Parameter}
    {error : QueryError}
    (isBlamed : parameter.IsBlamedBy error)
    (listed : parameter ∈ parameters) :
    error.IsAbout parameters := by
  obtain ⟨fault, rfl⟩ := isBlamed
  exact ⟨parameter.name, fault, rfl, Or.inl (List.mem_map_of_mem listed)⟩

/-- An error about parameters is the client's and not the schema's. -/
theorem QueryError.IsAbout.isClientError
    {parameters : List Parameter}
    {error : QueryError}
    (isAbout : error.IsAbout parameters) :
    error.isClientError = true ∧ error.isSchemaError = false := by
  obtain ⟨name, fault, rfl, -⟩ := isAbout
  exact ⟨rfl, rfl⟩

namespace Filter

theorem mem_getD_append
    {slot : Option (List Value)}
    {added : List Value}
    {value : Value}
    (member : value ∈ slot.getD [] ++ added) :
    value ∈ added ∨ ∃ present, slot = some present ∧ value ∈ present := by
  rcases List.mem_append.mp member with isOld | isNew
  · cases slot with
    | none =>
        exact absurd isOld List.not_mem_nil
    | some present =>
        exact Or.inr ⟨present, rfl, isOld⟩
  · exact Or.inl isNew

/-- A member of an accumulated operand is new or was there for the operator. -/
theorem mem_accumulated
    {filter : Filter}
    {operator : Operator}
    {operand : Operand}
    {value : Value}
    (member : value ∈ (filter.accumulated operator operand).members) :
    value ∈ operand.members ∨
      ∃ present, filter.operand? operator = some present ∧
        value ∈ present.members := by
  cases operator <;> cases operand
  case oneOf.values values =>
    rcases mem_getD_append member with isNew | ⟨present, found, isOld⟩
    · exact Or.inl isNew
    · exact Or.inr ⟨.values present, by simp [operand?, found], isOld⟩
  case noneOf.values values =>
    rcases mem_getD_append member with isNew | ⟨present, found, isOld⟩
    · exact Or.inl isNew
    · exact Or.inr ⟨.values present, by simp [operand?, found], isOld⟩
  all_goals
    exact Or.inl member

/-- A typed value of a filter is a member of the operand of its operator. -/
theorem operand?_of_mem_values
    {filter : Filter}
    {operator : Operator}
    {value : Value}
    (listed : (operator, value) ∈ filter.values) :
    ∃ operand, filter.operand? operator = some operand ∧
      value ∈ operand.members := by
  rw [values_eq] at listed
  obtain ⟨other, -, valueOfOther⟩ := List.mem_flatMap.mp listed
  unfold valuesOf at valueOfOther
  split at valueOfOther
  next notPopulated =>
    exact absurd valueOfOther List.not_mem_nil
  next operand populated =>
    obtain ⟨member, isMember, samePair⟩ := List.mem_map.mp valueOfOther
    cases samePair
    exact ⟨operand, populated, isMember⟩

/-- Operators that do not go together are at least two. -/
theorem exists_operators_of_fault?
    {filter : Filter}
    {fault : FilterFault}
    (faulty : filter.fault? = some fault) :
    ∃ first ∈ filter.operators, ∃ second ∈ filter.operators,
      first ≠ second := by
  simp only [fault?] at faulty
  split at faulty
  next notAlone =>
    rw [Bool.and_eq_true, decide_eq_true_iff] at notAlone
    have several := notAlone.2
    have distinct : filter.operators.Nodup := filter.nodup_operators
    exact ⟨filter.operators[0], List.getElem_mem _,
      filter.operators[1], List.getElem_mem _,
      List.pairwise_iff_getElem.mp distinct 0 1 _ _ Nat.zero_lt_one⟩
  next =>
    split at faulty
    next mixed =>
      rw [Bool.and_eq_true, List.any_eq_true, List.any_eq_true] at mixed
      obtain ⟨⟨range, rangeMember, isRange⟩,
        ⟨substring, substringMember, isSubstring⟩⟩ := mixed
      refine ⟨range, rangeMember, substring, substringMember, ?_⟩
      rintro rfl
      cases range <;> first
        | exact absurd isRange Bool.false_ne_true
        | exact absurd isSubstring Bool.false_ne_true
    next =>
      exact absurd faulty (by simp)

end Filter

namespace Criteria

/-- The operand that a criteria holds for an operator of a field. -/
def operandOn?
    (criteria : Criteria)
    (name : String)
    (operator : Operator) :
    Option Operand :=
  (criteria.filterOrEmpty name).operand? operator

/-- A criteria that can be put together from some parameters for an entity. -/
structure IsBoundFrom
    (entity : Entity)
    (parameters : List Parameter)
    (criteria : Criteria) :
    Prop where
  /-- Every operand suits the field of its name. -/
  taken :
    ∀ name operator operand,
      criteria.operandOn? name operator = some operand →
        entity.Takes name operator operand
  /-- Every operand was asked for by name. -/
  named :
    ∀ name operator operand,
      criteria.operandOn? name operator = some operand →
        ∃ parameter ∈ parameters, parameter.Names name operator

@[simp] theorem operandOn?_empty (name : String) (operator : Operator) :
    empty.operandOn? name operator = none :=
  Filter.operand?_empty operator

@[simp] theorem operandOn?_insert
    (criteria : Criteria)
    (field name : String)
    (filter : Filter)
    (operator : Operator) :
    (criteria.insert field filter).operandOn? name operator =
      if field = name then
        filter.operand? operator
      else
        criteria.operandOn? name operator := by
  unfold operandOn? filterOrEmpty
  rw [filter?_insert]
  split <;> rfl

/-- What a bound operand changes: its own place, to the accumulated operand. -/
theorem operandOn?_bindOperand
    {criteria changed : Criteria}
    {parameter : Parameter}
    {field : Field}
    {operator : Operator}
    {operand : Operand}
    (succeeded :
      criteria.bindOperand parameter field operator operand = .ok changed)
    (name : String)
    (other : Operator) :
    changed.operandOn? name other =
      if field.name = name ∧ operator = other then
        some ((criteria.filterOrEmpty field.name).accumulated
          operator operand)
      else
        criteria.operandOn? name other := by
  simp only [bindOperand] at succeeded
  split at succeeded
  next tooMany =>
    exact absurd succeeded (by simp [Parameter.refuse])
  split at succeeded
  next filter set =>
    cases succeeded
    rw [operandOn?_insert, Filter.operand?_set set]
    by_cases sameField : field.name = name
    · subst sameField
      simp [operandOn?]
    · simp [sameField]
  next =>
    exact absurd succeeded (by simp [Parameter.refuse])

theorem isBlamedBy_of_bindOperand
    {criteria : Criteria}
    {parameter : Parameter}
    {field : Field}
    {operator : Operator}
    {operand : Operand}
    {error : QueryError}
    (failed :
      criteria.bindOperand parameter field operator operand =
        .error error) :
    parameter.IsBlamedBy error := by
  simp only [bindOperand] at failed
  split at failed
  next tooMany =>
    exact Parameter.isBlamedBy_of_refuse failed
  split at failed
  next set =>
    exact absurd failed (by simp)
  next notSet =>
    exact Parameter.isBlamedBy_of_refuse failed

section

variable {entity : Entity}
variable {parameters : List Parameter}
variable {criteria : Criteria}

theorem isBoundFrom_empty : empty.IsBoundFrom entity parameters where
  taken := by simp
  named := by simp

/-- The operand of a parameter keeps a criteria bound. -/
theorem IsBoundFrom.bindOperand
    {changed : Criteria}
    {parameter : Parameter}
    {field : Field}
    {operator : Operator}
    {operand : Operand}
    (isBound : criteria.IsBoundFrom entity parameters)
    (listed : parameter ∈ parameters)
    (names : parameter.Names field.name operator)
    (takes : entity.Takes field.name operator operand)
    (succeeded :
      criteria.bindOperand parameter field operator operand =
        .ok changed) :
    changed.IsBoundFrom entity parameters := by
  constructor
  · intro name other present populated
    rw [operandOn?_bindOperand succeeded] at populated
    split at populated
    next itself =>
      obtain ⟨rfl, rfl⟩ := itself
      cases populated
      obtain ⟨known, found, supported, accepted⟩ := takes
      refine ⟨known, found, supported, ?_⟩
      intro member isMember
      rcases Filter.mem_accumulated isMember with
        isNew | ⟨before, wasPopulated, isOld⟩
      · exact accepted member isNew
      · obtain ⟨same, foundSame, -, acceptedBefore⟩ :=
          isBound.taken _ _ _ wasPopulated
        cases found.symm.trans foundSame
        exact acceptedBefore member isOld
    next elsewhere =>
      exact isBound.taken _ _ _ populated
  · intro name other present populated
    rw [operandOn?_bindOperand succeeded] at populated
    split at populated
    next itself =>
      obtain ⟨rfl, rfl⟩ := itself
      exact ⟨parameter, listed, names⟩
    next elsewhere =>
      exact isBound.named _ _ _ populated

/--
Binding a list of parameters ends with a criteria that is bound from them, or
with an error that is blamed on one of them.
-/
theorem IsBoundFrom.bindAll
    {rest : List Parameter}
    (isBound : criteria.IsBoundFrom entity parameters)
    (listed : ∀ parameter ∈ rest, parameter ∈ parameters) :
    (∃ bound,
      (Criteria.bindAll entity criteria rest).result = .ok bound ∧
        bound.IsBoundFrom entity parameters) ∨
    (∃ error,
      (Criteria.bindAll entity criteria rest).result = .error error ∧
        error.IsAbout parameters) := by
  -- The criteria grows with the parameters, so it is kept general.
  induction rest generalizing criteria with
  | nil =>
      exact Or.inl ⟨criteria, rfl, isBound⟩
  | cons parameter rest inductionHypothesis =>
      rw [List.forall_mem_cons] at listed
      rw [Criteria.bindAll]
      cases asked : parameter.binding entity with
      | error error =>
          have isBlamed := Parameter.isBlamedBy_of_binding asked
          exact Or.inr ⟨error, rfl, isBlamed.isAbout listed.1⟩
      | ok bound =>
          cases bound with
          | ignored event =>
              exact inductionHypothesis isBound listed.2
          | distinct flag =>
              have stillBound :
                  (criteria.setDistinct (some flag)).IsBoundFrom entity
                    parameters :=
                ⟨isBound.taken, isBound.named⟩
              exact inductionHypothesis stillBound listed.2
          | operand field operator operand =>
              obtain ⟨names, takes⟩ :=
                Parameter.binding_eq_operand asked
              dsimp only
              cases added :
                criteria.bindOperand parameter field operator operand with
              | error error =>
                  have isBlamed := isBlamedBy_of_bindOperand added
                  exact Or.inr ⟨error, rfl, isBlamed.isAbout listed.1⟩
              | ok changed =>
                  exact inductionHypothesis
                    (isBound.bindOperand listed.1 names takes added)
                    listed.2

theorem operandOn?_of_mem_fields
    {name : String}
    {filter : Filter}
    (member : (name, filter) ∈ criteria.fields)
    (operator : Operator) :
    criteria.operandOn? name operator = filter.operand? operator := by
  obtain ⟨present, -⟩ :=
    (Option.filter_eq_some_iff).mp (mem_fields_iff.mp member)
  simp [operandOn?, filterOrEmpty, present]

/-- A populated operator of a bound criteria was asked for by a parameter. -/
theorem IsBoundFrom.exists_parameter
    {name : String}
    {filter : Filter}
    {operator : Operator}
    (isBound : criteria.IsBoundFrom entity parameters)
    (member : (name, filter) ∈ criteria.fields)
    (populated : operator ∈ filter.operators) :
    ∃ parameter ∈ parameters, parameter.Names name operator := by
  obtain ⟨operand, isOperand⟩ :=
    Option.isSome_iff_exists.mp (Filter.mem_operators.mp populated)
  rw [← operandOn?_of_mem_fields member] at isOperand
  exact isBound.named _ _ _ isOperand

/-- Operators that do not go together come from two parameters of one field. -/
theorem IsBoundFrom.isAbout_of_mixed?
    {error : QueryError}
    (isBound : criteria.IsBoundFrom entity parameters)
    (mixed : criteria.mixed? = some error) :
    error.IsAbout parameters := by
  obtain ⟨⟨name, filter⟩, member, made⟩ :=
    List.exists_of_findSome?_eq_some mixed
  obtain ⟨fault, faulty, rfl⟩ := Option.map_eq_some_iff.mp made
  obtain ⟨firstOperator, firstPopulated, secondOperator, secondPopulated,
    different⟩ := Filter.exists_operators_of_fault? faulty
  obtain ⟨first, firstListed, firstNames⟩ :=
    isBound.exists_parameter member firstPopulated
  obtain ⟨second, secondListed, secondNames⟩ :=
    isBound.exists_parameter member secondPopulated
  refine ⟨name, .mixedOperators fault, rfl, ?_⟩
  right
  refine ⟨first, firstListed, second, secondListed, ?_, ?_, ?_⟩
  · intro sameName
    unfold Parameter.Names at firstNames secondNames
    rw [sameName, secondNames, Option.some.injEq, Prod.mk.injEq]
      at firstNames
    have same := Operator.ofName?_name firstOperator
    rw [← firstNames.2, Operator.ofName?_name, Option.some.injEq] at same
    exact different same.symm
  · rw [Parameter.fieldPart?, firstNames, Option.map_some]
  · rw [Parameter.fieldPart?, secondNames, Option.map_some]

/-- A bound criteria constrains only fields that the entity has. -/
theorem IsBoundFrom.field?_isSome
    {entry : String × Filter}
    (isBound : criteria.IsBoundFrom entity parameters)
    (member : entry ∈ criteria.fields) :
    (entity.field? entry.1).isSome := by
  obtain ⟨name, filter⟩ := entry
  have notEmpty : filter.operators ≠ [] := by
    simpa [Filter.isEmpty] using (List.mem_filter.mp member).2
  obtain ⟨operator, populated⟩ := List.exists_mem_of_ne_nil _ notEmpty
  obtain ⟨operand, isOperand⟩ :=
    Option.isSome_iff_exists.mp (Filter.mem_operators.mp populated)
  rw [← operandOn?_of_mem_fields member] at isOperand
  obtain ⟨field, found, -⟩ := isBound.taken _ _ _ isOperand
  simp [found]

/-- A bound criteria without mixed operators is at fault with no field. -/
theorem IsBoundFrom.faultOn?_eq_none
    {field : Field}
    (isBound : criteria.IsBoundFrom entity parameters)
    (notMixed : criteria.mixed? = none)
    (found : entity.field? field.name = some field) :
    criteria.faultOn? field = none := by
  cases populated : criteria.populated? field.name with
  | none =>
      simp [faultOn?, populated]
  | some filter =>
      have member := mem_fields_iff.mpr populated
      have taken (operator : Operator) (operand : Operand)
          (isOperand : filter.operand? operator = some operand) :
          field.kind.supports operator = true ∧
            ∀ value ∈ operand.members, field.kind.accepts value = true := by
        rw [← operandOn?_of_mem_fields member] at isOperand
        obtain ⟨same, foundSame, takes⟩ := isBound.taken _ _ _ isOperand
        cases found.symm.trans foundSame
        exact takes
      have goTogether : filter.fault? = none := by
        have notAtFault :=
          List.findSome?_eq_none_iff.mp notMixed _ member
        simpa using notAtFault
      have supported : field.unsupported? filter = none := by
        rw [Field.unsupported?, List.find?_eq_none]
        intro operator isPopulated
        obtain ⟨operand, isOperand⟩ :=
          Option.isSome_iff_exists.mp (Filter.mem_operators.mp isPopulated)
        simp [(taken operator operand isOperand).1]
      have accepted : field.unaccepted? filter = none := by
        rw [Field.unaccepted?, Option.map_eq_none_iff, List.find?_eq_none]
        rintro ⟨operator, value⟩ listed
        obtain ⟨operand, isOperand, isMember⟩ :=
          Filter.operand?_of_mem_values listed
        simp [(taken operator operand isOperand).2 value isMember]
      simp [faultOn?, populated, Field.fault?, goTogether, supported,
        accepted]

/-- A bound criteria without mixed operators compiles on every dialect. -/
theorem IsBoundFrom.compile
    (isBound : criteria.IsBoundFrom entity parameters)
    (distinctNames : (entity.fields.map Field.name).Nodup)
    (notMixed : criteria.mixed? = none)
    (dialect : Sql.Dialect) :
    RecordQuery.compile dialect entity (some criteria) =
      .ok (criteria.predicate dialect entity) := by
  refine (compile_eq_ok_iff _ _ _ _).mpr ⟨?_, ?_, rfl⟩
  · intro entry member
    exact isBound.field?_isSome member
  · intro field member
    have found := Entity.field?_name distinctNames member
    exact isBound.faultOn?_eq_none notMixed found

end

end Criteria

/--
A list of request parameters is refused as a client error, for a parameter of
its own or for a field that two of them filter, or its criteria compiles for the
entity on every dialect.
-/
theorem ofParameters_refused_or_compiles
    {entity : Entity}
    (distinctNames : (entity.fields.map Field.name).Nodup)
    (parameters : List Parameter) :
    (∃ error,
      (Criteria.ofParameters entity parameters).result = .error error ∧
        error.IsAbout parameters ∧
        error.isClientError = true ∧
        error.isSchemaError = false) ∨
    ∃ criteria,
      (Criteria.ofParameters entity parameters).result = .ok criteria ∧
        ∀ dialect, ∃ predicate,
          compile dialect entity (some criteria) = .ok predicate := by
  simp only [Criteria.ofParameters, Traced.map]
  rcases Criteria.isBoundFrom_empty.bindAll
      (fun parameter (listed : parameter ∈ parameters) => listed) with
    ⟨criteria, ran, isBound⟩ | ⟨error, ran, isAbout⟩
  · rw [ran]
    cases mixed : criteria.mixed? with
    | none =>
        right
        refine ⟨criteria, ?_, ?_⟩
        · simp [Except.bind, Criteria.checked, mixed]
        · intro dialect
          exact ⟨_, isBound.compile distinctNames mixed dialect⟩
    | some error =>
        left
        have isAbout := isBound.isAbout_of_mixed? mixed
        refine ⟨error, ?_, isAbout, isAbout.isClientError⟩
        simp [Except.bind, Criteria.checked, mixed]
  · left
    rw [ran]
    exact ⟨error, rfl, isAbout, isAbout.isClientError⟩

/-- Parameters that ask for an early and a missing time of a match. -/
def Club.mixedTimes : List Parameter :=
  [ ⟨"matchTime.lessThan", "2024-05-01T10:00:00Z"⟩,
    ⟨"matchTime.specified", "false"⟩ ]

/-- The parameters of the club's challenges are refused or compile. -/
theorem ofParameters_mixedTimes :
    (Club.challenge.fields.map Field.name).Nodup ∧
      ((∃ error,
        (Criteria.ofParameters Club.challenge Club.mixedTimes).result =
            .error error ∧
          error.IsAbout Club.mixedTimes ∧
          error.isClientError = true ∧
          error.isSchemaError = false) ∨
      ∃ criteria,
        (Criteria.ofParameters Club.challenge Club.mixedTimes).result =
            .ok criteria ∧
          ∀ dialect, ∃ predicate,
            compile dialect Club.challenge (some criteria) =
              .ok predicate) :=
  ⟨by decide, ofParameters_refused_or_compiles (by decide) _⟩

end RecordQuery
