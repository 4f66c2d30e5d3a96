import RecordQuery.Proofs.Faults

namespace RecordQuery

/-!
# The criteria that a request asks for

Each parameter of a request can be read by itself: it is a flag for the distinct
hint, an operand for an operator of a field, or neither.  A request is well
formed when all its parameters are readable and its operands go together, and
exactly then it has a criteria, which holds what the parameters ask for
together: the members of all sets in their order, and otherwise the last
operand.  Since binding goes through the parameters one by one, it is followed
by the invariant `Criteria.Collects` of the parameters done so far.
-/

namespace Parameter

/-- The operand that a parameter gives to an operator of a field. -/
def operandFor?
    (entity : Entity)
    (name : String)
    (operator : Operator)
    (parameter : Parameter) :
    Option Operand :=
  if Text.cutAt? '.' parameter.name = some (name, operator.name) then
    (entity.field? name).bind fun field =>
      (Request.operand field.kind operator parameter.value).toOption
  else
    none

/-- The flag that a parameter gives to the distinct hint. -/
def flag? (parameter : Parameter) : Option Bool :=
  if parameter.name = distinctName then
    (Request.boolean parameter.value).toOption
  else
    none

/-- A parameter that asks for something that can be done, or for nothing. -/
structure IsReadable (entity : Entity) (parameter : Parameter) : Prop where
  short : parameter.value.utf8ByteSize ≤ maxValueBytes
  flag :
    parameter.name = distinctName →
      ∃ flag,
        Text.lowerAscii (Text.trim parameter.value) = boolText flag
  operand :
    ∀ name rest field,
      Text.cutAt? '.' parameter.name = some (name, rest) →
        entity.field? name = some field →
          ∃ operator operand, operator.name = rest ∧
            field.kind.supports operator = true ∧
              Request.operand field.kind operator parameter.value =
                .ok operand

end Parameter

namespace Request

section

variable (entity : Entity)
variable (parameters : List Parameter)

/-- The operands for an operator of a field, in the order of a request. -/
def operandsFor (name : String) (operator : Operator) : List Operand :=
  parameters.filterMap (Parameter.operandFor? entity name operator)

/-- The flags for the distinct hint, in the order of a request. -/
def flags : List Bool :=
  parameters.filterMap Parameter.flag?

/-- No set of a field has too many members, of all its parameters together. -/
def KeepsSetsSmall : Prop :=
  ∀ name operator, operator.isSet = true →
    ((operandsFor entity parameters name operator).flatMap
      Operand.members).length ≤ maxSetSize

/-- A request that has a criteria. -/
structure IsWellFormed : Prop where
  readable : ∀ parameter ∈ parameters, parameter.IsReadable entity
  small : KeepsSetsSmall entity parameters
  specifiedAlone :
    ∀ name operator,
      operandsFor entity parameters name .specified ≠ [] →
        operandsFor entity parameters name operator ≠ [] →
          operator = .specified

end

end Request

/-- Operands of one operator as one: sets together, otherwise the last one. -/
def Operator.combined (operator : Operator) (operands : List Operand) :
    Option Operand :=
  if operator.isSet && !operands.isEmpty then
    some (.values (operands.flatMap Operand.members))
  else
    operands.getLast?

/-- A criteria that holds what the parameters of a request ask for. -/
structure Criteria.Collects
    (entity : Entity)
    (parameters : List Parameter)
    (criteria : Criteria) :
    Prop where
  operands :
    ∀ name operator,
      criteria.operandOn? name operator =
        operator.combined
          (Request.operandsFor entity parameters name operator)
  distinct : criteria.distinct = (Request.flags parameters).getLast?
  noneEmpty :
    ∀ name filter, criteria.filter? name = some filter →
      filter.isEmpty = false
  named :
    ∀ name filter, criteria.filter? name = some filter →
      ∃ operator,
        Request.operandsFor entity parameters name operator ≠ []

namespace Operator

theorem name_injective
    {left right : Operator}
    (same : left.name = right.name) :
    left = right := by
  rw [← Option.some.injEq, ← ofName?_name left, same, ofName?_name]

variable {operator : Operator}

@[simp] theorem combined_nil : operator.combined [] = none := by
  simp [combined]

theorem combined_of_isSet
    (isSet : operator.isSet = true)
    {operands : List Operand}
    (notEmpty : operands ≠ []) :
    operator.combined operands =
      some (.values (operands.flatMap Operand.members)) := by
  simp [combined, isSet, notEmpty]

theorem combined_append_of_not_isSet
    (notSet : operator.isSet = false)
    (operands : List Operand)
    (operand : Operand) :
    operator.combined (operands ++ [operand]) = some operand := by
  simp [combined, notSet]

theorem isSome_combined {operands : List Operand} :
    (operator.combined operands).isSome = true ↔ operands ≠ [] := by
  unfold combined
  split
  next isSet =>
    rw [Bool.and_eq_true] at isSet
    simpa using isSet.2
  · simp

end Operator

namespace Request

theorem boolean_eq_ok_iff {raw : String} {flag : Bool} :
    boolean raw = .ok flag ↔
      Text.lowerAscii (Text.trim raw) = boolText flag := by
  unfold boolean
  dsimp only
  split
  next isTrue =>
    rw [isTrue]
    cases flag <;> simp [boolText]
  next notTrue =>
    split
    next isFalse =>
      rw [isFalse]
      cases flag <;> simp [boolText]
    next notFalse =>
      cases flag <;> simp [boolText, notTrue, notFalse]

section

variable {entity : Entity}
variable {parameters : List Parameter}

theorem operandsFor_append
    (name : String)
    (operator : Operator)
    (parameter : Parameter) :
    operandsFor entity (parameters ++ [parameter]) name operator =
      operandsFor entity parameters name operator ++
        (parameter.operandFor? entity name operator).toList := by
  rw [operandsFor, List.filterMap_append, operandsFor]
  cases asked : parameter.operandFor? entity name operator <;>
    simp [asked]

theorem flags_append (parameter : Parameter) :
    flags (parameters ++ [parameter]) =
      flags parameters ++ parameter.flag?.toList := by
  rw [flags, List.filterMap_append, flags]
  cases asked : parameter.flag? <;>
    simp [asked]

theorem operandsFor_of_noOperand
    {parameter : Parameter}
    (noOperand :
      ∀ name operator, parameter.operandFor? entity name operator = none)
    (name : String)
    (operator : Operator) :
    operandsFor entity (parameters ++ [parameter]) name operator =
      operandsFor entity parameters name operator := by
  rw [operandsFor_append, noOperand, Option.toList_none, List.append_nil]

theorem KeepsSetsSmall.of_noOperand
    {parameter : Parameter}
    (small : KeepsSetsSmall entity parameters)
    (noOperand :
      ∀ name operator,
        parameter.operandFor? entity name operator = none) :
    KeepsSetsSmall entity (parameters ++ [parameter]) := by
  intro name operator isSet
  rw [operandsFor_of_noOperand noOperand]
  exact small name operator isSet

/-- With more parameters a set only grows. -/
theorem KeepsSetsSmall.of_append
    {others : List Parameter}
    (small : KeepsSetsSmall entity (parameters ++ others)) :
    KeepsSetsSmall entity parameters := by
  intro name operator isSet
  have keeps := small name operator isSet
  rw [operandsFor, List.filterMap_append, List.flatMap_append,
    List.length_append] at keeps
  exact Nat.le_trans (Nat.le_add_right _ _) keeps

end

end Request

namespace Parameter

/-- What a parameter may turn out to be when it is read. -/
inductive Means (entity : Entity) (parameter : Parameter) :
    Except QueryError Binding → Prop where
  | refused
      {error : QueryError}
      (unreadable : ¬parameter.IsReadable entity) :
      Means entity parameter (.error error)
  | ignored
      {event : Event}
      (readable : parameter.IsReadable entity)
      (noFlag : parameter.flag? = none)
      (noOperand :
        ∀ name operator,
          parameter.operandFor? entity name operator = none) :
      Means entity parameter (.ok (.ignored event))
  | distinct
      {flag : Bool}
      (readable : parameter.IsReadable entity)
      (isFlag : parameter.flag? = some flag)
      (noOperand :
        ∀ name operator,
          parameter.operandFor? entity name operator = none) :
      Means entity parameter (.ok (.distinct flag))
  | operand
      {field : Field}
      {operator : Operator}
      {operand : Operand}
      (readable : parameter.IsReadable entity)
      (noFlag : parameter.flag? = none)
      (isOperand :
        ∀ name other,
          parameter.operandFor? entity name other =
            if field.name = name ∧ operator = other then
              some operand
            else
              none)
      (fits : operand.fits operator = true) :
      Means entity parameter (.ok (.operand field operator operand))

variable {entity : Entity}
variable {parameter : Parameter}

theorem operandFor?_of_cutAt?_eq_none
    (undotted : Text.cutAt? '.' parameter.name = none)
    (name : String)
    (operator : Operator) :
    parameter.operandFor? entity name operator = none := by
  rw [operandFor?, undotted, if_neg (by simp)]

/-- The hint is named without a dot, so no field is. -/
theorem cutAt?_of_name_eq_distinctName
    (isDistinct : parameter.name = distinctName) :
    Text.cutAt? '.' parameter.name = none := by
  rw [isDistinct]
  rfl

theorem means_of_distinctName
    (short : parameter.value.utf8ByteSize ≤ maxValueBytes)
    (isDistinct : parameter.name = distinctName) :
    parameter.Means entity
      ((parameter.naming (Request.boolean parameter.value)).map
        .distinct) := by
  have undotted := cutAt?_of_name_eq_distinctName isDistinct
  cases read : Request.boolean parameter.value with
  | error fault =>
      apply Means.refused
      intro readable
      obtain ⟨flag, isFlag⟩ := readable.flag isDistinct
      rw [← Request.boolean_eq_ok_iff, read] at isFlag
      exact absurd isFlag (by simp)
  | ok flag =>
      refine Means.distinct ⟨short, ?_, ?_⟩ ?_
        (operandFor?_of_cutAt?_eq_none undotted)
      · intro _
        exact ⟨flag, Request.boolean_eq_ok_iff.mp read⟩
      · intro name rest field cutHere
        rw [undotted] at cutHere
        exact absurd cutHere (by simp)
      · rw [flag?, if_pos isDistinct, read]
        rfl

theorem means_of_field
    {field : Field}
    {operatorName : String}
    (short : parameter.value.utf8ByteSize ≤ maxValueBytes)
    (notDistinct : parameter.name ≠ distinctName)
    (cutHere :
      Text.cutAt? '.' parameter.name = some (field.name, operatorName))
    (known : entity.field? field.name = some field) :
    parameter.Means entity
      (parameter.fieldBinding field operatorName) := by
  cases asked : parameter.fieldBinding field operatorName with
  | error error =>
      apply Means.refused
      intro readable
      obtain ⟨operator, operand, rfl, supported, read⟩ :=
        readable.operand _ _ _ cutHere known
      simp [fieldBinding, supported, read, naming, Except.map] at asked
  | ok bound =>
      obtain ⟨operator, operand, rfl, rfl, supported, read⟩ :=
        fieldBinding_eq_ok asked
      refine Means.operand ⟨short, ?_, ?_⟩ ?_ ?_ (Request.operand_fits read)
      · intro isDistinct
        exact absurd isDistinct notDistinct
      · intro name rest other cutAgain otherKnown
        rw [cutHere, Option.some.injEq, Prod.mk.injEq] at cutAgain
        obtain ⟨rfl, rfl⟩ := cutAgain
        rw [known, Option.some.injEq] at otherKnown
        subst otherKnown
        exact ⟨operator, operand, rfl, supported, read⟩
      · rw [flag?, if_neg notDistinct]
      · intro name other
        have sameName :
            some (field.name, operator.name) = some (name, other.name) ↔
              field.name = name ∧ operator = other := by
          rw [Option.some.injEq, Prod.mk.injEq]
          refine and_congr_right fun _ => ⟨Operator.name_injective, ?_⟩
          rintro rfl
          rfl
        rw [operandFor?, cutHere]
        simp only [sameName]
        split
        next itself =>
          obtain ⟨rfl, rfl⟩ := itself
          rw [known, Option.bind_some, read]
          rfl
        · rfl

/-- What a parameter is bound to is what it means. -/
theorem means_binding : parameter.Means entity (parameter.binding entity) := by
  unfold binding
  split
  next tooLong =>
    apply Means.refused
    intro readable
    exact absurd readable.short (Nat.not_le.mpr tooLong)
  next short =>
    rw [Nat.not_lt] at short
    split
    next isDistinct =>
      exact means_of_distinctName short isDistinct
    next notDistinct =>
      have noFlag : parameter.flag? = none := by
        rw [flag?, if_neg notDistinct]
      split
      next undotted =>
        refine Means.ignored ⟨short, ?_, ?_⟩ noFlag
          (operandFor?_of_cutAt?_eq_none undotted)
        · intro isDistinct
          exact absurd isDistinct notDistinct
        · intro name rest field cutHere
          rw [undotted] at cutHere
          exact absurd cutHere (by simp)
      next fieldName operatorName cutHere =>
        split
        next unknown =>
          refine Means.ignored ⟨short, ?_, ?_⟩ noFlag ?_
          · intro isDistinct
            exact absurd isDistinct notDistinct
          · intro name rest field cutAgain known
            rw [cutHere, Option.some.injEq, Prod.mk.injEq] at cutAgain
            rw [← cutAgain.1, unknown] at known
            exact absurd known (by simp)
          · intro name operator
            rw [operandFor?, cutHere]
            split
            next same =>
              rw [Option.some.injEq, Prod.mk.injEq] at same
              rw [← same.1, unknown]
              rfl
            · rfl
        next field known =>
          obtain rfl := Entity.name_of_field? known
          exact means_of_field short notDistinct cutHere known

end Parameter

namespace Filter

variable {filter : Filter}
variable {operator : Operator}
variable {operand : Operand}
variable {operands : List Operand}

theorem accumulated_of_isSet
    (isSet : operator.isSet = true)
    (fits : operand.fits operator = true) :
    filter.accumulated operator operand =
      .values
        ((filter.operand? operator).elim [] Operand.members ++
          operand.members) := by
  cases operator <;> cases isSet <;> cases operand <;> cases fits
  case oneOf.refl.values.refl values =>
    cases slot : filter.oneOf <;>
      simp [accumulated, operand?, slot, Operand.members]
  case noneOf.refl.values.refl values =>
    cases slot : filter.noneOf <;>
      simp [accumulated, operand?, slot, Operand.members]

theorem accumulated_of_not_isSet
    (notSet : operator.isSet = false) :
    filter.accumulated operator operand = operand := by
  cases operator <;> cases notSet <;> rfl

/-- Accumulating puts one more operand together with those before it. -/
theorem accumulated_eq_combined
    (fits : operand.fits operator = true)
    (held : filter.operand? operator = operator.combined operands) :
    some (filter.accumulated operator operand) =
      operator.combined (operands ++ [operand]) := by
  cases isSet : operator.isSet with
  | false =>
      rw [Operator.combined_append_of_not_isSet isSet,
        accumulated_of_not_isSet isSet]
  | true =>
      rw [Operator.combined_of_isSet isSet (by simp),
        accumulated_of_isSet isSet fits, held, List.flatMap_append,
        List.flatMap_singleton]
      cases operands with
      | nil =>
          rw [Operator.combined_nil]
          rfl
      | cons first rest =>
          -- The members so far are one operand by now.
          rw [Operator.combined_of_isSet isSet (by simp)]
          rfl

theorem length_members_accumulated
    (fits : operand.fits operator = true)
    (held : filter.operand? operator = operator.combined operands) :
    (filter.accumulated operator operand).members.length ≤ maxSetSize ↔
      (operator.isSet = true →
        ((operands ++ [operand]).flatMap Operand.members).length ≤
          maxSetSize) := by
  have combined := accumulated_eq_combined fits held
  cases isSet : operator.isSet with
  | true =>
      rw [Operator.combined_of_isSet isSet (by simp),
        Option.some.injEq] at combined
      rw [combined]
      simp [Operand.members]
  | false =>
      rw [Operator.combined_append_of_not_isSet isSet,
        Option.some.injEq] at combined
      rw [combined]
      refine iff_of_true ?_ (by simp)
      cases operand with
      | values values =>
          rw [Operand.fits, isSet] at fits
          exact absurd fits (by simp)
      | value value =>
          exact (by decide : 1 ≤ maxSetSize)
      | flag flag =>
          exact Nat.zero_le _
      | substring substring =>
          exact Nat.zero_le _

theorem fits_accumulated
    (fits : operand.fits operator = true) :
    (filter.accumulated operator operand).fits operator = true := by
  cases operator <;> cases operand <;> exact fits

end Filter

theorem Filter.isEmpty_eq_false_iff {filter : Filter} :
    filter.isEmpty = false ↔ ∃ operator, filter.Populates operator := by
  simp only [isEmpty, List.isEmpty_eq_false_iff_exists_mem, mem_operators,
    Populates]

namespace Criteria

section

variable {criteria changed : Criteria}
variable {parameter : Parameter}
variable {field : Field}
variable {operator : Operator}
variable {operand : Operand}

/-- Binding an operand fails only for a set with too many members. -/
theorem bindOperand_isOk_iff
    (fits : operand.fits operator = true) :
    (∃ changed,
        criteria.bindOperand parameter field operator operand =
          .ok changed) ↔
      ((criteria.filterOrEmpty field.name).accumulated
        operator operand).members.length ≤ maxSetSize := by
  obtain ⟨filter, set⟩ :=
    (Filter.set_isOk_iff (criteria.filterOrEmpty field.name) operator
      _).mpr (Filter.fits_accumulated fits)
  unfold bindOperand
  dsimp only
  split
  next tooMany =>
    simp [Parameter.refuse, Nat.not_le.mpr tooMany]
  next few =>
    rw [set]
    simp [Nat.not_lt.mp few]

theorem bindOperand_eq_ok
    (succeeded :
      criteria.bindOperand parameter field operator operand =
        .ok changed) :
    ∃ filter,
      (criteria.filterOrEmpty field.name).set operator
          ((criteria.filterOrEmpty field.name).accumulated
            operator operand) = .ok filter ∧
        changed = criteria.insert field.name filter := by
  simp only [bindOperand] at succeeded
  split at succeeded
  next tooMany =>
    exact absurd succeeded (by simp [Parameter.refuse])
  split at succeeded
  next filter set =>
    cases succeeded
    exact ⟨filter, set, rfl⟩
  next =>
    exact absurd succeeded (by simp [Parameter.refuse])

end

namespace Collects

variable {entity : Entity}
variable {done : List Parameter}
variable {criteria : Criteria}
variable {parameter : Parameter}

theorem start : empty.Collects entity [] where
  operands := by
    intro name operator
    rw [operandOn?_empty]
    exact Operator.combined_nil.symm
  distinct := rfl
  noneEmpty := by
    intro name filter present
    cases present
  named := by
    intro name filter present
    cases present

theorem ignored
    (collects : criteria.Collects entity done)
    (noFlag : parameter.flag? = none)
    (noOperand :
      ∀ name operator,
        parameter.operandFor? entity name operator = none) :
    criteria.Collects entity (done ++ [parameter]) where
  operands := by
    intro name operator
    rw [Request.operandsFor_of_noOperand noOperand]
    exact collects.operands name operator
  distinct := by
    rw [Request.flags_append, noFlag, Option.toList_none, List.append_nil]
    exact collects.distinct
  noneEmpty := collects.noneEmpty
  named := by
    intro name filter present
    simp only [Request.operandsFor_of_noOperand noOperand]
    exact collects.named name filter present

theorem setDistinct
    {flag : Bool}
    (collects : criteria.Collects entity done)
    (isFlag : parameter.flag? = some flag)
    (noOperand :
      ∀ name operator,
        parameter.operandFor? entity name operator = none) :
    (criteria.setDistinct (some flag)).Collects entity
      (done ++ [parameter]) where
  operands := by
    intro name operator
    rw [Request.operandsFor_of_noOperand noOperand]
    exact collects.operands name operator
  distinct := by
    rw [Request.flags_append, isFlag, Option.toList_some,
      List.getLast?_concat]
    rfl
  noneEmpty := collects.noneEmpty
  named := by
    intro name filter present
    simp only [Request.operandsFor_of_noOperand noOperand]
    exact collects.named name filter present

section

variable {field : Field}
variable {operator : Operator}
variable {operand : Operand}
variable (isOperand :
  ∀ name other,
    parameter.operandFor? entity name other =
      if field.name = name ∧ operator = other then some operand else none)

include isOperand

theorem operandsFor_itself :
    Request.operandsFor entity (done ++ [parameter]) field.name operator =
      Request.operandsFor entity done field.name operator ++ [operand] := by
  rw [Request.operandsFor_append, isOperand, if_pos ⟨rfl, rfl⟩,
    Option.toList_some]

theorem operandsFor_other
    {name : String}
    {other : Operator}
    (elsewhere : ¬(field.name = name ∧ operator = other)) :
    Request.operandsFor entity (done ++ [parameter]) name other =
      Request.operandsFor entity done name other := by
  rw [Request.operandsFor_append, isOperand, if_neg elsewhere,
    Option.toList_none, List.append_nil]

/-- An operand is bound exactly when the sets are still small with it. -/
theorem bindOperand_isOk_iff
    (collects : criteria.Collects entity done)
    (small : Request.KeepsSetsSmall entity done)
    (fits : operand.fits operator = true) :
    (∃ changed,
        criteria.bindOperand parameter field operator operand =
          .ok changed) ↔
      Request.KeepsSetsSmall entity (done ++ [parameter]) := by
  rw [Criteria.bindOperand_isOk_iff fits,
    Filter.length_members_accumulated fits
      (collects.operands field.name operator),
    ← operandsFor_itself isOperand]
  constructor
  · intro few name other isSet
    by_cases itself : field.name = name ∧ operator = other
    · obtain ⟨rfl, rfl⟩ := itself
      exact few isSet
    · rw [operandsFor_other isOperand itself]
      exact small name other isSet
  · intro smallWith
    exact smallWith field.name operator

theorem bindOperand
    {changed : Criteria}
    (collects : criteria.Collects entity done)
    (noFlag : parameter.flag? = none)
    (fits : operand.fits operator = true)
    (succeeded :
      criteria.bindOperand parameter field operator operand =
        .ok changed) :
    changed.Collects entity (done ++ [parameter]) := by
  obtain ⟨filter, set, rfl⟩ := bindOperand_eq_ok succeeded
  constructor
  · intro name other
    rw [operandOn?_bindOperand succeeded]
    split
    next itself =>
      obtain ⟨rfl, rfl⟩ := itself
      rw [operandsFor_itself isOperand]
      exact Filter.accumulated_eq_combined fits
        (collects.operands field.name operator)
    next elsewhere =>
      rw [operandsFor_other isOperand elsewhere]
      exact collects.operands name other
  · rw [Request.flags_append, noFlag, Option.toList_none, List.append_nil]
    exact collects.distinct
  · intro name present found
    rw [filter?_insert] at found
    split at found
    next same =>
      cases found
      rw [Filter.isEmpty_eq_false_iff]
      refine ⟨operator, ?_⟩
      rw [Filter.Populates, Filter.operand?_set set, if_pos rfl]
      rfl
    next different =>
      exact collects.noneEmpty name present found
  · intro name present found
    rw [filter?_insert] at found
    split at found
    next same =>
      subst same
      refine ⟨operator, ?_⟩
      rw [operandsFor_itself isOperand]
      simp
    next different =>
      obtain ⟨other, asked⟩ := collects.named name present found
      refine ⟨other, ?_⟩
      rw [operandsFor_other isOperand fun itself => different itself.1]
      exact asked

end

end Collects

/--
What binding some more parameters comes to: a criteria that holds them too, or
an error for one that is unreadable or makes a set too large.
-/
inductive Binds
    (entity : Entity)
    (done rest : List Parameter) :
    Except QueryError Criteria → Prop where
  | bound
      {criteria : Criteria}
      (readable : ∀ parameter ∈ rest, parameter.IsReadable entity)
      (small : Request.KeepsSetsSmall entity (done ++ rest))
      (collects : criteria.Collects entity (done ++ rest)) :
      Binds entity done rest (.ok criteria)
  | refused
      {error : QueryError}
      (malformed :
        (∀ parameter ∈ rest, parameter.IsReadable entity) →
          ¬Request.KeepsSetsSmall entity (done ++ rest)) :
      Binds entity done rest (.error error)

theorem Binds.cons
    {entity : Entity}
    {done rest : List Parameter}
    {parameter : Parameter}
    {outcome : Except QueryError Criteria}
    (readable : parameter.IsReadable entity)
    (binds : Binds entity (done ++ [parameter]) rest outcome) :
    Binds entity done (parameter :: rest) outcome := by
  have together :
      done ++ [parameter] ++ rest = done ++ parameter :: rest := by
    rw [List.append_assoc, List.singleton_append]
  rcases binds with ⟨restReadable, small, collects⟩ | malformed
  · rw [together] at small collects
    exact .bound (List.forall_mem_cons.mpr ⟨readable, restReadable⟩)
      small collects
  · rw [together] at malformed
    refine .refused fun allReadable => malformed ?_
    exact (List.forall_mem_cons.mp allReadable).2

/-- Binding goes on from what the parameters before have come to. -/
theorem Collects.binds
    {entity : Entity}
    {done rest : List Parameter}
    {criteria : Criteria}
    (collects : criteria.Collects entity done)
    (small : Request.KeepsSetsSmall entity done) :
    Binds entity done rest (bindAll entity criteria rest).result := by
  -- Each parameter moves from the rest to those done, and the two invariants,
  -- what is collected and that sets are small, move on with it.
  induction rest generalizing done criteria with
  | nil =>
      refine .bound (by simp) ?_ ?_
      · rw [List.append_nil]
        exact small
      · rw [List.append_nil]
        exact collects
  | cons parameter rest inductionHypothesis =>
      have means : parameter.Means entity (parameter.binding entity) :=
        Parameter.means_binding
      rw [bindAll]
      generalize parameter.binding entity = asked at means ⊢
      cases means with
      | refused unreadable =>
          refine .refused fun allReadable => ?_
          exact absurd (allReadable parameter List.mem_cons_self) unreadable
      | ignored readable noFlag noOperand =>
          have smallStill := small.of_noOperand noOperand
          have collectsStill := collects.ignored noFlag noOperand
          exact (inductionHypothesis collectsStill smallStill).cons readable
      | distinct readable isFlag noOperand =>
          have smallStill := small.of_noOperand noOperand
          have collectsFlag := collects.setDistinct isFlag noOperand
          exact (inductionHypothesis collectsFlag smallStill).cons readable
      | @operand field operator operand readable noFlag isOperand fits =>
          have isOk_iff :=
            collects.bindOperand_isOk_iff isOperand small fits
          dsimp only
          cases added :
            criteria.bindOperand parameter field operator operand with
          | ok changed =>
              have smallStill := isOk_iff.mp ⟨changed, added⟩
              have collectsOperand :=
                collects.bindOperand isOperand noFlag fits added
              exact (inductionHypothesis collectsOperand smallStill).cons
                readable
          | error error =>
              -- Sets that are small in the end are small here as well.
              refine .refused fun _ smallAll => ?_
              rw [List.append_cons] at smallAll
              obtain ⟨changed, isChanged⟩ :=
                isOk_iff.mpr smallAll.of_append
              rw [added] at isChanged
              exact absurd isChanged (by simp)

section

variable {entity : Entity}
variable {parameters : List Parameter}
variable {criteria : Criteria}

theorem mixed?_eq_none_iff :
    criteria.mixed? = none ↔
      ∀ name filter, criteria.populated? name = some filter →
        filter.GoesTogether := by
  simp only [mixed?, List.findSome?_eq_none_iff, Prod.forall,
    mem_fields_iff, Option.map_eq_none_iff, Filter.fault?_eq_none_iff]

/-- An operator that a readable request names applies to its field. -/
theorem supports_of_operandsFor
    {name : String}
    {operator : Operator}
    (readable : ∀ parameter ∈ parameters, parameter.IsReadable entity)
    (asked : Request.operandsFor entity parameters name operator ≠ []) :
    ∃ field, entity.field? name = some field ∧
      field.kind.supports operator = true := by
  obtain ⟨operand, member⟩ := List.exists_mem_of_ne_nil _ asked
  obtain ⟨parameter, listed, isOperand⟩ := List.mem_filterMap.mp member
  unfold Parameter.operandFor? at isOperand
  split at isOperand
  next cutHere =>
    obtain ⟨field, known, -⟩ := Option.bind_eq_some_iff.mp isOperand
    obtain ⟨other, -, sameName, supported, -⟩ :=
      (readable parameter listed).operand _ _ _ cutHere known
    exact ⟨field, known, Operator.name_injective sameName ▸ supported⟩
  next =>
    exact absurd isOperand (by simp)

namespace Collects

variable (collects : criteria.Collects entity parameters)

include collects

theorem populates_iff
    {name : String}
    {filter : Filter}
    (populated : criteria.populated? name = some filter)
    (operator : Operator) :
    filter.Populates operator ↔
      Request.operandsFor entity parameters name operator ≠ [] := by
  rw [Filter.Populates,
    ← operandOn?_of_mem_fields (mem_fields_iff.mpr populated),
    collects.operands, Operator.isSome_combined]

theorem exists_populated
    {name : String}
    {operator : Operator}
    (asked : Request.operandsFor entity parameters name operator ≠ []) :
    ∃ filter, criteria.populated? name = some filter := by
  have held : (criteria.operandOn? name operator).isSome = true := by
    rw [collects.operands, Operator.isSome_combined]
    exact asked
  unfold operandOn? filterOrEmpty at held
  cases found : criteria.filter? name with
  | none =>
      rw [found] at held
      exact absurd held (by simp)
  | some filter =>
      refine ⟨filter, ?_⟩
      simp [populated?, found, collects.noneEmpty name filter found]

/--
The operators of a request go together as soon as `specified` stands alone: no
kind supports both ranges and substrings.
-/
theorem mixed?_eq_none_iff
    (readable : ∀ parameter ∈ parameters, parameter.IsReadable entity) :
    criteria.mixed? = none ↔
      ∀ name operator,
        Request.operandsFor entity parameters name .specified ≠ [] →
          Request.operandsFor entity parameters name operator ≠ [] →
            operator = .specified := by
  rw [Criteria.mixed?_eq_none_iff]
  constructor
  · intro together name operator specified asked
    obtain ⟨filter, populated⟩ := collects.exists_populated asked
    rw [← collects.populates_iff populated] at specified asked
    exact (together name filter populated).specifiedAlone specified
      operator asked
  · intro specifiedAlone name filter populated
    constructor
    · intro specified operator asked
      rw [collects.populates_iff populated] at specified asked
      exact specifiedAlone name operator specified asked
    · rintro ⟨range, substring, isRange, isSubstring, populatesRange,
        populatesSubstring⟩
      rw [collects.populates_iff populated]
        at populatesRange populatesSubstring
      obtain ⟨field, known, supportsRange⟩ :=
        supports_of_operandsFor readable populatesRange
      obtain ⟨same, sameKnown, supportsSubstring⟩ :=
        supports_of_operandsFor readable populatesSubstring
      rw [known, Option.some.injEq] at sameKnown
      subst sameKnown
      rw [Kind.not_supports_range_and_substring isRange isSubstring
        supportsRange] at supportsSubstring
      exact absurd supportsSubstring Bool.false_ne_true

end Collects

end

end Criteria

/-- Maps in which every name leads to the same are the same. -/
theorem NameMap.ext_get?
    {Entry : Type}
    {left right : NameMap Entry}
    (same : ∀ name, left.get? name = right.get? name) :
    left = right := by
  have nodup (map : NameMap Entry) : map.entries.Nodup := by
    refine map.ascending.imp ?_
    rintro entry _ less rfl
    exact String.lt_irrefl entry.1 less
  have perm : left.entries.Perm right.entries := by
    rw [List.perm_ext_iff_of_nodup (nodup left) (nodup right)]
    rintro ⟨name, value⟩
    rw [← get?_eq_some_iff, ← get?_eq_some_iff, same]
  have sameEntries : left.entries = right.entries := by
    refine perm.eq_of_pairwise ?_ left.ascending right.ascending
    intro entry other _ _ less greater
    exact absurd (String.lt_trans less greater)
      (String.lt_irrefl entry.1)
  cases left
  cases right
  cases sameEntries
  rfl

/-- Filters with the same operands are the same. -/
theorem Filter.ext_operand?
    {left right : Filter}
    (same : ∀ operator, left.operand? operator = right.operand? operator) :
    left = right := by
  have ofValue {slot other : Option Value}
      (sameOperand : slot.map Operand.value = other.map Operand.value) :
      slot = other :=
    (Option.map_inj_right fun _ _ => Operand.value.inj).mp sameOperand
  have ofValues {slot other : Option (List Value)}
      (sameOperand : slot.map Operand.values = other.map Operand.values) :
      slot = other :=
    (Option.map_inj_right fun _ _ => Operand.values.inj).mp sameOperand
  have ofSubstring {slot other : Option String}
      (sameOperand :
        slot.map Operand.substring = other.map Operand.substring) :
      slot = other :=
    (Option.map_inj_right fun _ _ => Operand.substring.inj).mp sameOperand
  have ofFlag {slot other : Option Bool}
      (sameOperand : slot.map Operand.flag = other.map Operand.flag) :
      slot = other :=
    (Option.map_inj_right fun _ _ => Operand.flag.inj).mp sameOperand
  cases left
  cases right
  rw [Filter.mk.injEq]
  exact ⟨ofValue (same .equals), ofValue (same .notEquals),
    ofValues (same .oneOf), ofValues (same .noneOf),
    ofFlag (same .specified), ofValue (same .greaterThan),
    ofValue (same .atLeast), ofValue (same .lessThan),
    ofValue (same .atMost), ofSubstring (same .contains),
    ofSubstring (same .lacks)⟩

namespace Criteria

variable {entity : Entity}
variable {parameters : List Parameter}
variable {criteria other : Criteria}

/-- What one criteria holds for a name, another for the same request holds. -/
theorem Collects.filter?_of_filter?
    {name : String}
    {filter : Filter}
    (collects : criteria.Collects entity parameters)
    (otherCollects : other.Collects entity parameters)
    (present : criteria.filter? name = some filter) :
    other.filter? name = some filter := by
  obtain ⟨operator, asked⟩ := collects.named name filter present
  obtain ⟨otherFilter, populated⟩ := otherCollects.exists_populated asked
  obtain ⟨otherPresent, -⟩ := Option.filter_eq_some_iff.mp populated
  have same : otherFilter = filter := by
    apply Filter.ext_operand?
    intro operator
    have held := collects.operands name operator
    rw [← otherCollects.operands name operator] at held
    simpa [operandOn?, filterOrEmpty, present, otherPresent] using held.symm
  rw [otherPresent, same]

/-- A request asks for one criteria only. -/
theorem Collects.unique
    (collects : criteria.Collects entity parameters)
    (otherCollects : other.Collects entity parameters) :
    criteria = other := by
  have sameFilters : criteria.filters = other.filters := by
    apply NameMap.ext_get?
    intro name
    apply Option.ext
    intro filter
    exact ⟨collects.filter?_of_filter? otherCollects,
      otherCollects.filter?_of_filter? collects⟩
  have sameHint : criteria.distinct = other.distinct :=
    collects.distinct.trans otherCollects.distinct.symm
  cases criteria
  cases other
  cases sameFilters
  cases sameHint
  rfl

end Criteria

/--
A request has a criteria exactly when it is well formed, and the criteria is the
one that holds what its parameters ask for together, and nothing else.
-/
theorem ofParameters_collects
    (entity : Entity)
    (parameters : List Parameter) :
    ((∃ criteria,
        (Criteria.ofParameters entity parameters).result = .ok criteria) ↔
      Request.IsWellFormed entity parameters) ∧
    ∀ criteria,
      (Criteria.ofParameters entity parameters).result = .ok criteria ↔
        Request.IsWellFormed entity parameters ∧
          criteria.Collects entity parameters := by
  have binds :
      Criteria.Binds entity [] parameters
        (Criteria.bindAll entity .empty parameters).result := by
    apply Criteria.Collects.start.binds
    intro name operator _
    exact Nat.zero_le _
  have ran :
      (Criteria.ofParameters entity parameters).result =
        (Criteria.bindAll entity .empty parameters).result.bind
          Criteria.checked := rfl
  rw [ran]
  generalize (Criteria.bindAll entity .empty parameters).result =
    outcome at binds ⊢
  rcases binds with @⟨bound, readable, small, collects⟩ | malformed
  · have goesTogether := collects.mixed?_eq_none_iff readable
    have isWellFormed_iff :
        Request.IsWellFormed entity parameters ↔ bound.mixed? = none := by
      rw [goesTogether]
      exact ⟨fun wellFormed => wellFormed.specifiedAlone,
        fun specifiedAlone => ⟨readable, small, specifiedAlone⟩⟩
    have checked_iff (criteria : Criteria) :
        bound.checked = .ok criteria ↔
          bound.mixed? = none ∧ bound = criteria := by
      unfold Criteria.checked
      cases bound.mixed? <;> simp
    rw [isWellFormed_iff]
    simp only [Except.bind, checked_iff]
    constructor
    · simp
    · intro criteria
      refine and_congr_right fun _ => ⟨?_, collects.unique⟩
      rintro rfl
      exact collects
  · have notWellFormed : ¬Request.IsWellFormed entity parameters :=
      fun wellFormed => malformed wellFormed.readable wellFormed.small
    simp [Except.bind, notWellFormed]

end RecordQuery
