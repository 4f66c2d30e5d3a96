import Mathlib.Data.List.Forall2
import RecordQuery.Page.Request
import RecordQuery.Proofs.Faults
import RecordQuery.Proofs.Numerals

namespace RecordQuery

/-!
# The page that a request asks for

Of the parameters `page` and `size` the last ones count, of `sort` every one,
and other parameters do not.  Binding goes through the parameters one by one and
stops at the first malformed one; a size of zero is refused only when nothing is
malformed, since a later size would replace it.  The invariant of the parameters
done so far is `PageRequest.Collects`, and what a whole run comes to is
`PageRequest.bindAll_outcome`.
-/

namespace Parameter

/-- Whether a parameter is one of the three that ask for a page. -/
def isPaging (parameter : Parameter) : Bool :=
  parameter.name == "page" || parameter.name == "size" ||
    parameter.name == SortOrder.parameterName

/-- A parameter that gives a page index or a page size, blanks apart. -/
def GivesCount (parameter : Parameter) (count : UInt64) : Prop :=
  Decimal.IsCount (Text.trim parameter.value).toList count.toNat

/-- A parameter that gives a sort order. -/
def GivesOrder
    (direction : Direction)
    (parameter : Parameter)
    (order : SortOrder) :
    Prop :=
  SortOrder.read parameter.value direction = .ok order

/-- What is wrong with a parameter that asks for a page. -/
inductive Malformed
    (direction : Direction)
    (parameter : Parameter) :
    ParameterFault → Prop where
  | count
      (isNamed : parameter.name = "page" ∨ parameter.name = "size")
      (noCount : ∀ count, ¬parameter.GivesCount count) :
      Malformed direction parameter (.notCount parameter.value)
  | order
      {fault : ParameterFault}
      (isNamed : parameter.name = SortOrder.parameterName)
      (refused :
        SortOrder.read parameter.value direction = SortOrder.refuse fault) :
      Malformed direction parameter fault

/-- Whether anything is wrong with a parameter that asks for a page. -/
def IsMalformed (direction : Direction) (parameter : Parameter) : Prop :=
  ∃ fault, parameter.Malformed direction fault

end Parameter

namespace Request

/-- The parameters of a name, in the order of a request. -/
def named (name : String) (parameters : List Parameter) : List Parameter :=
  parameters.filter fun parameter => parameter.name == name

/-- The count that the last parameter gives, or the default if there is none. -/
def LastCount
    (default : UInt64)
    (parameters : List Parameter)
    (count : UInt64) :
    Prop :=
  match parameters.getLast? with
  | none => count = default
  | some parameter => parameter.GivesCount count

/-- A request that asks for a page. -/
structure IsPaged
    (direction : Direction)
    (parameters : List Parameter) :
    Prop where
  counts :
    ∀ parameter ∈ parameters,
      parameter.name = "page" ∨ parameter.name = "size" →
        ∃ count, parameter.GivesCount count
  orders :
    ∀ parameter ∈ parameters, parameter.name = SortOrder.parameterName →
      ∃ order, parameter.GivesOrder direction order
  sized :
    ∀ parameter, (named "size" parameters).getLast? = some parameter →
      ¬parameter.GivesCount 0

/--
Why a request does not ask for a page: its first malformed parameter, or, if
there is none, a size of zero in the end.
-/
inductive IsUnpaged
    (direction : Direction)
    (parameters : List Parameter) :
    QueryError → Prop where
  | malformed
      {parameter : Parameter}
      {fault : ParameterFault}
      (first :
        IsFirst parameters (Parameter.IsMalformed direction) parameter)
      (isFault : parameter.Malformed direction fault) :
      IsUnpaged direction parameters
        (.invalidParameter parameter.name fault)
  | zeroSize
      {parameter : Parameter}
      (noneMalformed :
        ∀ other ∈ parameters, ¬other.IsMalformed direction)
      (last : (named "size" parameters).getLast? = some parameter)
      (isZero : parameter.GivesCount 0) :
      IsUnpaged direction parameters
        (.invalidParameter "size" .zeroPageSize)

end Request

namespace PageRequest

/-- A page request that answers the parameters of a request. -/
structure Answers
    (config : Config)
    (parameters : List Parameter)
    (request : PageRequest) :
    Prop where
  page :
    Request.LastCount 0 (Request.named "page" parameters) request.page
  size :
    ∃ asked,
      Request.LastCount config.defaultPageSize
          (Request.named "size" parameters) asked ∧
        request.size = min asked (max 1 config.maxPageSize)
  sort :
    List.Forall₂ (Parameter.GivesOrder config.defaultDirection)
      (Request.named SortOrder.parameterName parameters) request.sort
  size_bounds :
    1 ≤ request.size ∧ request.size ≤ max 1 config.maxPageSize

/-- A page request, not yet checked, of some parameters, none malformed. -/
structure Collects
    (config : Config)
    (parameters : List Parameter)
    (request : PageRequest) :
    Prop where
  noneMalformed :
    ∀ parameter ∈ parameters,
      ¬parameter.IsMalformed config.defaultDirection
  page :
    Request.LastCount 0 (Request.named "page" parameters) request.page
  size :
    Request.LastCount config.defaultPageSize
      (Request.named "size" parameters) request.size
  sort :
    List.Forall₂ (Parameter.GivesOrder config.defaultDirection)
      (Request.named SortOrder.parameterName parameters) request.sort

/-- What one parameter makes of a page request. -/
inductive Step
    (config : Config)
    (parameter : Parameter)
    (request : PageRequest) :
    Except QueryError PageRequest → Prop where
  | page
      {count : UInt64}
      (isNamed : parameter.name = "page")
      (gives : parameter.GivesCount count) :
      Step config parameter request (.ok { request with page := count })
  | size
      {count : UInt64}
      (isNamed : parameter.name = "size")
      (gives : parameter.GivesCount count) :
      Step config parameter request (.ok { request with size := count })
  | sort
      {order : SortOrder}
      (isNamed : parameter.name = SortOrder.parameterName)
      (gives : parameter.GivesOrder config.defaultDirection order) :
      Step config parameter request (.ok (request.withSort order))
  | other
      (notPaging : parameter.isPaging = false) :
      Step config parameter request (.ok request)
  | refused
      {fault : ParameterFault}
      (isFault : parameter.Malformed config.defaultDirection fault) :
      Step config parameter request
        (.error (.invalidParameter parameter.name fault))

end PageRequest

/-- A refused sort order is always a fault of the parameter that sorts. -/
theorem SortOrder.exists_refuse_of_read
    {raw : String}
    {direction : Direction}
    {error : QueryError}
    (refused : SortOrder.read raw direction = .error error) :
    ∃ fault, error = .invalidParameter SortOrder.parameterName fault := by
  have ofProperty (property : String) (chosen : Direction)
      (missing : SortOrder.ofProperty property chosen = .error error) :
      ∃ fault, error = .invalidParameter SortOrder.parameterName fault := by
    unfold SortOrder.ofProperty at missing
    dsimp only at missing
    split at missing
    next =>
      exact ⟨_, (Except.error.inj missing).symm⟩
    next =>
      exact absurd missing (by simp)
  unfold SortOrder.read at refused
  split at refused
  next =>
    exact ofProperty _ _ refused
  next =>
    split at refused
    next =>
      exact ⟨_, (Except.error.inj refused).symm⟩
    next =>
      exact ofProperty _ _ refused

namespace Parameter

variable {direction : Direction}
variable {parameter : Parameter}

/-- A parameter is read as the number that it gives, or else refused. -/
theorem readCount_cases (parameter : Parameter) :
    (∃ count, PageRequest.readCount parameter = .ok count ∧
      parameter.GivesCount count) ∨
    PageRequest.readCount parameter =
        .error (.invalidParameter parameter.name
          (.notCount parameter.value)) ∧
      ∀ count, ¬parameter.GivesCount count := by
  unfold PageRequest.readCount
  split
  next count isRead =>
    exact Or.inl ⟨count, rfl, Decimal.uint64?_eq_some_iff.mp isRead⟩
  next notRead =>
    refine Or.inr ⟨rfl, fun count gives => ?_⟩
    have isRead := Decimal.uint64?_eq_some_iff.mpr gives
    exact absurd (notRead.symm.trans isRead) (by simp)

/-- A parameter gives no more than one number. -/
theorem GivesCount.unique
    {count other : UInt64}
    (gives : parameter.GivesCount count)
    (givesOther : parameter.GivesCount other) :
    count = other :=
  UInt64.toNat_inj.mp (Decimal.IsCount.unique gives givesOther)

theorem not_isMalformed_of_count
    {count : UInt64}
    (isNamed : parameter.name = "page" ∨ parameter.name = "size")
    (gives : parameter.GivesCount count) :
    ¬parameter.IsMalformed direction := by
  rintro ⟨fault, malformed⟩
  cases malformed with
  | count _ noCount =>
      exact noCount count gives
  | order isSort _ =>
      rw [isSort] at isNamed
      exact absurd isNamed (by decide)

theorem not_isMalformed_of_order
    {order : SortOrder}
    (isNamed : parameter.name = SortOrder.parameterName)
    (gives : parameter.GivesOrder direction order) :
    ¬parameter.IsMalformed direction := by
  rintro ⟨fault, malformed⟩
  cases malformed with
  | count isCount _ =>
      rw [isNamed] at isCount
      exact absurd isCount (by decide)
  | order _ refused =>
      exact absurd (gives.symm.trans refused) (by simp [SortOrder.refuse])

theorem isPaging_eq_false_iff :
    parameter.isPaging = false ↔
      parameter.name ≠ "page" ∧
        parameter.name ≠ "size" ∧
        parameter.name ≠ SortOrder.parameterName := by
  simp only [isPaging, Bool.or_eq_false_iff, beq_eq_false_iff_ne, and_assoc]

theorem not_isMalformed_of_not_paging
    (notPaging : parameter.isPaging = false) :
    ¬parameter.IsMalformed direction := by
  obtain ⟨notPage, notSize, notSort⟩ := isPaging_eq_false_iff.mp notPaging
  rintro ⟨fault, malformed⟩
  cases malformed with
  | count isNamed _ =>
      exact isNamed.elim notPage notSize
  | order isNamed _ =>
      exact notSort isNamed

end Parameter

namespace Request

variable {direction : Direction}
variable {parameters : List Parameter}
variable {parameter : Parameter}

theorem named_append_of_name
    {name : String}
    (isNamed : parameter.name = name) :
    named name (parameters ++ [parameter]) =
      named name parameters ++ [parameter] := by
  simp [named, isNamed]

theorem named_append_of_other
    {name : String}
    (otherName : parameter.name ≠ name) :
    named name (parameters ++ [parameter]) = named name parameters := by
  simp [named, otherName]

theorem lastCount_append
    {default count : UInt64}
    (gives : parameter.GivesCount count) :
    LastCount default (parameters ++ [parameter]) count := by
  rw [LastCount, List.getLast?_concat]
  exact gives

/-- Nothing is malformed when every count and every order can be read. -/
theorem noneMalformed_iff :
    (∀ parameter ∈ parameters, ¬parameter.IsMalformed direction) ↔
      (∀ parameter ∈ parameters,
        parameter.name = "page" ∨ parameter.name = "size" →
          ∃ count, parameter.GivesCount count) ∧
      ∀ parameter ∈ parameters, parameter.name = SortOrder.parameterName →
        ∃ order, parameter.GivesOrder direction order := by
  constructor
  · intro noneMalformed
    constructor
    · intro parameter member isNamed
      by_contra noCount
      exact noneMalformed parameter member
        ⟨_, .count isNamed (not_exists.mp noCount)⟩
    · intro parameter member isNamed
      cases wasRead : SortOrder.read parameter.value direction with
      | ok order =>
          exact ⟨order, wasRead⟩
      | error error =>
          obtain ⟨fault, rfl⟩ := SortOrder.exists_refuse_of_read wasRead
          exact absurd ⟨fault, .order isNamed wasRead⟩
            (noneMalformed parameter member)
  · rintro ⟨counts, orders⟩ parameter member ⟨fault, malformed⟩
    cases malformed with
    | count isNamed noCount =>
        obtain ⟨count, gives⟩ := counts parameter member isNamed
        exact noCount count gives
    | order isNamed refused =>
        obtain ⟨order, gives⟩ := orders parameter member isNamed
        exact Parameter.not_isMalformed_of_order isNamed gives
          ⟨fault, .order isNamed refused⟩

end Request

namespace PageRequest

variable {config : Config}
variable {parameter : Parameter}
variable {parameters done rest : List Parameter}
variable {request : PageRequest}

/-- Binding one parameter is one step. -/
theorem step_bindParameter
    (config : Config)
    (request : PageRequest)
    (parameter : Parameter) :
    Step config parameter request
      (bindParameter config request parameter) := by
  unfold bindParameter
  split
  next isPage =>
    obtain ⟨count, wasRead, gives⟩ | ⟨refused, noCount⟩ :=
      parameter.readCount_cases
    · rw [wasRead]
      exact .page isPage gives
    · rw [refused]
      exact .refused (.count (Or.inl isPage) noCount)
  next notPage =>
    split
    next isSize =>
      obtain ⟨count, wasRead, gives⟩ | ⟨refused, noCount⟩ :=
        parameter.readCount_cases
      · rw [wasRead]
        exact .size isSize gives
      · rw [refused]
        exact .refused (.count (Or.inr isSize) noCount)
    next notSize =>
      split
      next isSort =>
        cases wasRead :
          SortOrder.read parameter.value config.defaultDirection with
        | ok order =>
            exact .sort isSort wasRead
        | error error =>
            obtain ⟨fault, rfl⟩ := SortOrder.exists_refuse_of_read wasRead
            rw [← isSort]
            exact .refused (.order isSort wasRead)
      next notSort =>
        exact .other
          (Parameter.isPaging_eq_false_iff.mpr ⟨notPage, notSize, notSort⟩)

theorem collects_nil (config : Config) :
    Collects config [] ⟨0, config.defaultPageSize, []⟩ where
  noneMalformed := by simp
  page := rfl
  size := rfl
  sort := .nil

/-- A step that is not refused collects its parameter as well. -/
theorem Collects.step
    {changed : PageRequest}
    (collects : request.Collects config done)
    (stepped : Step config parameter request (.ok changed)) :
    changed.Collects config (done ++ [parameter]) := by
  have together
      (well : ¬parameter.IsMalformed config.defaultDirection) :
      ∀ other ∈ done ++ [parameter],
        ¬other.IsMalformed config.defaultDirection := by
    simpa [or_imp, forall_and] using ⟨collects.noneMalformed, well⟩
  cases stepped with
  | page isNamed gives =>
      have notSize : parameter.name ≠ "size" := by
        simp [isNamed]
      have notSort : parameter.name ≠ SortOrder.parameterName := by
        simp [isNamed, SortOrder.parameterName]
      refine ⟨together ?_, ?_, ?_, ?_⟩
      · exact Parameter.not_isMalformed_of_count (Or.inl isNamed) gives
      · rw [Request.named_append_of_name isNamed]
        exact Request.lastCount_append gives
      · rw [Request.named_append_of_other notSize]
        exact collects.size
      · rw [Request.named_append_of_other notSort]
        exact collects.sort
  | size isNamed gives =>
      have notPage : parameter.name ≠ "page" := by
        simp [isNamed]
      have notSort : parameter.name ≠ SortOrder.parameterName := by
        simp [isNamed, SortOrder.parameterName]
      refine ⟨together ?_, ?_, ?_, ?_⟩
      · exact Parameter.not_isMalformed_of_count (Or.inr isNamed) gives
      · rw [Request.named_append_of_other notPage]
        exact collects.page
      · rw [Request.named_append_of_name isNamed]
        exact Request.lastCount_append gives
      · rw [Request.named_append_of_other notSort]
        exact collects.sort
  | sort isNamed gives =>
      have notPage : parameter.name ≠ "page" := by
        simp [isNamed, SortOrder.parameterName]
      have notSize : parameter.name ≠ "size" := by
        simp [isNamed, SortOrder.parameterName]
      refine ⟨together ?_, ?_, ?_, ?_⟩
      · exact Parameter.not_isMalformed_of_order isNamed gives
      · rw [Request.named_append_of_other notPage]
        exact collects.page
      · rw [Request.named_append_of_other notSize]
        exact collects.size
      · rw [Request.named_append_of_name isNamed]
        exact List.rel_append collects.sort (.cons gives .nil)
  | other notPaging =>
      have well : ¬parameter.IsMalformed config.defaultDirection :=
        Parameter.not_isMalformed_of_not_paging notPaging
      obtain ⟨notPage, notSize, notSort⟩ :=
        Parameter.isPaging_eq_false_iff.mp notPaging
      refine ⟨together well, ?_, ?_, ?_⟩
      · rw [Request.named_append_of_other notPage]
        exact collects.page
      · rw [Request.named_append_of_other notSize]
        exact collects.size
      · rw [Request.named_append_of_other notSort]
        exact collects.sort

/--
What binding some more parameters comes to: a page request that collects them
too, or the fault of the first malformed one.
-/
inductive Binds
    (config : Config)
    (done rest : List Parameter) :
    Except QueryError PageRequest → Prop where
  | bound
      {request : PageRequest}
      (collects : request.Collects config (done ++ rest)) :
      Binds config done rest (.ok request)
  | refused
      {parameter : Parameter}
      {fault : ParameterFault}
      (first :
        IsFirst rest (Parameter.IsMalformed config.defaultDirection)
          parameter)
      (isFault : parameter.Malformed config.defaultDirection fault) :
      Binds config done rest
        (.error (.invalidParameter parameter.name fault))

/-- A parameter that is not malformed moves on to those that are done. -/
theorem Binds.cons
    {outcome : Except QueryError PageRequest}
    (well : ¬parameter.IsMalformed config.defaultDirection)
    (binds : Binds config (done ++ [parameter]) rest outcome) :
    Binds config done (parameter :: rest) outcome := by
  cases binds with
  | bound collects =>
      rw [List.append_assoc, List.singleton_append] at collects
      exact .bound collects
  | refused first isFault =>
      obtain ⟨before, after, rfl, noneBefore⟩ := first.noneBefore
      refine .refused ⟨first.has, parameter :: before, after, rfl, ?_⟩ isFault
      exact List.forall_mem_cons.mpr ⟨well, noneBefore⟩

/-- Binding goes on from what the parameters before have come to. -/
theorem Collects.binds (collects : request.Collects config done) :
    Binds config done rest (bindAll config request rest) := by
  -- Each parameter moves from the rest to those done, and what is collected
  -- moves on with it.
  induction rest generalizing done request with
  | nil =>
      refine .bound ?_
      rw [List.append_nil]
      exact collects
  | cons parameter rest inductionHypothesis =>
      have stepped := step_bindParameter config request parameter
      rw [bindAll]
      cases bound : bindParameter config request parameter with
      | ok changed =>
          rw [bound] at stepped
          have collectsStill := collects.step stepped
          have well : ¬parameter.IsMalformed config.defaultDirection :=
            collectsStill.noneMalformed parameter (by simp)
          exact (inductionHypothesis collectsStill).cons well
      | error error =>
          rw [bound] at stepped
          cases stepped with
          | refused isFault =>
              refine .refused ⟨⟨_, isFault⟩, [], rest, rfl, ?_⟩ isFault
              simp

/-- A request is refused for its first malformed parameter, or else checked. -/
theorem ofParameters_outcome (config : Config) (parameters : List Parameter) :
    (∃ parameter fault,
      IsFirst parameters (Parameter.IsMalformed config.defaultDirection)
          parameter ∧
        parameter.Malformed config.defaultDirection fault ∧
        ofParameters config parameters =
          .error (.invalidParameter parameter.name fault)) ∨
    ∃ request : PageRequest,
      request.Collects config parameters ∧
        ofParameters config parameters = checked config request := by
  have binds :
      Binds config [] parameters
        (bindAll config ⟨0, config.defaultPageSize, []⟩ parameters) :=
    (collects_nil config).binds
  unfold ofParameters
  generalize bindAll config ⟨0, config.defaultPageSize, []⟩ parameters =
    outcome at binds ⊢
  cases binds with
  | bound collects =>
      exact Or.inr ⟨_, collects, rfl⟩
  | refused first isFault =>
      exact Or.inl ⟨_, _, first, isFault, rfl⟩

/-- A size that is not zero is only lowered. -/
theorem clampPageSize_eq
    {requested : UInt64}
    (notZero : requested ≠ 0)
    (config : Config) :
    config.clampPageSize requested =
      min requested (max 1 config.maxPageSize) := by
  have positive : 0 < requested.toNat :=
    UInt64.lt_iff_toNat_lt.mp (UInt64.pos_iff_ne_zero.mpr notZero)
  apply UInt64.toNat_inj.mp
  simp only [Config.clampPageSize, Config.pageSizeLimit, UInt64.toNat_min,
    UInt64.toNat_max, UInt64.toNat_one]
  omega

theorem checked_of_zero (isZero : request.size = 0) :
    checked config request =
      .error (.invalidParameter "size" .zeroPageSize) := by
  rw [checked, if_pos isZero]

theorem checked_of_ne_zero (notZero : request.size ≠ 0) :
    checked config request =
      .ok { request with
        size := min request.size (max 1 config.maxPageSize) } := by
  rw [checked, if_neg notZero, clampPageSize_eq notZero]

theorem Collects.answers
    (collects : request.Collects config parameters)
    (notZero : request.size ≠ 0) :
    Answers config parameters
      { request with size := min request.size (max 1 config.maxPageSize) }
    where
  page := collects.page
  size := ⟨request.size, collects.size, rfl⟩
  sort := collects.sort
  size_bounds := by
    have positive : 0 < request.size.toNat :=
      UInt64.lt_iff_toNat_lt.mp (UInt64.pos_iff_ne_zero.mpr notZero)
    simp only [UInt64.le_iff_toNat_le, UInt64.toNat_min, UInt64.toNat_max,
      UInt64.toNat_one]
    omega

/-- A page size of zero comes from the last size, or from the configuration. -/
theorem Collects.size_eq_zero_iff
    (collects : request.Collects config parameters) :
    request.size = 0 ↔
      (∃ parameter,
        (Request.named "size" parameters).getLast? = some parameter ∧
          parameter.GivesCount 0) ∨
      Request.named "size" parameters = [] ∧ config.defaultPageSize = 0 := by
  have size := collects.size
  unfold Request.LastCount at size
  cases last : (Request.named "size" parameters).getLast? with
  | none =>
      rw [last] at size
      rw [List.getLast?_eq_none_iff] at last
      simp [last, size]
  | some parameter =>
      rw [last] at size
      have notEmpty : Request.named "size" parameters ≠ [] := by
        intro isEmpty
        simp [isEmpty] at last
      simp only [Option.some.injEq, exists_eq_left', notEmpty, false_and,
        or_false]
      constructor
      · intro isZero
        rw [← isZero]
        exact size
      · intro isZero
        exact size.unique isZero

/-- A parameter of another name changes nothing. -/
theorem bindParameter_of_not_paging
    (notPaging : parameter.isPaging = false) :
    bindParameter config request parameter = .ok request := by
  obtain ⟨notPage, notSize, notSort⟩ :=
    Parameter.isPaging_eq_false_iff.mp notPaging
  rw [bindParameter, if_neg notPage, if_neg notSize, if_neg notSort]

theorem bindAll_filter_isPaging :
    bindAll config request (parameters.filter Parameter.isPaging) =
      bindAll config request parameters := by
  induction parameters generalizing request with
  | nil =>
      rfl
  | cons parameter rest inductionHypothesis =>
      cases paging : parameter.isPaging with
      | true =>
          rw [List.filter_cons_of_pos paging, bindAll, bindAll]
          cases bindParameter config request parameter with
          | ok changed =>
              exact inductionHypothesis
          | error error =>
              rfl
      | false =>
          rw [List.filter_cons_of_neg (by simp [paging]), bindAll,
            bindParameter_of_not_paging paging]
          exact inductionHypothesis

end PageRequest

/--
A request asks for a page exactly when its page indices, page sizes and sort
orders can be read and its last size is not zero.  The page request then answers
it; otherwise the error names the first malformed parameter, or the size of zero
if there is none.  Parameters of other names do not matter.
-/
theorem ofParameters_answers
    {config : Config}
    (positive : config.defaultPageSize ≠ 0)
    (parameters : List Parameter) :
    ((∃ request, PageRequest.ofParameters config parameters = .ok request) ↔
      Request.IsPaged config.defaultDirection parameters) ∧
    (∀ request, PageRequest.ofParameters config parameters = .ok request →
      request.Answers config parameters) ∧
    (∀ error, PageRequest.ofParameters config parameters = .error error →
      Request.IsUnpaged config.defaultDirection parameters error) ∧
    PageRequest.ofParameters config
        (parameters.filter Parameter.isPaging) =
      PageRequest.ofParameters config parameters := by
  have others :
      PageRequest.ofParameters config
          (parameters.filter Parameter.isPaging) =
        PageRequest.ofParameters config parameters := by
    rw [PageRequest.ofParameters, PageRequest.bindAll_filter_isPaging,
      PageRequest.ofParameters]
  rw [← and_assoc, ← and_assoc]
  refine ⟨?_, others⟩
  -- Either a malformed parameter ended the binding, or the last size is all
  -- that is left to be checked.
  obtain ⟨parameter, fault, first, isFault, refused⟩ |
      ⟨request, collects, isChecked⟩ :=
    PageRequest.ofParameters_outcome config parameters
  · rw [refused]
    refine ⟨⟨?_, by simp⟩, ?_⟩
    · refine iff_of_false (by simp) fun paged => ?_
      have noneMalformed :=
        Request.noneMalformed_iff.mpr ⟨paged.counts, paged.orders⟩
      exact noneMalformed parameter first.mem first.has
    · rintro error sameError
      cases sameError
      exact .malformed first isFault
  · have readable := Request.noneMalformed_iff.mp collects.noneMalformed
    have isZero_iff := collects.size_eq_zero_iff
    simp only [positive, and_false, or_false] at isZero_iff
    rw [isChecked]
    by_cases isZero : request.size = 0
    · obtain ⟨parameter, last, givesZero⟩ := isZero_iff.mp isZero
      rw [PageRequest.checked_of_zero isZero]
      refine ⟨⟨?_, by simp⟩, ?_⟩
      · refine iff_of_false (by simp) fun paged => ?_
        exact paged.sized parameter last givesZero
      · rintro error sameError
        cases sameError
        exact .zeroSize collects.noneMalformed last givesZero
    · rw [PageRequest.checked_of_ne_zero isZero]
      refine ⟨⟨?_, ?_⟩, by simp⟩
      · refine iff_of_true ⟨_, rfl⟩ ⟨readable.1, readable.2, ?_⟩
        intro parameter last givesZero
        exact isZero (isZero_iff.mpr ⟨parameter, last, givesZero⟩)
      · rintro other sameRequest
        cases sameRequest
        exact collects.answers isZero

namespace Club

/-- The second page of challenges, asked for in a roundabout way. -/
def secondPage : List Parameter :=
  [ ⟨"size", "0"⟩,
    ⟨"page", "7"⟩,
    ⟨"sort", "id"⟩,
    ⟨"status.equals", "ACCEPTED"⟩,
    ⟨"size", " +5000 "⟩,
    ⟨"page", "1"⟩,
    ⟨"sort", " matchTime , DESC"⟩ ]

end Club

/-- Of two indices and two sizes the last ones count, of two orders both. -/
theorem ofParameters_answers_secondPage :
    Config.default.defaultPageSize ≠ 0 ∧
      PageRequest.ofParameters .default Club.secondPage =
        .ok ⟨1, 2000, [⟨"id", .ascending⟩, ⟨"matchTime", .descending⟩]⟩ ∧
      PageRequest.Answers .default Club.secondPage
        ⟨1, 2000, [⟨"id", .ascending⟩, ⟨"matchTime", .descending⟩]⟩ := by
  have positive : Config.default.defaultPageSize ≠ 0 := by
    decide
  have bound :
      PageRequest.ofParameters .default Club.secondPage =
        .ok ⟨1, 2000, [⟨"id", .ascending⟩, ⟨"matchTime", .descending⟩]⟩ := by
    decide
  exact ⟨positive, bound,
    (ofParameters_answers positive Club.secondPage).2.1 _ bound⟩

end RecordQuery
