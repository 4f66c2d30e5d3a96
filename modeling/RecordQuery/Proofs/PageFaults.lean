import RecordQuery.Proofs.PageBinding

namespace RecordQuery

/-!
# Whose fault a refused page is

A page is refused for what its request gives: an index, a size or a sort order
that cannot be read, or a size of zero.  There is one exception.  A request
without a size takes the default size, and a configuration may set that to zero;
then every such request is refused, and the client is told that its `size` is at
fault (`refused_blameless_iff`).
-/

namespace Parameter

/-- A parameter for which a page may be refused. -/
def IsAtFault (direction : Direction) (parameter : Parameter) : Prop :=
  parameter.IsMalformed direction ∨
    parameter.name = "size" ∧ parameter.GivesCount 0

end Parameter

/-- A request none of whose parameters is at fault. -/
def Request.IsBlameless
    (direction : Direction)
    (parameters : List Parameter) :
    Prop :=
  ∀ parameter ∈ parameters, ¬parameter.IsAtFault direction

namespace PageParameters

/-- Typed parameters none of which is at fault. -/
structure IsBlameless
    (direction : Direction)
    (typed : PageParameters) :
    Prop where
  sort :
    ∀ raw, typed.sort = some raw →
      ∃ order, SortOrder.read raw direction = .ok order
  size : typed.size ≠ some 0

end PageParameters

/-- What a refusal says of a page size of zero. -/
def QueryError.zeroPageSize : QueryError :=
  .invalidParameter "size" .zeroPageSize

namespace PageRequest

variable {config : Config}
variable {parameters : List Parameter}
variable {request : PageRequest}
variable {error : QueryError}

theorem checked_eq_error_iff :
    checked config request = .error error ↔
      error = .zeroPageSize ∧ request.size = 0 := by
  by_cases isZero : request.size = 0
  · rw [checked_of_zero isZero, Except.error.injEq]
    simp [isZero, eq_comm, QueryError.zeroPageSize]
  · rw [checked_of_ne_zero isZero]
    simp [isZero]

theorem isClientError_of_checked
    (refused : checked config request = .error error) :
    error.isClientError = true := by
  rw [(checked_eq_error_iff.mp refused).1]
  rfl

theorem isClientError_of_ofParameters
    (refused : ofParameters config parameters = .error error) :
    error.isClientError = true := by
  obtain ⟨parameter, fault, -, -, isError⟩ | ⟨request, -, isChecked⟩ :=
    ofParameters_outcome config parameters
  · rw [refused, Except.error.injEq] at isError
    rw [isError]
    rfl
  · exact isClientError_of_checked (isChecked.symm.trans refused)

/-- Blameless parameters are refused only for the default size of zero. -/
theorem ofParameters_eq_error_iff_of_blameless
    (blameless : Request.IsBlameless config.defaultDirection parameters) :
    ofParameters config parameters = .error error ↔
      error = .zeroPageSize ∧
        Request.named "size" parameters = [] ∧
        config.defaultPageSize = 0 := by
  obtain ⟨parameter, fault, first, -, -⟩ | ⟨request, collects, isChecked⟩ :=
    ofParameters_outcome config parameters
  · exact absurd (Or.inl first.has) (blameless parameter first.mem)
  · have noZeroGiven :
        ¬∃ parameter,
          (Request.named "size" parameters).getLast? = some parameter ∧
            parameter.GivesCount 0 := by
      rintro ⟨parameter, last, givesZero⟩
      have member := List.mem_of_getLast? last
      rw [Request.named, List.mem_filter, beq_iff_eq] at member
      exact blameless parameter member.1 (Or.inr ⟨member.2, givesZero⟩)
    have isZero_iff := collects.size_eq_zero_iff
    simp only [noZeroGiven, false_or] at isZero_iff
    rw [isChecked, checked_eq_error_iff, isZero_iff]

end PageRequest

namespace PageParameters

variable {config : Config}
variable {typed : PageParameters}
variable {error : QueryError}

/-- Typed parameters are refused for their sort order, or else checked. -/
theorem request_outcome (typed : PageParameters) (config : Config) :
    (∃ raw fault,
      typed.sort = some raw ∧
        SortOrder.read raw config.defaultDirection =
          SortOrder.refuse fault ∧
        typed.request config =
          .error (.invalidParameter SortOrder.parameterName fault)) ∨
    ∃ orders,
      typed.request config =
        PageRequest.checked config
          ⟨typed.page.getD 0, typed.size.getD config.defaultPageSize,
            orders⟩ := by
  unfold request orders
  cases typed.sort with
  | none =>
      exact Or.inr ⟨[], rfl⟩
  | some raw =>
      cases wasRead : SortOrder.read raw config.defaultDirection with
      | ok order =>
          refine Or.inr ⟨[order], ?_⟩
          dsimp only
          rw [wasRead]
          rfl
      | error error =>
          obtain ⟨fault, rfl⟩ := SortOrder.exists_refuse_of_read wasRead
          refine Or.inl ⟨raw, fault, rfl, wasRead, ?_⟩
          dsimp only
          rw [wasRead]
          rfl

theorem isClientError_of_request
    (refused : typed.request config = .error error) :
    error.isClientError = true := by
  obtain ⟨raw, fault, -, -, isError⟩ | ⟨orders, isChecked⟩ :=
    typed.request_outcome config
  · rw [refused, Except.error.injEq] at isError
    rw [isError]
    rfl
  · exact PageRequest.isClientError_of_checked (isChecked.symm.trans refused)

theorem request_eq_error_iff_of_blameless
    (blameless : typed.IsBlameless config.defaultDirection) :
    typed.request config = .error error ↔
      error = .zeroPageSize ∧
        typed.size = none ∧
        config.defaultPageSize = 0 := by
  obtain ⟨raw, fault, present, unread, -⟩ | ⟨orders, isChecked⟩ :=
    typed.request_outcome config
  · obtain ⟨order, wasRead⟩ := blameless.sort raw present
    exact absurd (wasRead.symm.trans unread) (by simp [SortOrder.refuse])
  · have isZero_iff :
        typed.size.getD config.defaultPageSize = 0 ↔
          typed.size = none ∧ config.defaultPageSize = 0 := by
      have notZero := blameless.size
      cases given : typed.size with
      | none =>
          simp
      | some size =>
          rw [given] at notZero
          simpa using notZero
    rw [isChecked, PageRequest.checked_eq_error_iff, isZero_iff]

end PageParameters

/--
Whoever is refused a page without a parameter at fault has given no size, and
the default size is zero; the refusal blames the client all the same.
-/
theorem refused_blameless_iff (config : Config) :
    (∀ parameters error,
      (PageRequest.ofParameters config parameters = .error error →
        error.isClientError = true) ∧
      (Request.IsBlameless config.defaultDirection parameters →
        (PageRequest.ofParameters config parameters = .error error ↔
          error = .zeroPageSize ∧
            Request.named "size" parameters = [] ∧
            config.defaultPageSize = 0))) ∧
    ∀ (typed : PageParameters) (error : QueryError),
      (typed.request config = .error error → error.isClientError = true) ∧
      (typed.IsBlameless config.defaultDirection →
        (typed.request config = .error error ↔
          error = .zeroPageSize ∧
            typed.size = none ∧
            config.defaultPageSize = 0)) := by
  constructor
  · intro parameters error
    exact ⟨PageRequest.isClientError_of_ofParameters,
      PageRequest.ofParameters_eq_error_iff_of_blameless⟩
  · intro typed error
    exact ⟨PageParameters.isClientError_of_request,
      PageParameters.request_eq_error_iff_of_blameless⟩

namespace Club

/-- The default configuration, but with a default size of zero. -/
def noDefaultSize : Config := { Config.default with defaultPageSize := 0 }

/-- A request for an index and an order, without a size. -/
def unsized : List Parameter := [⟨"page", "+1"⟩, ⟨"sort", "id,desc"⟩]

theorem isBlameless_unsized : Request.IsBlameless .ascending unsized := by
  have givesOne : Parameter.GivesCount ⟨"page", "+1"⟩ 1 :=
    Decimal.uint64?_eq_some_iff.mp (by decide)
  have givesOrder :
      Parameter.GivesOrder .ascending ⟨"sort", "id,desc"⟩
        ⟨"id", .descending⟩ := by
    unfold Parameter.GivesOrder
    decide
  rw [Request.IsBlameless, unsized]
  simp only [List.forall_mem_cons, List.not_mem_nil, false_implies,
    implies_true, and_true]
  constructor
  · rintro (malformed | ⟨isSize, -⟩)
    · exact Parameter.not_isMalformed_of_count (Or.inl rfl) givesOne malformed
    · exact absurd isSize (by decide)
  · rintro (malformed | ⟨isSize, -⟩)
    · exact Parameter.not_isMalformed_of_order rfl givesOrder malformed
    · exact absurd isSize (by decide)

end Club

/-- A request without a size is refused, but not for its index and its order. -/
theorem refused_blameless_unsized :
    Request.IsBlameless Club.noDefaultSize.defaultDirection Club.unsized ∧
      PageRequest.ofParameters Club.noDefaultSize Club.unsized =
        .error .zeroPageSize ∧
      QueryError.zeroPageSize.isClientError = true := by
  have refusal :=
    (refused_blameless_iff Club.noDefaultSize).1 Club.unsized .zeroPageSize
  have refused := (refusal.2 Club.isBlameless_unsized).mpr ⟨rfl, rfl, rfl⟩
  exact ⟨Club.isBlameless_unsized, refused, refusal.1 refused⟩

/--
A configuration can be read under which a request without any parameter is
refused, and this is said to be the fault of the request.
-/
theorem not_refused_for_parameters :
    Config.read? "\x7b\"default_page_size\": 0\x7d" =
        some Club.noDefaultSize ∧
      PageRequest.ofParameters Club.noDefaultSize [] =
        .error .zeroPageSize ∧
      (PageParameters.mk none none none).request Club.noDefaultSize =
        .error .zeroPageSize ∧
      QueryError.zeroPageSize.isClientError = true ∧
      ¬∃ parameter ∈ ([] : List Parameter),
        parameter.IsAtFault Club.noDefaultSize.defaultDirection := by
  refine ⟨by decide +kernel, by decide, by decide, rfl, ?_⟩
  simp

end RecordQuery
