import RecordQuery.Proofs.PageBinding

namespace RecordQuery

/-!
# Typed paging parameters

The three paging parameters may come typed or as a list of texts.  The two ways
look at them in different orders: typed parameters have their sort order read
first, a list is read as it stands.  They agree all the same, because a written
number is never malformed, so only the sort order can be, and a size of zero is
refused last in both (`ofParameters_eq_request_of_perm`).
-/

/-- A list that has at most one entry has no other order. -/
theorem eq_toList_of_perm
    {Entry : Type}
    {entries : List Entry}
    {given : Option Entry}
    (perm : entries.Perm given.toList) :
    entries = given.toList := by
  cases given with
  | none =>
      exact List.perm_nil.mp perm
  | some entry =>
      exact List.perm_singleton.mp perm

namespace Parameter

/-- The parameter that gives a number in decimal. -/
def ofCount (name : String) (count : UInt64) : Parameter :=
  ⟨name, Decimal.text count.toNat⟩

/-- The parameter that gives a sort order as it stands. -/
def ofSort (raw : String) : Parameter :=
  ⟨SortOrder.parameterName, raw⟩

theorem givesCount_ofCount (name : String) (count : UInt64) :
    (ofCount name count).GivesCount count := by
  rw [GivesCount, ofCount, Decimal.trim_text]
  exact Decimal.isCount_text count.toNat

end Parameter

/-- The last count of at most one parameter is its own, or the default. -/
theorem Request.lastCount_ofCount
    {name : String}
    {default count : UInt64}
    {given : Option UInt64}
    (last :
      LastCount default (given.map (Parameter.ofCount name)).toList count) :
    count = given.getD default := by
  cases given with
  | none =>
      exact last
  | some value =>
      exact last.unique (Parameter.givesCount_ofCount name value)

namespace PageParameters

/-- The parameters that ask for the same, texts in place of numbers. -/
def parameters (typed : PageParameters) : List Parameter :=
  (typed.page.map (Parameter.ofCount "page")).toList ++
    (typed.size.map (Parameter.ofCount "size")).toList ++
      (typed.sort.map Parameter.ofSort).toList

variable {typed : PageParameters}
variable {parameters : List Parameter}

/-- The parameters of each name are the one that is given, if any. -/
theorem named_parameters (typed : PageParameters) :
    Request.named "page" typed.parameters =
        (typed.page.map (Parameter.ofCount "page")).toList ∧
      Request.named "size" typed.parameters =
        (typed.size.map (Parameter.ofCount "size")).toList ∧
      Request.named SortOrder.parameterName typed.parameters =
        (typed.sort.map Parameter.ofSort).toList := by
  obtain ⟨page, size, sort⟩ := typed
  cases page <;> cases size <;> cases sort <;> exact ⟨rfl, rfl, rfl⟩

/-- Another order does not show in the parameters of one name. -/
theorem named_of_perm
    {name : String}
    {given : Option Parameter}
    (perm : parameters.Perm typed.parameters)
    (isNamed : Request.named name typed.parameters = given.toList) :
    Request.named name parameters = given.toList := by
  apply eq_toList_of_perm
  rw [← isNamed]
  exact perm.filter _

/-- Of typed parameters only the sort order can be malformed. -/
theorem exists_sort_of_malformed
    {direction : Direction}
    {parameter : Parameter}
    {fault : ParameterFault}
    (member : parameter ∈ typed.parameters)
    (malformed : parameter.Malformed direction fault) :
    parameter.name = SortOrder.parameterName ∧
      typed.sort = some parameter.value ∧
        SortOrder.read parameter.value direction =
          SortOrder.refuse fault := by
  simp only [PageParameters.parameters, List.mem_append, Option.mem_toList,
    Option.map_eq_some_iff] at member
  obtain (⟨page, -, rfl⟩ | ⟨size, -, rfl⟩) | ⟨raw, present, rfl⟩ := member
  · exact absurd ⟨fault, malformed⟩
      (Parameter.not_isMalformed_of_count (Or.inl rfl)
        (Parameter.givesCount_ofCount _ page))
  · exact absurd ⟨fault, malformed⟩
      (Parameter.not_isMalformed_of_count (Or.inr rfl)
        (Parameter.givesCount_ofCount _ size))
  · cases malformed with
    | count isNamed _ =>
        have isSort :
            (Parameter.ofSort raw).name = SortOrder.parameterName := rfl
        rw [isSort] at isNamed
        exact absurd isNamed (by decide)
    | order _ refused =>
        exact ⟨rfl, present, refused⟩

theorem orders_of_forall₂
    {config : Config}
    {orders : List SortOrder}
    (given :
      List.Forall₂ (Parameter.GivesOrder config.defaultDirection)
        (typed.sort.map Parameter.ofSort).toList orders) :
    typed.orders config = .ok orders := by
  unfold PageParameters.orders
  cases present : typed.sort with
  | none =>
      rw [present] at given
      cases given
      rfl
  | some raw =>
      rw [present] at given
      cases given with
      | cons gives none =>
          cases none
          have wasRead :
              SortOrder.read raw config.defaultDirection = .ok _ := gives
          dsimp only
          rw [wasRead]
          rfl

end PageParameters

/--
Typed parameters ask for the same page as the same parameters in a list, in
whatever order, or are refused with the same error.
-/
theorem ofParameters_eq_request_of_perm
    {typed : PageParameters}
    {parameters : List Parameter}
    (perm : parameters.Perm typed.parameters)
    (config : Config) :
    PageRequest.ofParameters config parameters = typed.request config := by
  obtain ⟨parameter, fault, first, malformed, refused⟩ |
      ⟨request, collects, isChecked⟩ :=
    PageRequest.ofParameters_outcome config parameters
  · have member : parameter ∈ typed.parameters :=
      perm.mem_iff.mp first.mem
    obtain ⟨isSort, present, unread⟩ :=
      PageParameters.exists_sort_of_malformed member malformed
    have noOrders :
        typed.orders config =
          .error (.invalidParameter SortOrder.parameterName fault) := by
      rw [PageParameters.orders, present]
      dsimp only
      rw [unread]
      rfl
    rw [refused, PageParameters.request, noOrders, isSort]
  · obtain ⟨namedPage, namedSize, namedSort⟩ := typed.named_parameters
    have page := collects.page
    have size := collects.size
    have sort := collects.sort
    rw [PageParameters.named_of_perm perm namedPage] at page
    rw [PageParameters.named_of_perm perm namedSize] at size
    rw [PageParameters.named_of_perm perm namedSort] at sort
    have orders := PageParameters.orders_of_forall₂ sort
    rw [isChecked, PageParameters.request, orders,
      ← Request.lastCount_ofCount page, ← Request.lastCount_ofCount size]

namespace Club

/-- The last index there is, a size of zero and an order by no property. -/
def faultyPaging : PageParameters :=
  ⟨some 18446744073709551615, some 0, some " ,desc"⟩

/-- The same as a list, the sort order first. -/
def faultyPagingList : List Parameter :=
  [⟨"sort", " ,desc"⟩, ⟨"size", "0"⟩, ⟨"page", "18446744073709551615"⟩]

end Club

/-- Of two faults the sort order is reported, wherever it stands. -/
theorem ofParameters_eq_request_of_faultyPaging :
    Club.faultyPagingList.Perm Club.faultyPaging.parameters ∧
      PageRequest.ofParameters default Club.faultyPagingList =
        Club.faultyPaging.request default ∧
      Club.faultyPaging.request default =
        .error (.invalidParameter "sort" .missingProperty) := by
  have perm : Club.faultyPagingList.Perm Club.faultyPaging.parameters := by
    decide
  exact ⟨perm, ofParameters_eq_request_of_perm perm default, by decide⟩

end RecordQuery
