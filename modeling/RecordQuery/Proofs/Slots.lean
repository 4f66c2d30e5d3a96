import RecordQuery.Proofs.Faults

namespace RecordQuery

/-!
# What the slots of a filter hold

A filter is edited by setting an operator, extending the filter by a comparison
and clearing an operator.  An edit is about one operator: it changes the slot of
that operator and no other, or it is refused and changes nothing
(`Filter.Edit.operand?_perform`).  After a list of edits a slot therefore holds
what it was last given, if it was not cleared since
(`Filter.operand?_edited_iff`).

Whatever a filter holds, the lists that are read off it tell neither more nor
less (`Filter.tellsSlots`).
-/

/-- An operator is declared before another one. -/
def Operator.IsBefore (operator other : Operator) : Prop :=
  operator.ctorIdx < other.ctorIdx

/-- All operators are listed in the order of their declaration. -/
theorem Operator.pairwise_all : all.Pairwise IsBefore := by
  unfold IsBefore
  decide

namespace Filter

/-- What can be done to a filter. -/
inductive Edit where
  | set (operator : Operator) (operand : Operand)
  | extend (extension : Extension) (value : Value)
  | clear (operator : Operator)

namespace Edit

/-- The operator whose slot an edit is about. -/
def operator : Edit → Operator
  | set operator _ => operator
  | extend extension _ => extension.operator
  | clear operator => operator

/-- What an edit puts into its slot; clearing leaves nothing there. -/
def gives? : Edit → Option Operand
  | set _ operand => some operand
  | extend _ value => some (.value value)
  | clear _ => none

/-- Whether an edit can be done; only an operand to be set may not fit. -/
def fits : Edit → Bool
  | set operator operand => operand.fits operator
  | extend _ _ => true
  | clear _ => true

/-- What an edit answers, and the filter after it. -/
def perform (filter : Filter) : Edit → Except QueryError Unit × Filter
  | set operator operand =>
      match filter.set operator operand with
      | .ok changed => (.ok (), changed)
      | .error error => (.error error, filter)
  | extend extension value => (.ok (), filter.extend extension value)
  | clear operator => (.ok (), filter.clear operator)

end Edit

/-- A filter after a list of edits. -/
def edited (filter : Filter) (edits : List Edit) : Filter :=
  edits.foldl (fun filter edit => (edit.perform filter).2) filter

/-- The edits of a filter, each with what it answered. -/
def history (filter : Filter) :
    List Edit → List (Edit × Except QueryError Unit)
  | [] => []
  | edit :: rest =>
      (edit, (edit.perform filter).1) ::
        history (edit.perform filter).2 rest

/-- No edit about an operator succeeded. -/
def Untouched
    (history : List (Edit × Except QueryError Unit))
    (operator : Operator) :
    Prop :=
  ∀ entry ∈ history, entry.1.operator = operator → entry.2 ≠ .ok ()

/--
The last edit about an operator that succeeded gave it an operand.

Clearing succeeds and gives nothing, so the operator was not cleared since.
-/
def LastGiven
    (history : List (Edit × Except QueryError Unit))
    (operator : Operator)
    (operand : Operand) :
    Prop :=
  ∃ earlier edit later,
    history = earlier ++ (edit, .ok ()) :: later ∧
      edit.operator = operator ∧ edit.gives? = some operand ∧
      Untouched later operator

/-- An edit is done in its own slot, or refused and not done at all. -/
structure Edit.KeepsToSlot (edit : Edit) (filter : Filter) : Prop where
  succeeds : edit.fits = true → (edit.perform filter).1 = .ok ()
  own :
    edit.fits = true →
      (edit.perform filter).2.operand? edit.operator = edit.gives?
  /-- A refused edit was to set an operand of another shape. -/
  refused :
    edit.fits = false →
      ∃ operator operand,
        edit = .set operator operand ∧
          edit.perform filter =
            (.error
                (.invalidFilter operator.name (.shape operator operand)),
              filter)
  others :
    ∀ other, other ≠ edit.operator →
      (edit.perform filter).2.operand? other = filter.operand? other

/-- What is read off a filter is what its slots hold. -/
structure TellsSlots (filter : Filter) : Prop where
  listed :
    ∀ operator,
      operator ∈ filter.operators ↔ filter.operand? operator ≠ none
  once : filter.operators.Nodup
  ordered : filter.operators.Pairwise Operator.IsBefore
  isEmpty :
    filter.isEmpty = true ↔ ∀ operator, filter.operand? operator = none
  /-- With each operator, its one value or all members of its set are listed. -/
  values :
    ∀ operator,
      (filter.values.filter fun entry => entry.1 = operator) =
        ((filter.operand? operator).elim [] Operand.members).map
          fun value => (operator, value)

variable {filter : Filter}

/-- An operand of another shape is refused. -/
theorem set_of_not_fits
    {operator : Operator}
    {operand : Operand}
    (misfits : operand.fits operator = false) :
    filter.set operator operand =
      .error (.invalidFilter operator.name (.shape operator operand)) := by
  cases operator <;> cases operand <;> cases misfits <;> rfl

namespace Edit

variable {edit : Edit}

/-- An operand that fits is set, and nothing else can go wrong. -/
theorem perform_of_fits (fits : edit.fits = true) :
    (edit.perform filter).1 = .ok () := by
  cases edit with
  | set operator operand =>
      obtain ⟨changed, succeeded⟩ :=
        (set_isOk_iff filter operator operand).mpr fits
      rw [perform, succeeded]
  | extend extension value =>
      rfl
  | clear operator =>
      rfl

/-- A refused edit leaves the filter as it was. -/
theorem perform_of_not_fits
    (misfits : edit.fits = false)
    (filter : Filter) :
    ∃ operator operand,
      edit = .set operator operand ∧
        edit.perform filter =
          (.error (.invalidFilter operator.name (.shape operator operand)),
            filter) := by
  cases edit with
  | set operator operand =>
      refine ⟨operator, operand, rfl, ?_⟩
      rw [perform, set_of_not_fits misfits]
  | extend extension value =>
      exact absurd misfits (Ne.symm Bool.false_ne_true)
  | clear operator =>
      exact absurd misfits (Ne.symm Bool.false_ne_true)

/-- An edit answers that it was done exactly when it fits. -/
theorem perform_eq_ok_iff (filter : Filter) :
    (edit.perform filter).1 = .ok () ↔ edit.fits = true := by
  constructor
  · intro succeeded
    rw [← Bool.not_eq_false]
    intro misfits
    obtain ⟨operator, operand, -, failed⟩ :=
      perform_of_not_fits misfits filter
    rw [failed] at succeeded
    cases succeeded
  · exact perform_of_fits

/-- An edit that fits is done in the slot of its operator, and in no other. -/
theorem operand?_perform
    (filter : Filter)
    (edit : Edit)
    (other : Operator) :
    (edit.perform filter).2.operand? other =
      if edit.fits = true ∧ edit.operator = other then
        edit.gives?
      else
        filter.operand? other := by
  cases edit with
  | set operator operand =>
      cases fits : operand.fits operator with
      | true =>
          obtain ⟨changed, succeeded⟩ :=
            (set_isOk_iff filter operator operand).mpr fits
          simp only [perform, succeeded, operand?_set succeeded, Edit.fits,
            fits, Edit.operator, gives?, true_and]
      | false =>
          simp only [perform, set_of_not_fits fits, Edit.fits, fits,
            Bool.false_eq_true, false_and, if_false]
  | extend extension value =>
      simp only [perform, operand?_extend, Edit.fits, Edit.operator, gives?,
        true_and]
  | clear operator =>
      simp only [perform, operand?_clear, Edit.fits, Edit.operator, gives?,
        true_and]

theorem keepsToSlot (edit : Edit) (filter : Filter) :
    edit.KeepsToSlot filter where
  succeeds := perform_of_fits
  own fits := by
    rw [operand?_perform, if_pos ⟨fits, rfl⟩]
  refused misfits := perform_of_not_fits misfits filter
  others := by
    intro other isOther
    rw [operand?_perform, if_neg]
    exact fun isOwn => isOther isOwn.2.symm

end Edit

variable {edit : Edit}
variable {answer : Except QueryError Unit}
variable {history : List (Edit × Except QueryError Unit)}
variable {operator : Operator}
variable {operand : Operand}

theorem untouched_cons :
    Untouched ((edit, answer) :: history) operator ↔
      (edit.operator = operator → answer ≠ .ok ()) ∧
        Untouched history operator :=
  List.forall_mem_cons

/-- The first edit counts as long as no later one about its operator does. -/
theorem lastGiven_cons :
    LastGiven ((edit, answer) :: history) operator operand ↔
      LastGiven history operator operand ∨
        answer = .ok () ∧ edit.operator = operator ∧
          edit.gives? = some operand ∧ Untouched history operator := by
  constructor
  · rintro ⟨earlier, given, later, shape, isAbout, gives, untouched⟩
    cases earlier with
    | nil =>
        obtain ⟨sameEntry, rfl⟩ := List.cons.inj shape
        obtain ⟨rfl, rfl⟩ := Prod.mk.inj sameEntry
        exact Or.inr ⟨rfl, isAbout, gives, untouched⟩
    | cons first earlier =>
        exact Or.inl
          ⟨earlier, given, later, (List.cons.inj shape).2, isAbout, gives,
            untouched⟩
  · rintro (⟨earlier, given, later, rfl, isGiven⟩ |
      ⟨rfl, isAbout, gives, untouched⟩)
    · exact ⟨(edit, answer) :: earlier, given, later, rfl, isGiven⟩
    · exact ⟨[], edit, history, rfl, isAbout, gives, untouched⟩

/-- A slot holds what it was last given, or what it held if left alone. -/
theorem operand?_edited_iff
    (filter : Filter)
    (edits : List Edit)
    (operator : Operator)
    (operand : Operand) :
    (filter.edited edits).operand? operator = some operand ↔
      LastGiven (filter.history edits) operator operand ∨
        Untouched (filter.history edits) operator ∧
          filter.operand? operator = some operand := by
  induction edits generalizing filter with
  | nil =>
      simp [edited, Filter.history, LastGiven, Untouched]
  | cons edit rest inductionHypothesis =>
      rw [edited, List.foldl_cons, ← edited, inductionHypothesis,
        Filter.history, lastGiven_cons, untouched_cons, ne_eq,
        Edit.perform_eq_ok_iff, Edit.operand?_perform]
      -- The slot changes only if the edit is about it and is done.
      by_cases isAbout : edit.operator = operator
      · cases fits : edit.fits with
        | true =>
            simp [isAbout, and_comm]
        | false =>
            simp [isAbout]
      · simp [isAbout]

/-- Of distinct operators, the typed values of one are those listed with it. -/
theorem filter_flatMap_valuesOf
    {operators : List Operator}
    (distinct : operators.Nodup) :
    ((operators.flatMap filter.valuesOf).filter fun entry =>
        entry.1 = operator) =
      if operator ∈ operators then filter.valuesOf operator else [] := by
  induction operators with
  | nil =>
      rfl
  | cons first rest inductionHypothesis =>
      obtain ⟨notAgain, restDistinct⟩ := List.nodup_cons.mp distinct
      rw [List.flatMap_cons, List.filter_append,
        inductionHypothesis restDistinct]
      by_cases same : first = operator
      · subst same
        have all :
            ((filter.valuesOf first).filter fun entry =>
              entry.1 = first) = filter.valuesOf first := by
          rw [List.filter_eq_self]
          intro entry member
          exact decide_eq_true (fst_of_mem_valuesOf member)
        simp [all, notAgain]
      · have none :
            ((filter.valuesOf first).filter fun entry =>
              entry.1 = operator) = [] := by
          rw [List.filter_eq_nil_iff]
          intro entry member
          rw [fst_of_mem_valuesOf member]
          simpa using same
        simp [none, Ne.symm same]

theorem valuesOf_eq_map_members (operator : Operator) :
    filter.valuesOf operator =
      ((filter.operand? operator).elim [] Operand.members).map
        fun value => (operator, value) := by
  rw [valuesOf]
  cases filter.operand? operator <;> rfl

/-- The values listed with an operator are all that its slot holds. -/
theorem filter_values (filter : Filter) (operator : Operator) :
    (filter.values.filter fun entry => entry.1 = operator) =
      ((filter.operand? operator).elim [] Operand.members).map
        fun value => (operator, value) := by
  rw [values_eq, filter_flatMap_valuesOf (by decide),
    ← valuesOf_eq_map_members]
  split
  next =>
    rfl
  next unlisted =>
    -- Flags and substrings are not listed, and have no members to miss.
    rw [valuesOf_eq_map_members, eq_comm, List.map_eq_nil_iff,
      List.eq_nil_iff_forall_not_mem]
    intro value member
    cases populated : filter.operand? operator with
    | none =>
        rw [populated] at member
        exact List.not_mem_nil member
    | some operand =>
        rw [populated] at member
        exact unlisted (mem_valuedOperators populated member)

theorem tellsSlots (filter : Filter) : filter.TellsSlots where
  listed operator := by
    rw [mem_operators, Option.isSome_iff_ne_none]
  once := filter.nodup_operators
  ordered := by
    rw [operators_eq]
    exact Operator.pairwise_all.filter _
  isEmpty := by
    rw [isEmpty, List.isEmpty_iff, List.eq_nil_iff_forall_not_mem]
    simp only [mem_operators, Option.not_isSome_iff_eq_none]
  values := filter.filter_values

end Filter

/--
After any edits of an empty filter, each slot holds what its operator was last
given and nothing else; one more edit is done in its own slot or refused without
a trace; and what is read off the filter is what its slots hold.
-/
theorem slots_follow_edits (edits : List Filter.Edit) :
    (∀ operator operand,
      (Filter.empty.edited edits).operand? operator = some operand ↔
        Filter.LastGiven (Filter.empty.history edits) operator operand) ∧
      (∀ edit : Filter.Edit,
        edit.KeepsToSlot (Filter.empty.edited edits)) ∧
      (Filter.empty.edited edits).TellsSlots := by
  refine ⟨?_, fun edit => edit.keepsToSlot _, Filter.tellsSlots _⟩
  intro operator operand
  have held :=
    Filter.operand?_edited_iff Filter.empty edits operator operand
  -- An empty filter has nothing to keep in a slot that is left alone.
  simpa only [Filter.operand?_empty, reduceCtorEq, and_false, or_false]
    using held

namespace Filter

/-- One set in place of another, a refused edit and a substring cleared again. -/
def reconsidered : List Edit :=
  [ .set .oneOf (.values [.integer 1]),
    .extend .lessThan (.integer 9),
    .set .contains (.substring "court"),
    .set .oneOf (.values [.integer 2, .integer 3]),
    .set .lessThan (.values []),
    .clear .contains,
    .extend .notEquals (.integer 5) ]

end Filter

/-- Three slots are filled, one with the set given last; a misfit is refused. -/
theorem slots_follow_reconsidered :
    (Filter.empty.edited Filter.reconsidered).operators =
        [.notEquals, .oneOf, .lessThan] ∧
      Filter.LastGiven (Filter.empty.history Filter.reconsidered)
        .oneOf (.values [.integer 2, .integer 3]) ∧
      Filter.LastGiven (Filter.empty.history Filter.reconsidered)
        .lessThan (.value (.integer 9)) ∧
      (∀ operand,
        ¬Filter.LastGiven (Filter.empty.history Filter.reconsidered)
          .contains operand) ∧
      (Filter.Edit.set .specified (.substring "court")).perform
          (Filter.empty.edited Filter.reconsidered) =
        (.error
            (.invalidFilter "specified"
              (.shape .specified (.substring "court"))),
          Filter.empty.edited Filter.reconsidered) ∧
      ((Filter.empty.edited Filter.reconsidered).values.filter
          fun entry => entry.1 = .oneOf) =
        [(.oneOf, .integer 2), (.oneOf, .integer 3)] := by
  obtain ⟨held, kept, tells⟩ := slots_follow_edits Filter.reconsidered
  refine ⟨by decide, (held .oneOf _).mp rfl, (held .lessThan _).mp rfl, ?_, ?_,
    tells.values .oneOf⟩
  · intro operand given
    exact nomatch (held .contains operand).mpr given
  · obtain ⟨operator, operand, same, refused⟩ :=
      (kept (.set .specified (.substring "court"))).refused rfl
    cases same
    exact refused

end RecordQuery
