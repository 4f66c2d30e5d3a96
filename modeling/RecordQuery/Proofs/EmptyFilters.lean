import RecordQuery.Proofs.Protocol
import RecordQuery.Proofs.Requests

namespace RecordQuery

/-!
# Empty filters cannot be seen

A field gets an empty filter when it is looked at to be changed, when an operand
does not fit, when its last operator is cleared, or when an empty filter is
inserted.  Two criteria look alike if they have the same filters that are not
empty and the same hint.  Nothing that uses criteria can tell such two apart
(`Criteria.LooksLike.seenAlike`), one edit keeps them alike
(`Criteria.LooksLike.apply`), and so does a whole program
(`Drafts.LookLike.run`).
-/

/-- What can be done to a criteria. -/
inductive Criteria.Edit where
  | insert (field : String) (filter : Filter)
  /-- Looks at a field to change it, and changes nothing. -/
  | touch (field : String)
  | set (field : String) (operator : Operator) (operand : Operand)
  | clear (field : String) (operator : Operator)
  | remove (field : String)
  | setDistinct (distinct : Option Bool)

namespace Criteria

/-- A criteria after an edit; an operand that does not fit is not set. -/
def Edit.apply (criteria : Criteria) : Edit → Criteria
  | insert field filter => criteria.insert field filter
  | touch field => criteria.touch field
  | set field operator operand =>
      (criteria.setOperand field operator operand).2
  | clear field operator => criteria.clear field operator
  | remove field => criteria.remove field
  | setDistinct distinct => criteria.setDistinct distinct

/-- A criteria after a list of edits. -/
def edited (criteria : Criteria) (edits : List Edit) : Criteria :=
  edits.foldl Edit.apply criteria

end Criteria

/-- Criteria at work, by the names that they are kept under. -/
def Drafts : Type := String → Criteria

namespace Drafts

/-- A step of a program that works on criteria. -/
inductive Step where
  | start (draft : String)
  | edit (draft : String) (edit : Criteria.Edit)
  | copy (draft target : String)

/-- The criteria at work with another one under a name. -/
def put (drafts : Drafts) (name : String) (criteria : Criteria) : Drafts :=
  fun other => if name = other then criteria else drafts other

/-- The criteria at work after a step. -/
def after (drafts : Drafts) : Step → Drafts
  | .start draft => drafts.put draft .empty
  | .edit draft edit => drafts.put draft (edit.apply (drafts draft))
  | .copy draft target => drafts.put target (drafts draft)

/-- The criteria at work after a list of steps. -/
def run (drafts : Drafts) (steps : List Step) : Drafts :=
  steps.foldl after drafts

/-- The criteria that a program makes; before its first step all are empty. -/
def made (steps : List Step) : Drafts :=
  run (fun _ => .empty) steps

end Drafts

/-- A filter without some operators. -/
def Filter.without (filter : Filter) (operators : List Operator) : Filter :=
  operators.foldl Filter.clear filter

namespace Filter

variable {filter : Filter}

theorem eq_empty_of_isEmpty (isEmpty : filter.isEmpty = true) :
    filter = Filter.empty := by
  apply ext_operand?
  intro operator
  rw [operand?_empty, ← Option.not_isSome_iff_eq_none, ← mem_operators]
  rw [Filter.isEmpty, List.isEmpty_iff] at isEmpty
  rw [isEmpty]
  exact List.not_mem_nil

theorem operand?_without
    (operators : List Operator)
    (filter : Filter)
    (operator : Operator) :
    (filter.without operators).operand? operator =
      if operator ∈ operators then none else filter.operand? operator := by
  induction operators generalizing filter with
  | nil =>
      rfl
  | cons first rest inductionHypothesis =>
      rw [without, List.foldl_cons, ← without, inductionHypothesis,
        operand?_clear]
      by_cases inRest : operator ∈ rest
      · simp [inRest]
      · simp [inRest, eq_comm]

/-- Without its populated operators a filter is empty. -/
theorem without_eq_empty
    {operators : List Operator}
    (covers : ∀ operator ∈ filter.operators, operator ∈ operators) :
    filter.without operators = Filter.empty := by
  apply ext_operand?
  intro operator
  rw [operand?_without, operand?_empty]
  split
  next =>
    rfl
  next notCleared =>
    rw [← Option.not_isSome_iff_eq_none, ← mem_operators]
    exact fun populated => notCleared (covers operator populated)

end Filter

namespace Criteria

/-- Two criteria that agree in all but empty filters. -/
structure LooksLike (left right : Criteria) : Prop where
  fields : left.fields = right.fields
  distinct : left.distinct = right.distinct

/-- Two criteria that cannot be told apart by using them. -/
structure SeenAlike (left right : Criteria) : Prop where
  isEmpty : left.isEmpty = right.isEmpty
  display : left.display = right.display
  compile :
    ∀ dialect entity,
      tracedCompile dialect entity (some left) =
        tracedCompile dialect entity (some right)
  /-- A query gives the same result, raises the same events and calls alike. -/
  ask :
    ∀ (service : Service) (visibility : Visibility) (Result : Type)
      (question : Question Result),
      service.ask (some left) visibility question =
        service.ask (some right) visibility question

/-- The filters that are not empty, as a map. -/
def shown (criteria : Criteria) : NameMap Filter where
  entries := criteria.fields
  ascending := criteria.filters.ascending.filter _

theorem get?_shown (criteria : Criteria) (name : String) :
    criteria.shown.get? name = criteria.populated? name := by
  apply Option.ext
  intro filter
  rw [NameMap.get?_eq_some_iff, shown, mem_fields_iff]

variable {criteria left right : Criteria}

/-- The filters that are not empty are those that are found by name. -/
theorem fields_eq_iff :
    left.fields = right.fields ↔
      ∀ name, left.populated? name = right.populated? name := by
  constructor
  · intro sameFields name
    apply Option.ext
    intro filter
    rw [← mem_fields_iff, sameFields, mem_fields_iff]
  · intro samePopulated
    have sameShown : left.shown = right.shown := by
      apply NameMap.ext_get?
      intro name
      rw [get?_shown, get?_shown, samePopulated]
    exact congrArg NameMap.entries sameShown

theorem LooksLike.populated?
    (alike : left.LooksLike right)
    (name : String) :
    left.populated? name = right.populated? name :=
  fields_eq_iff.mp alike.fields name

/-- A field without a populated filter is as good as one with none. -/
theorem filterOrEmpty_eq (criteria : Criteria) (name : String) :
    criteria.filterOrEmpty name =
      (criteria.populated? name).getD Filter.empty := by
  rw [populated?_eq]
  split
  next isEmpty =>
    exact Filter.eq_empty_of_isEmpty isEmpty
  next =>
    rfl

theorem populated?_remove
    (criteria : Criteria)
    (field name : String) :
    (criteria.remove field).populated? name =
      if field = name then none else criteria.populated? name := by
  rw [populated?, filter?_remove]
  split <;> rfl

theorem filterOrEmpty_insert
    (criteria : Criteria)
    (field : String)
    (filter : Filter) :
    (criteria.insert field filter).filterOrEmpty field = filter := by
  rw [filterOrEmpty, filter?_insert, if_pos rfl, Option.getD_some]

namespace LooksLike

theorem trans
    {middle : Criteria}
    (before : left.LooksLike middle)
    (after : middle.LooksLike right) :
    left.LooksLike right :=
  ⟨before.fields.trans after.fields, before.distinct.trans after.distinct⟩

theorem filterOrEmpty
    (alike : left.LooksLike right)
    (field : String) :
    left.filterOrEmpty field = right.filterOrEmpty field := by
  rw [filterOrEmpty_eq, alike.populated?, ← filterOrEmpty_eq]

theorem insert
    (alike : left.LooksLike right)
    (field : String)
    (filter : Filter) :
    (left.insert field filter).LooksLike (right.insert field filter) where
  fields := by
    rw [fields_eq_iff]
    intro name
    rw [populated?_insert, populated?_insert, alike.populated?]
  distinct := alike.distinct

theorem remove (alike : left.LooksLike right) (field : String) :
    (left.remove field).LooksLike (right.remove field) where
  fields := by
    rw [fields_eq_iff]
    intro name
    rw [populated?_remove, populated?_remove, alike.populated?]
  distinct := alike.distinct

theorem touch (alike : left.LooksLike right) (field : String) :
    (left.touch field).LooksLike (right.touch field) := by
  rw [Criteria.touch, Criteria.touch, alike.filterOrEmpty]
  exact alike.insert field _

/-- Criteria that look alike still do after the same edit. -/
theorem apply (alike : left.LooksLike right) (edit : Edit) :
    (edit.apply left).LooksLike (edit.apply right) := by
  cases edit with
  | insert field filter =>
      exact alike.insert field filter
  | touch field =>
      exact alike.touch field
  | set field operator operand =>
      simp only [Edit.apply, setOperand, alike.filterOrEmpty]
      split
      · exact alike.insert field _
      · exact alike.touch field
  | clear field operator =>
      simp only [Edit.apply, Criteria.clear, alike.filterOrEmpty]
      exact alike.insert field _
  | remove field =>
      exact alike.remove field
  | setDistinct distinct =>
      exact ⟨alike.fields, rfl⟩

/-- Criteria that look alike cannot be told apart by using them. -/
theorem seenAlike (alike : left.LooksLike right) :
    left.SeenAlike right := by
  have sameDisplay : left.display = right.display :=
    display_eq_of_fields_eq alike.fields alike.distinct
  have sameCompilation (dialect : Sql.Dialect) (entity : Entity) :
      tracedCompile dialect entity (some left) =
        tracedCompile dialect entity (some right) := by
    rw [tracedCompile, tracedCompile,
      compile_congr alike.populated? alike.distinct]
  refine ⟨?_, sameDisplay, sameCompilation, ?_⟩
  · rw [Criteria.isEmpty, alike.fields, Criteria.isEmpty]
  · intro service visibility Result question
    have sameAsked (entity : Entity) :
        question.asked entity (some left) =
          question.asked entity (some right) := by
      cases question <;> simp [Question.asked, Service.describe, sameDisplay]
    rw [Service.ask_eq_query, Service.ask_eq_query, sameAsked]
    simp only [Service.query, Service.compile, sameCompilation]

end LooksLike

/-- An empty filter looks like none at all. -/
theorem looksLike_insert_empty (criteria : Criteria) (field : String) :
    (criteria.insert field Filter.empty).LooksLike
      (criteria.remove field) where
  fields := by
    rw [fields_eq_iff]
    intro name
    rw [populated?_insert, populated?_remove]
    rfl
  distinct := rfl

theorem looksLike_insert_insert
    (criteria : Criteria)
    (field : String)
    (filter other : Filter) :
    ((criteria.insert field filter).insert field other).LooksLike
      (criteria.insert field other) where
  fields := by
    rw [fields_eq_iff]
    intro name
    rw [populated?_insert, populated?_insert, populated?_insert]
    split <;> rfl
  distinct := rfl

/-- Looking at a field to change it gives it at most an empty filter. -/
theorem looksLike_touch (criteria : Criteria) (field : String) :
    criteria.LooksLike (criteria.touch field) where
  fields := by
    rw [fields_eq_iff]
    intro name
    rw [touch, populated?_insert]
    split
    next same =>
      subst same
      rw [populated?_eq, Option.filter_some]
      cases (criteria.filterOrEmpty field).isEmpty <;> rfl
    next =>
      rfl
  distinct := rfl

/-- Clearing operators of a field leaves its filter without them. -/
theorem looksLike_edited_clear
    (operators : List Operator)
    (criteria : Criteria)
    (field : String) :
    (criteria.edited (operators.map (.clear field))).LooksLike
      (criteria.insert field
        ((criteria.filterOrEmpty field).without operators)) := by
  induction operators generalizing criteria with
  | nil =>
      exact criteria.looksLike_touch field
  | cons first rest inductionHypothesis =>
      have cleared := inductionHypothesis (criteria.clear field first)
      rw [clear, filterOrEmpty_insert] at cleared
      exact cleared.trans (looksLike_insert_insert ..)

/-- Clearing the populated operators of a field is as good as removing it. -/
theorem looksLike_remove_of_clear
    {operators : List Operator}
    {field : String}
    (covers :
      ∀ operator ∈ (criteria.filterOrEmpty field).operators,
        operator ∈ operators) :
    (criteria.edited (operators.map (.clear field))).LooksLike
      (criteria.remove field) := by
  have cleared := looksLike_edited_clear operators criteria field
  rw [Filter.without_eq_empty covers] at cleared
  exact cleared.trans (criteria.looksLike_insert_empty field)

end Criteria

namespace Drafts

/-- Criteria at work that look alike under every name. -/
def LookLike (left right : Drafts) : Prop :=
  ∀ name, (left name).LooksLike (right name)

variable {left right : Drafts}

theorem put_put
    (drafts : Drafts)
    (name : String)
    (criteria other : Criteria) :
    (drafts.put name criteria).put name other = drafts.put name other := by
  funext draft
  unfold put
  split <;> rfl

theorem put_self (drafts : Drafts) (name : String) :
    drafts.put name (drafts name) = drafts := by
  funext draft
  unfold put
  split
  next same =>
    rw [same]
  next =>
    rfl

theorem put_apply_self
    (drafts : Drafts)
    (name : String)
    (criteria : Criteria) :
    drafts.put name criteria name = criteria :=
  if_pos rfl

theorem LookLike.put
    (alike : left.LookLike right)
    (draft : String)
    {criteria other : Criteria}
    (alikeHere : criteria.LooksLike other) :
    (left.put draft criteria).LookLike (right.put draft other) := by
  intro name
  unfold Drafts.put
  split
  · exact alikeHere
  · exact alike name

/-- Criteria at work that look alike still do after the same step. -/
theorem LookLike.after (alike : left.LookLike right) (step : Step) :
    (left.after step).LookLike (right.after step) := by
  cases step with
  | start draft =>
      exact alike.put draft ⟨rfl, rfl⟩
  | edit draft edit =>
      exact alike.put draft ((alike draft).apply edit)
  | copy draft target =>
      exact alike.put target (alike draft)

/-- Whatever a program does to criteria that look alike, they still do. -/
theorem LookLike.run (alike : left.LookLike right) (steps : List Step) :
    (left.run steps).LookLike (right.run steps) := by
  induction steps generalizing left right with
  | nil =>
      exact alike
  | cons step rest inductionHypothesis =>
      exact inductionHypothesis (alike.after step)

theorem made_append (earlier later : List Step) :
    made (earlier ++ later) = (made earlier).run later :=
  List.foldl_append

/-- Edits of one draft change it, and no other. -/
theorem run_edits
    (drafts : Drafts)
    (draft : String)
    (edits : List Criteria.Edit) :
    drafts.run (edits.map (.edit draft)) =
      drafts.put draft ((drafts draft).edited edits) := by
  induction edits generalizing drafts with
  | nil =>
      exact (drafts.put_self draft).symm
  | cons edit rest inductionHypothesis =>
      have later := inductionHypothesis (drafts.after (.edit draft edit))
      rw [after, put_put, put_apply_self] at later
      exact later

/-- Clearing the populated operators of a field is as good as removing it. -/
theorem lookLike_remove_of_clear
    {drafts : Drafts}
    {draft field : String}
    {operators : List Operator}
    (covers :
      ∀ operator ∈ ((drafts draft).filterOrEmpty field).operators,
        operator ∈ operators) :
    (drafts.run
        ((operators.map (.clear field)).map (.edit draft))).LookLike
      (drafts.after (.edit draft (.remove field))) := by
  rw [run_edits]
  have unchanged : drafts.LookLike drafts := fun _ => ⟨rfl, rfl⟩
  exact unchanged.put draft (Criteria.looksLike_remove_of_clear covers)

end Drafts

/--
No use of a criteria sees its empty filters, in whatever way it came by them:
criteria that agree in their other filters and their hint are seen alike, and
stay so in whatever is made of them.

To clear the operators that a field has is as good as to remove the field.
-/
theorem emptyFilters_unseen (steps : List Drafts.Step) :
    (∀ others draft other,
      (Drafts.made steps draft).fields =
          (Drafts.made others other).fields →
        (Drafts.made steps draft).distinct =
            (Drafts.made others other).distinct →
          (Drafts.made steps draft).SeenAlike
            (Drafts.made others other)) ∧
      (∀ others,
        (Drafts.made steps).LookLike (Drafts.made others) →
          ∀ further draft,
            (Drafts.made (steps ++ further) draft).SeenAlike
              (Drafts.made (others ++ further) draft)) ∧
      ∀ (edited field : String) (operators : List Operator),
        (∀ operator ∈
            ((Drafts.made steps edited).filterOrEmpty field).operators,
          operator ∈ operators) →
          ∀ further draft,
            (Drafts.made
                (steps ++
                  (operators.map (.clear field)).map (.edit edited) ++
                  further)
                draft).SeenAlike
              (Drafts.made
                (steps ++ [.edit edited (.remove field)] ++ further)
                draft) := by
  refine ⟨?_, ?_, ?_⟩
  · intro others draft other sameFields sameDistinct
    exact Criteria.LooksLike.seenAlike ⟨sameFields, sameDistinct⟩
  · intro others alike further draft
    rw [Drafts.made_append, Drafts.made_append]
    exact (alike.run further draft).seenAlike
  · intro edited field operators covers further draft
    have alike := Drafts.lookLike_remove_of_clear covers
    rw [Drafts.made_append, Drafts.made_append, Drafts.made_append,
      Drafts.made_append]
    exact (alike.run further draft).seenAlike

namespace Club

/-- Players that are active, and the same after looking at other fields. -/
def lookedAt : List Drafts.Step :=
  [ .edit "asked" (.set "status" .equals (.value (.text "ACTIVE"))),
    .copy "asked" "looked",
    .edit "looked" (.touch "no field"),
    .edit "looked" (.set "phone" .equals (.values [])),
    .edit "looked" (.set "level" .specified (.flag true)),
    .edit "looked" (.clear "level" .specified),
    .edit "looked" (.insert "gender" .empty) ]

end Club

/-- Four empty filters, one of them on a field that no player has. -/
theorem emptyFilters_unseen_lookedAt :
    ((Drafts.made Club.lookedAt "looked").filters.entries.map Prod.fst =
        ["gender", "level", "no field", "phone", "status"]) ∧
      (Drafts.made Club.lookedAt "looked").display =
        "Criteria\x7bstatus: [equals=ACTIVE]\x7d" ∧
      (Drafts.made Club.lookedAt "asked").SeenAlike
        (Drafts.made Club.lookedAt "looked") ∧
      (Drafts.made
          (Club.lookedAt ++ [.edit "looked" (.clear "status" .equals)])
          "looked").SeenAlike
        (Drafts.made
          (Club.lookedAt ++ [.edit "looked" (.remove "status")])
          "looked") := by
  obtain ⟨unseen, -, cleared⟩ := emptyFilters_unseen Club.lookedAt
  have alike :=
    unseen Club.lookedAt "asked" "looked" (by decide) (by decide)
  refine ⟨by decide, ?_, alike, ?_⟩
  · rw [← alike.display]
    decide
  · exact cleared "looked" "status" [.equals] (by decide) [] "looked"

end RecordQuery
