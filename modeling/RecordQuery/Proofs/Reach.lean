import RecordQuery.Proofs.Requests

namespace RecordQuery

/-!
# Which fields a request reaches

A request filters a field with the parameter `field.operator`.  The name of a
parameter is cut at its first dot, so the parameter reaches the field exactly
when the name of the field has no dot (`ofParameters_reaches_iff`).  Otherwise
the cut falls inside the field's name: another field is looked up, under an
operator that does not exist, and the field itself stays unfiltered.
-/

namespace Text

variable {separator : Char}

theorem cut?_append_of_not_mem
    {before : List Char}
    (absent : separator ∉ before)
    (after : List Char) :
    cut? separator (before ++ separator :: after) = some (before, after) := by
  induction before with
  | nil =>
      simp [cut?]
  | cons character rest inductionHypothesis =>
      rw [List.mem_cons, not_or] at absent
      simp [cut?, Ne.symm absent.1, inductionHypothesis absent.2]

/-- The first separator is where it was when a text goes on. -/
theorem cut?_append_of_cut?
    {characters before after : List Char}
    (cutHere : cut? separator characters = some (before, after))
    (more : List Char) :
    cut? separator (characters ++ more) = some (before, after ++ more) := by
  obtain ⟨rfl, absent⟩ := cut?_eq_some cutHere
  rw [List.append_assoc, List.cons_append]
  exact cut?_append_of_not_mem absent (after ++ more)

end Text

/-- No operator is named with a dot. -/
theorem Operator.dot_not_mem_name (operator : Operator) :
    '.' ∉ operator.name.toList := by
  cases operator <;> decide

namespace Parameter

/-- The parameter that asks for an operator on the field of a name. -/
def asking (name : String) (operator : Operator) (value : String) :
    Parameter :=
  ⟨name ++ "." ++ operator.name, value⟩

variable {entity : Entity}
variable {name value : String}
variable {operator : Operator}

theorem toList_name_asking :
    (asking name operator value).name.toList =
      name.toList ++ '.' :: operator.name.toList := by
  simp [asking]

/-- The hint for distinct records is named without a dot. -/
theorem name_asking_ne_distinctName :
    (asking name operator value).name ≠ distinctName := by
  intro isDistinct
  have dotted : '.' ∈ (asking name operator value).name.toList := by
    simp [toList_name_asking]
  rw [isDistinct] at dotted
  exact absurd dotted (by decide)

theorem names_asking
    (undotted : '.' ∉ name.toList) :
    (asking name operator value).Names name operator := by
  simp [Names, Text.cutAt?, toList_name_asking,
    Text.cut?_append_of_not_mem undotted]

/-- A readable parameter that names an operator of a field asks for it. -/
theorem binding_of_names
    {parameter : Parameter}
    {field : Field}
    {operand : Operand}
    (notDistinct : parameter.name ≠ distinctName)
    (names : parameter.Names field.name operator)
    (known : entity.field? field.name = some field)
    (supported : field.kind.supports operator = true)
    (short : parameter.value.utf8ByteSize ≤ maxValueBytes)
    (wasRead :
      Request.operand field.kind operator parameter.value = .ok operand) :
    parameter.binding entity = .ok (.operand field operator operand) := by
  rw [Names] at names
  rw [binding, if_neg (Nat.not_lt.mpr short), if_neg notDistinct, names]
  dsimp only
  rw [known]
  simp [fieldBinding, supported, wasRead, naming, Except.map]

/-- A name with a dot is cut inside, and what follows is no operator. -/
theorem operandFor?_asking_of_dotted
    (dotted : '.' ∈ name.toList)
    (other : String)
    (otherOperator : Operator) :
    (asking name operator value).operandFor? entity other
      otherOperator = none := by
  cases cutName : Text.cut? '.' name.toList with
  | none =>
      exact absurd dotted (Text.cut?_eq_none_iff.mp cutName)
  | some parts =>
      have cutHere :=
        Text.cut?_append_of_cut? cutName ('.' :: operator.name.toList)
      rw [operandFor?, if_neg]
      simp only [Text.cutAt?, toList_name_asking, cutHere, Option.map_some,
        Option.some.injEq, Prod.mk.injEq, not_and]
      intro _ sameRest
      have noDot := otherOperator.dot_not_mem_name
      rw [← sameRest] at noDot
      simp at noDot

end Parameter

namespace Criteria

/-- A criteria with one operand, for one operator of one field. -/
structure HoldsOnly
    (name : String)
    (operator : Operator)
    (operand : Operand)
    (criteria : Criteria) :
    Prop where
  operands :
    ∀ other asked,
      criteria.operandOn? other asked =
        if name = other ∧ operator = asked then some operand else none
  named :
    ∀ other filter, criteria.filter? other = some filter → other = name
  noHint : criteria.distinct = none

variable {entity : Entity}
variable {criteria : Criteria}
variable {parameter : Parameter}
variable {operator : Operator}
variable {operand : Operand}

/-- A single operand goes together with all others, since there are none. -/
theorem HoldsOnly.mixed?_eq_none
    {name : String}
    (holds : criteria.HoldsOnly name operator operand) :
    criteria.mixed? = none := by
  rw [Criteria.mixed?_eq_none_iff]
  intro other filter populated
  have only (asked : Operator) (populates : filter.Populates asked) :
      operator = asked := by
    rw [Filter.Populates,
      ← operandOn?_of_mem_fields (mem_fields_iff.mpr populated),
      holds.operands] at populates
    split at populates
    next itself =>
      exact itself.2
    next =>
      exact absurd populates (by simp)
  constructor
  · intro specified asked populates
    rw [← only _ specified, only _ populates]
  · rintro ⟨range, substring, isRange, isSubstring, populatesRange,
      populatesSubstring⟩
    obtain rfl := only _ populatesRange
    obtain rfl := only _ populatesSubstring
    cases operator <;> first
      | exact absurd isRange Bool.false_ne_true
      | exact absurd isSubstring Bool.false_ne_true

/-- Where nothing was before, an operand stays as it is. -/
theorem accumulated_filterOrEmpty_empty (name : String) :
    (Criteria.empty.filterOrEmpty name).accumulated operator operand =
      operand := by
  cases operator <;> cases operand <;> rfl

theorem holdsOnly_of_bindOperand
    {field : Field}
    (succeeded :
      Criteria.empty.bindOperand parameter field operator operand =
        .ok criteria) :
    criteria.HoldsOnly field.name operator operand := by
  obtain ⟨filter, -, changed⟩ := bindOperand_eq_ok succeeded
  constructor
  · intro other asked
    rw [operandOn?_bindOperand succeeded, accumulated_filterOrEmpty_empty,
      operandOn?_empty]
  · intro other present found
    rw [changed, filter?_insert] at found
    split at found
    next same =>
      exact same.symm
    next =>
      exact absurd found (by simp [filter?, Criteria.empty])
  · rw [changed]
    rfl

/-- A request of one readable operand binds it. -/
theorem ofParameters_of_operand
    {field : Field}
    (asked : parameter.binding entity = .ok (.operand field operator operand))
    (fits : operand.fits operator = true)
    (few : operand.members.length ≤ maxSetSize) :
    ∃ criteria,
      (ofParameters entity [parameter]).result = .ok criteria ∧
        criteria.HoldsOnly field.name operator operand := by
  obtain ⟨criteria, bound⟩ :
      ∃ criteria,
        Criteria.empty.bindOperand parameter field operator operand =
          .ok criteria := by
    rw [bindOperand_isOk_iff fits, accumulated_filterOrEmpty_empty]
    exact few
  have holds := holdsOnly_of_bindOperand bound
  refine ⟨criteria, ?_, holds⟩
  simp [ofParameters, bindAll, asked, bound, Traced.map, Traced.quiet,
    Except.bind, checked, holds.mixed?_eq_none]

/-- A request of one parameter without an operand or a flag binds nothing. -/
theorem eq_empty_of_noOperand
    (notDistinct : parameter.name ≠ distinctName)
    (noOperand :
      ∀ name operator, parameter.operandFor? entity name operator = none)
    (succeeded : (ofParameters entity [parameter]).result = .ok criteria) :
    criteria = .empty := by
  have means : parameter.Means entity (parameter.binding entity) :=
    Parameter.means_binding
  rw [ofParameters, bindAll] at succeeded
  generalize parameter.binding entity = asked at means succeeded
  cases means with
  | refused =>
      exact absurd succeeded (by simp [Traced.map, Traced.quiet, Except.bind])
  | ignored =>
      have same : Criteria.empty.checked = .ok criteria := succeeded
      simpa [checked, mixed?, fields, Criteria.empty, NameMap.empty]
        using same.symm
  | distinct _ isFlag =>
      rw [Parameter.flag?, if_neg notDistinct] at isFlag
      exact absurd isFlag (by simp)
  | @operand field operator operand _ _ isOperand =>
      have isNone := noOperand field.name operator
      rw [isOperand, if_pos ⟨rfl, rfl⟩] at isNone
      exact absurd isNone (by simp)

end Criteria

/--
The parameter `field.operator` sets its operand on the field, and nothing else,
exactly when the name of the field has no dot.
-/
theorem ofParameters_reaches_iff
    {entity : Entity}
    {field : Field}
    {operator : Operator}
    {operand : Operand}
    {value : String}
    (distinctNames : (entity.fields.map Field.name).Nodup)
    (member : field ∈ entity.fields)
    (supported : field.kind.supports operator = true)
    (short : value.utf8ByteSize ≤ maxValueBytes)
    (wasRead : Request.operand field.kind operator value = .ok operand)
    (few : operand.members.length ≤ maxSetSize) :
    (∃ criteria,
      (Criteria.ofParameters entity
          [.asking field.name operator value]).result = .ok criteria ∧
        criteria.HoldsOnly field.name operator operand) ↔
      '.' ∉ field.name.toList := by
  have known := Entity.field?_name distinctNames member
  constructor
  · rintro ⟨criteria, succeeded, holds⟩ dotted
    have noOperand (other : String) (asked : Operator) :
        (Parameter.asking field.name operator value).operandFor? entity
          other asked = none :=
      Parameter.operandFor?_asking_of_dotted dotted other asked
    have isEmpty :=
      Criteria.eq_empty_of_noOperand Parameter.name_asking_ne_distinctName
        noOperand succeeded
    have held := holds.operands field.name operator
    rw [isEmpty, Criteria.operandOn?_empty, if_pos ⟨rfl, rfl⟩] at held
    exact absurd held (by simp)
  · intro undotted
    have asked :=
      Parameter.binding_of_names Parameter.name_asking_ne_distinctName
        (Parameter.names_asking undotted) known supported short wasRead
    exact Criteria.ofParameters_of_operand asked
      (Request.operand_fits wasRead) few

namespace Club

/-- The field on the level of a player. -/
def levelField : Field := .own "level" (.enumeration levels) "level"

/-- A list of two levels, with blanks around the second. -/
def listOfLevels : String := "BEGINNER, ADVANCED "

/-- The two levels. -/
def twoLevels : Operand := .values [.text "BEGINNER", .text "ADVANCED"]

/-- The field on the note of an item, under a name with a dot. -/
def dottedNote : Field := .own "meta.note" .text "note"

end Club

/-- The level of a player is reached by its name. -/
theorem ofParameters_reaches_level :
    (Club.player.fields.map Field.name).Nodup ∧
      Club.levelField ∈ Club.player.fields ∧
      Club.levelField.kind.supports .noneOf = true ∧
      Club.listOfLevels.utf8ByteSize ≤ maxValueBytes ∧
      Request.operand Club.levelField.kind .noneOf Club.listOfLevels =
        .ok Club.twoLevels ∧
      Club.twoLevels.members.length ≤ maxSetSize ∧
      ((∃ criteria,
        (Criteria.ofParameters Club.player
            [.asking Club.levelField.name .noneOf
              Club.listOfLevels]).result = .ok criteria ∧
        criteria.HoldsOnly Club.levelField.name .noneOf Club.twoLevels) ↔
        '.' ∉ Club.levelField.name.toList) := by
  have wasRead :
      Request.operand Club.levelField.kind .noneOf Club.listOfLevels =
        .ok Club.twoLevels := by
    decide
  have member : Club.levelField ∈ Club.player.fields := by
    decide
  exact ⟨by decide, member, by decide, by decide, wasRead, by decide,
    ofParameters_reaches_iff (by decide) member (by decide) (by decide)
      wasRead (by decide)⟩

/-- The note of an item cannot be asked for under its name with a dot. -/
theorem not_ofParameters_reaches_dottedNote :
    (Club.item.fields.map Field.name).Nodup ∧
      Club.dottedNote ∈ Club.item.fields ∧
      Club.dottedNote.kind.supports .equals = true ∧
      "x".utf8ByteSize ≤ maxValueBytes ∧
      Request.operand Club.dottedNote.kind .equals "x" =
        .ok (.value (.text "x")) ∧
      (Operand.value (.text "x")).members.length ≤ maxSetSize ∧
      ¬∃ criteria,
        (Criteria.ofParameters Club.item
            [.asking "meta.note" .equals "x"]).result = .ok criteria ∧
          criteria.HoldsOnly "meta.note" .equals (.value (.text "x")) := by
  refine ⟨by decide, by decide, by decide, by decide, by decide, by decide,
    ?_⟩
  rintro ⟨criteria, succeeded, holds⟩
  have ignored :
      (Criteria.ofParameters Club.item
        [.asking "meta.note" .equals "x"]).result = .ok .empty := rfl
  rw [ignored, Except.ok.injEq] at succeeded
  subst succeeded
  have held := holds.operands "meta.note" .equals
  rw [Criteria.operandOn?_empty, if_pos ⟨rfl, rfl⟩] at held
  exact absurd held (by simp)

end RecordQuery
