import Mathlib.Data.List.Forall2
import RecordQuery.Proofs.Reach

namespace RecordQuery

/-!
# Asking for the variants of an enumeration

A request asks for one variant by its text and for a set of variants by their
texts with commas between them.  Reading trims every text and cuts a set at each
comma, so what can be written differs by place: as a single operand a variant
that trimming leaves as it is, as a member of a set one that has no comma either
(`variants_reached_iff`).
-/

/-- Every kind takes sets of its values. -/
theorem Kind.supports_of_isSet
    {operator : Operator}
    (isSet : operator.isSet = true)
    (kind : Kind) :
    kind.supports operator = true := by
  cases operator with
  | oneOf =>
      rfl
  | noneOf =>
      rfl
  | _ =>
      exact absurd isSet Bool.false_ne_true

namespace Request

/-- The text that asks for a set of texts. -/
def listing (texts : List String) : String := Text.join "," texts

/-- A text that a request can give as a single value. -/
def IsWritable (text : String) : Prop := Text.trim text = text

/-- A text that a request can give as a member of a set. -/
def IsListable (text : String) : Prop :=
  IsWritable text ∧ ',' ∉ text.toList

instance (text : String) : Decidable (IsWritable text) :=
  inferInstanceAs (Decidable (_ = _))

instance (text : String) : Decidable (IsListable text) :=
  inferInstanceAs (Decidable (_ ∧ _))

/-- A set is read member by member. -/
theorem values_eq_ok_iff
    {kind : Kind}
    {raws : List String}
    {results : List Value} :
    values kind raws = .ok results ↔
      List.Forall₂ (fun raw result => value kind raw = .ok result)
        raws results := by
  induction raws generalizing results with
  | nil =>
      simp [values, eq_comm]
  | cons raw rest inductionHypothesis =>
      rw [values, List.forall₂_cons_left_iff]
      cases first : value kind raw with
      | error fault =>
          simp
      | ok result =>
          simp only [Except.ok.injEq, ← inductionHypothesis]
          cases others : values kind rest with
          | error fault =>
              simp
          | ok otherResults =>
              simp [eq_comm]

section

variable {variants : List String}

/-- A value of an enumeration is a variant, read without outer blanks. -/
theorem value_enumeration_eq_ok_iff {raw text : String} :
    value (.enumeration variants) raw = .ok (.text text) ↔
      Text.trim raw = text ∧ text ∈ variants := by
  simp only [value, List.contains_eq_mem, decide_eq_true_eq]
  split
  next declared =>
    simp only [Except.ok.injEq, Value.text.injEq, iff_self_and]
    rintro rfl
    exact declared
  next undeclared =>
    simp only [reduceCtorEq, false_iff, not_and]
    rintro rfl
    exact undeclared

theorem values_enumeration_eq_ok_iff
    {raws texts : List String}
    (declared : ∀ text ∈ texts, text ∈ variants) :
    values (.enumeration variants) raws = .ok (texts.map .text) ↔
      raws.map Text.trim = texts := by
  rw [values_eq_ok_iff, List.forall₂_map_right_iff]
  simp only [value_enumeration_eq_ok_iff]
  constructor
  · intro wereRead
    have trimmed :
        List.Forall₂ (fun raw text => Text.trim raw = text) raws texts :=
      wereRead.imp fun _ _ => And.left
    rwa [← List.forall₂_eq_eq_eq, List.forall₂_map_left_iff]
  · rintro rfl
    rw [List.forall₂_map_right_iff, List.forall₂_same]
    intro raw member
    exact ⟨rfl, declared _ (List.mem_map_of_mem member)⟩

end

/-- There are at least as many pieces as there are texts. -/
theorem length_le_length_pieces (texts : List String) :
    texts.length ≤ (texts.flatMap (Text.piecesOf ',')).length := by
  induction texts with
  | nil =>
      exact Nat.zero_le _
  | cons text rest inductionHypothesis =>
      rw [List.flatMap_cons, List.length_append, List.length_cons]
      have enough := Text.length_piecesOf_pos ',' text
      omega

/-- The pieces of texts are the texts when each can be a member of a set. -/
theorem trimmed_pieces_iff {texts : List String} :
    (texts.flatMap (Text.piecesOf ',')).map Text.trim = texts ↔
      ∀ text ∈ texts, IsListable text := by
  induction texts with
  | nil =>
      simp
  | cons text rest inductionHypothesis =>
      rw [List.flatMap_cons, List.map_append, List.forall_mem_cons,
        ← inductionHypothesis]
      constructor
      · intro sameTexts
        -- A second piece of `text` would leave too few texts for the rest.
        have single : (Text.piecesOf ',' text).length = 1 := by
          have sameLength := congrArg List.length sameTexts
          simp only [List.length_append, List.length_map,
            List.length_cons] at sameLength
          have enough := Text.length_piecesOf_pos ',' text
          have enoughRest := length_le_length_pieces rest
          omega
        obtain ⟨piece, isOnly⟩ := List.length_eq_one_iff.mp single
        obtain ⟨rfl, noComma⟩ := Text.piecesOf_eq_singleton_iff.mp isOnly
        rw [isOnly] at sameTexts
        obtain ⟨sameText, sameRest⟩ := List.cons.inj sameTexts
        exact ⟨⟨sameText, noComma⟩, sameRest⟩
      · rintro ⟨⟨writable, noComma⟩, sameRest⟩
        rw [Text.piecesOf_eq_singleton_iff.mpr ⟨rfl, noComma⟩, sameRest,
          List.map_singleton, writable, List.singleton_append]

theorem operand_of_isSet
    {operator : Operator}
    (isSet : operator.isSet = true)
    (kind : Kind)
    (raw : String) :
    operand kind operator raw =
      (values kind (Text.piecesOf ',' raw)).map .values := by
  cases operator with
  | oneOf =>
      rfl
  | noneOf =>
      rfl
  | _ =>
      exact absurd isSet Bool.false_ne_true

section

variable {variants : List String}

theorem operand_listing_iff
    {operator : Operator}
    {chosen : List String}
    (isSet : operator.isSet = true)
    (notEmpty : chosen ≠ [])
    (declared : ∀ variant ∈ chosen, variant ∈ variants) :
    operand (.enumeration variants) operator (listing chosen) =
        .ok (.values (chosen.map .text)) ↔
      ∀ variant ∈ chosen, IsListable variant := by
  have inPieces :
      Text.piecesOf ',' (listing chosen) =
        chosen.flatMap (Text.piecesOf ',') :=
    Text.piecesOf_join ',' notEmpty
  rw [operand_of_isSet isSet, inPieces, ← trimmed_pieces_iff,
    ← values_enumeration_eq_ok_iff declared, map_eq_ok_iff]
  simp

theorem operand_equals_iff
    {variant : String}
    (declared : variant ∈ variants) :
    operand (.enumeration variants) .equals variant =
        .ok (.value (.text variant)) ↔
      IsWritable variant := by
  have single :
      operand (.enumeration variants) .equals variant =
        (value (.enumeration variants) variant).map .value := rfl
  rw [single, map_eq_ok_iff]
  simp [value_enumeration_eq_ok_iff, declared, IsWritable]

end

end Request

namespace Parameter

/-- A parameter for an operator of a known field asks for what it reads as. -/
theorem binding_asking
    {entity : Entity}
    {field : Field}
    {operator : Operator}
    {value : String}
    (known : entity.field? field.name = some field)
    (undotted : '.' ∉ field.name.toList)
    (supported : field.kind.supports operator = true)
    (short : value.utf8ByteSize ≤ maxValueBytes) :
    (asking field.name operator value).binding entity =
      ((asking field.name operator value).naming
        (Request.operand field.kind operator value)).map
          (.operand field operator) := by
  have names :
      (asking field.name operator value).Names field.name operator :=
    names_asking undotted
  have notLong :
      ¬maxValueBytes <
        (asking field.name operator value).value.utf8ByteSize :=
    Nat.not_lt.mpr short
  have sameValue : (asking field.name operator value).value = value := rfl
  rw [Names] at names
  rw [binding, if_neg notLong, if_neg name_asking_ne_distinctName, names]
  dsimp only
  rw [known]
  simp [fieldBinding, supported, sameValue]

end Parameter

namespace Criteria

variable {entity : Entity}
variable {parameter : Parameter}
variable {field : Field}
variable {operator : Operator}
variable {operand : Operand}

theorem ofParameters_singleton
    (asked :
      parameter.binding entity = .ok (.operand field operator operand)) :
    (ofParameters entity [parameter]).result =
      (empty.bindOperand parameter field operator operand).bind checked := by
  rw [ofParameters, bindAll, asked]
  dsimp only
  cases empty.bindOperand parameter field operator operand <;> rfl

theorem eq_of_checked
    {bound criteria : Criteria}
    (isChecked : bound.checked = .ok criteria) :
    bound = criteria := by
  unfold checked at isChecked
  split at isChecked
  next =>
    exact absurd isChecked (by simp)
  next =>
    exact Except.ok.inj isChecked

/-- A request of one operand that succeeds has a criteria of that operand. -/
theorem holdsOnly_of_ofParameters
    {criteria : Criteria}
    (asked :
      parameter.binding entity = .ok (.operand field operator operand))
    (succeeded :
      (ofParameters entity [parameter]).result = .ok criteria) :
    criteria.HoldsOnly field.name operator operand := by
  rw [ofParameters_singleton asked] at succeeded
  cases bound : empty.bindOperand parameter field operator operand with
  | error error =>
      exact absurd succeeded (by simp [bound, Except.bind])
  | ok changed =>
      rw [bound] at succeeded
      obtain rfl := eq_of_checked succeeded
      exact holdsOnly_of_bindOperand bound

/-- A criteria of one operand has no other in its place. -/
theorem HoldsOnly.operand_eq
    {name : String}
    {criteria : Criteria}
    {other : Operand}
    (holds : criteria.HoldsOnly name operator operand)
    (holdsOther : criteria.HoldsOnly name operator other) :
    operand = other := by
  have held := holds.operands name operator
  rw [holdsOther.operands, if_pos ⟨rfl, rfl⟩, if_pos ⟨rfl, rfl⟩] at held
  exact (Option.some.inj held).symm

end Criteria

namespace Entity

/-- A request of one parameter yields a criteria of one operand. -/
def Yields
    (entity : Entity)
    (name : String)
    (operator : Operator)
    (value : String)
    (operand : Operand) :
    Prop :=
  ∃ criteria,
    (Criteria.ofParameters entity
        [.asking name operator value]).result = .ok criteria ∧
      criteria.HoldsOnly name operator operand

variable {entity : Entity}
variable {field : Field}
variable {operator : Operator}
variable {value : String}
variable {operand : Operand}
variable (known : entity.field? field.name = some field)
variable (undotted : '.' ∉ field.name.toList)
variable (supported : field.kind.supports operator = true)
variable (short : value.utf8ByteSize ≤ maxValueBytes)

include known undotted supported short

/-- A parameter that cannot be read spoils the request. -/
theorem not_yields_of_unreadable
    {fault : ParameterFault}
    (unreadable :
      Request.operand field.kind operator value = .error fault)
    (operand : Operand) :
    ¬entity.Yields field.name operator value operand := by
  have refused := Parameter.binding_asking known undotted supported short
  rw [unreadable] at refused
  rintro ⟨criteria, succeeded, -⟩
  rw [Criteria.ofParameters, Criteria.bindAll, refused] at succeeded
  exact absurd succeeded
    (by simp [Parameter.naming, Parameter.refuse, Except.map, Traced.map,
      Traced.quiet, Except.bind])

/-- A request for one operand of a field yields what its value reads as. -/
theorem yields_iff
    (few : operand.members.length ≤ maxSetSize) :
    entity.Yields field.name operator value operand ↔
      Request.operand field.kind operator value = .ok operand := by
  have asked := Parameter.binding_asking known undotted supported short
  cases wasRead : Request.operand field.kind operator value with
  | error fault =>
      simp [not_yields_of_unreadable known undotted supported short wasRead
        operand]
  | ok other =>
      rw [wasRead] at asked
      rw [Except.ok.injEq]
      constructor
      · rintro ⟨criteria, succeeded, holds⟩
        have holdsRead :=
          Criteria.holdsOnly_of_ofParameters asked succeeded
        exact holdsRead.operand_eq holds
      · rintro rfl
        exact Criteria.ofParameters_of_operand asked
          (Request.operand_fits wasRead) few

end Entity

/--
Variants of an enumeration can be asked for as a set exactly when none of them
has a comma or outer blanks, and one by one when it has no outer blanks.
-/
theorem variants_reached_iff
    {entity : Entity}
    {field : Field}
    {variants : List String}
    (known : entity.field? field.name = some field)
    (isEnumeration : field.kind = .enumeration variants)
    (undotted : '.' ∉ field.name.toList) :
    (∀ operator chosen,
      operator.isSet = true →
        chosen ≠ [] →
        (∀ variant ∈ chosen, variant ∈ variants) →
        chosen.length ≤ maxSetSize →
        (Request.listing chosen).utf8ByteSize ≤ maxValueBytes →
          (entity.Yields field.name operator (Request.listing chosen)
              (.values (chosen.map .text)) ↔
            ∀ variant ∈ chosen, Request.IsListable variant)) ∧
    ∀ variant ∈ variants,
      variant.utf8ByteSize ≤ maxValueBytes →
        (entity.Yields field.name .equals variant (.value (.text variant)) ↔
          Request.IsWritable variant) := by
  constructor
  · intro operator chosen isSet notEmpty declared few short
    have supported := field.kind.supports_of_isSet isSet
    have fewMembers :
        (Operand.values (chosen.map .text)).members.length ≤ maxSetSize := by
      rwa [Operand.members, List.length_map]
    rw [Entity.yields_iff known undotted supported short fewMembers,
      isEnumeration]
    exact Request.operand_listing_iff isSet notEmpty declared
  · intro variant declared short
    have single :
        (Operand.value (.text variant)).members.length ≤ maxSetSize :=
      (by decide : 1 ≤ maxSetSize)
    rw [Entity.yields_iff known undotted rfl short single, isEnumeration]
    exact Request.operand_equals_iff declared

namespace Club

/-- The field on the grade of an item. -/
def gradeField : Field := .own "grade" (.enumeration grades) "grade"

/-- Grades without a comma, one of them empty. -/
def plainGrades : List String := ["", "Élite", "NOT SET", "Élite"]

/-- The field on the level of a player, with a variant that starts blank. -/
def paddedField : Field := .own "level" (.enumeration [" A"]) "level"

/-- Players with the padded variant as their only level. -/
def paddedPlayer : Entity := { player with fields := [paddedField] }

end Club

/-- The grades of an item that have no comma are reached in any order. -/
theorem variants_reached_plainGrades :
    Club.item.field? Club.gradeField.name = some Club.gradeField ∧
      Club.gradeField.kind = .enumeration Club.grades ∧
      '.' ∉ Club.gradeField.name.toList ∧
      Club.plainGrades ≠ [] ∧
      (∀ variant ∈ Club.plainGrades, variant ∈ Club.grades) ∧
      Club.plainGrades.length ≤ maxSetSize ∧
      (Request.listing Club.plainGrades).utf8ByteSize ≤ maxValueBytes ∧
      Club.item.Yields "grade" .noneOf ",Élite,NOT SET,Élite"
        (.values
          [.text "", .text "Élite", .text "NOT SET", .text "Élite"]) ∧
      Club.item.Yields "grade" .equals "X,Y" (.value (.text "X,Y")) := by
  have known :
      Club.item.field? Club.gradeField.name = some Club.gradeField := by
    decide
  have undotted : '.' ∉ Club.gradeField.name.toList := by
    decide
  have declared : ∀ variant ∈ Club.plainGrades, variant ∈ Club.grades := by
    decide
  have reached := variants_reached_iff known rfl undotted
  refine ⟨known, rfl, undotted, by decide, declared, by decide, by decide,
    ?_, ?_⟩
  · exact (reached.1 .noneOf Club.plainGrades rfl (by decide) declared
      (by decide) (by decide)).mpr (by decide)
  · exact (reached.2 "X,Y" (by decide) (by decide)).mpr (by decide)

/--
A grade with a comma is no member of any set in a request, and a level that
starts blank cannot be asked for at all.
-/
theorem not_variants_reached :
    "X,Y" ∈ Club.grades ∧
      Club.item.field? "grade" = some Club.gradeField ∧
      ¬Club.item.Yields "grade" .oneOf (Request.listing ["X,Y"])
        (.values [.text "X,Y"]) ∧
      Club.paddedPlayer.field? "level" = some Club.paddedField ∧
      ¬Club.paddedPlayer.Yields "level" .oneOf (Request.listing [" A"])
        (.values [.text " A"]) ∧
      ¬Club.paddedPlayer.Yields "level" .equals " A"
        (.value (.text " A")) := by
  have knownGrade :
      Club.item.field? Club.gradeField.name = some Club.gradeField := by
    decide
  have knownLevel :
      Club.paddedPlayer.field? Club.paddedField.name =
        some Club.paddedField := by
    decide
  refine ⟨by decide, knownGrade, ?_, knownLevel, ?_, ?_⟩
  · have refused :
        Request.operand Club.gradeField.kind .oneOf
            (Request.listing ["X,Y"]) =
          .error (.notVariant "X" Club.grades) := rfl
    have notReached :=
      Entity.not_yields_of_unreadable knownGrade (by decide) rfl (by decide)
        refused (.values [.text "X,Y"])
    exact notReached
  · have refused :
        Request.operand Club.paddedField.kind .oneOf
            (Request.listing [" A"]) =
          .error (.notVariant " A" [" A"]) := rfl
    have notReached :=
      Entity.not_yields_of_unreadable knownLevel (by decide) rfl (by decide)
        refused (.values [.text " A"])
    exact notReached
  · have refused :
        Request.operand Club.paddedField.kind .equals " A" =
          .error (.notVariant " A" [" A"]) := rfl
    have notReached :=
      Entity.not_yields_of_unreadable knownLevel (by decide) rfl (by decide)
        refused (.value (.text " A"))
    exact notReached

end RecordQuery
