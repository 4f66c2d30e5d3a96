import RecordQuery.Club.Entities
import RecordQuery.Proofs.Chronology
import RecordQuery.Proofs.Compilation

namespace RecordQuery

/-!
# The meaning of criteria

What a criteria asks of a row is said here without any condition of a database:
every populated operator of every populated field holds of the field's value.
`compiled_condition_holds_iff` then says that the condition compiled for SQLite
holds on a row, in three-valued logic, exactly when the criteria does.
-/

namespace Binary64

/-- The value of a number, unless it is a NaN. -/
def value? (number : Binary64) : Option Int :=
  if number.isNaN then none else some number.units

end Binary64

namespace Value

/--
The order of two values, if they have one.

Numbers are ordered by value and a NaN has no place among them; texts are
ordered by their characters, timestamps by time, and false comes before true.
Values of different types have no order, but for the two types of numbers.
-/
def order? : Value → Value → Option Ordering
  | .integer left, .integer right =>
      some (compare left.toInt right.toInt)
  | .integer left, .float right =>
      right.value?.map (compare (left.toInt * Binary64.unitsOfOne))
  | .float left, .integer right =>
      left.value?.map (compare · (right.toInt * Binary64.unitsOfOne))
  | .float left, .float right =>
      left.value?.bind fun leftValue => right.value?.map (compare leftValue)
  | .text left, .text right => some (compare left right)
  | .boolean left, .boolean right => some (compare left right)
  | .timestamp left, .timestamp right => some (left.order right)
  | .uuid left, .uuid right =>
      some (compare left.value.toNat right.value.toNat)
  | _, _ => none

/-- Whether two values are of one type, or both are numbers. -/
def isLike : Value → Value → Bool
  | .integer _, .integer _ => true
  | .integer _, .float _ => true
  | .float _, .integer _ => true
  | .float _, .float _ => true
  | .text _, .text _ => true
  | .boolean _, .boolean _ => true
  | .timestamp _, .timestamp _ => true
  | .uuid _, .uuid _ => true
  | _, _ => false

/-- Whether a timestamp has a year of four digits; other values do not care. -/
def hasPlainYear : Value → Bool
  | .timestamp instant => instant.hasPlainYear
  | _ => true

end Value

/--
Whether a column of a kind holds a content: null or a value of the kind's type.

The variants of an enumeration bind operands, but not the texts in a column.
-/
def Kind.holds : Kind → Option Value → Bool
  | _, none => true
  | integer, some (.integer _) => true
  | float, some (.float _) => true
  | float, some (.integer _) => true
  | text, some (.text _) => true
  | enumeration _, some (.text _) => true
  | boolean, some (.boolean _) => true
  | timestamp, some (.timestamp _) => true
  | uuid, some (.uuid _) => true
  | _, _ => false

/-- What a column holds is compared with operands of its own type. -/
theorem Kind.isLike_of_holds
    {kind : Kind}
    {value operand : Value}
    (held : kind.holds (some value) = true)
    (accepted : kind.accepts operand = true) :
    value.isLike operand = true := by
  cases kind <;> cases value <;>
    first
      | exact absurd held Bool.false_ne_true
      | cases operand <;>
          first
            | rfl
            | exact absurd accepted Bool.false_ne_true

namespace Operator

/-- A content that is not null and stands to an operand as is wanted. -/
def Compares
    (wanted : Ordering → Bool)
    (content : Option Value)
    (operand : Value) :
    Prop :=
  ∃ value order, content = some value ∧
    value.order? operand = some order ∧ wanted order = true

/-- A content that is not null; a NaN is kept as null. -/
def IsPresent (content : Option Value) : Prop :=
  ∃ value, content = some value ∧ value.isNaN = false

/-- What an operator with its operand asks of the content of a column. -/
def HoldsOf (content : Option Value) : Operator → Operand → Prop
  | .equals, .value operand => Compares Ordering.isEq content operand
  | .notEquals, .value operand => Compares Ordering.isNe content operand
  | .oneOf, .values operands =>
      ∃ operand ∈ operands, Compares Ordering.isEq content operand
  | .noneOf, .values operands =>
      ∀ operand ∈ operands, Compares Ordering.isNe content operand
  | .specified, .flag flag => IsPresent content ↔ flag = true
  | .greaterThan, .value operand => Compares Ordering.isGT content operand
  | .atLeast, .value operand => Compares Ordering.isGE content operand
  | .lessThan, .value operand => Compares Ordering.isLT content operand
  | .atMost, .value operand => Compares Ordering.isLE content operand
  | .contains, .substring part =>
      ∃ text, content = some (.text text) ∧ part.toList <:+: text.toList
  | .lacks, .substring part =>
      ∃ text, content = some (.text text) ∧ ¬part.toList <:+: text.toList
  | _, _ => False

end Operator

namespace Filter

/-- Every populated operator holds of the content of a column. -/
def HoldsOf (filter : Filter) (content : Option Value) : Prop :=
  ∀ operator operand, filter.operand? operator = some operand →
    operator.HoldsOf content operand

end Filter

namespace Field

/-- The value of a field in a row: of the base record or of a related one. -/
def valueIn (field : Field) (row : JoinedRow) : Option Value :=
  match field.source with
  | .own column => row.base.get? column
  | .related join =>
      (JoinedRow.relatedIn join.label row.related).bind fun record =>
        record.get? join.column

end Field

namespace Criteria

/-- Every populated filter holds of the value of the field of its name. -/
def HoldsOn
    (criteria : Criteria)
    (entity : Entity)
    (row : JoinedRow) :
    Prop :=
  ∀ entry ∈ criteria.fields, ∃ field,
    entity.field? entry.1 = some field ∧ entry.2.HoldsOf (field.valueIn row)

end Criteria

namespace Sql

/-- Whole numbers are stored in their order. -/
theorem compare_mul_unitsOfOne (left right : Int) :
    compare (left * Binary64.unitsOfOne) (right * Binary64.unitsOfOne) =
      compare left right := by
  have positive : (0 : Int) < Binary64.unitsOfOne :=
    Int.natCast_pos.mpr Binary64.unitsOfOne_pos
  generalize (Binary64.unitsOfOne : Int) = units at positive
  have sameLess : left * units < right * units ↔ left < right :=
    Int.mul_lt_mul_right positive
  have sameEqual : left * units = right * units ↔ left = right :=
    Int.mul_eq_mul_right_iff (Int.ne_of_gt positive)
  simp only [compare, compareOfLessAndEq, sameLess, sameEqual]

theorem storage?_float (number : Binary64) :
    (Value.float number).storage? = number.value?.map Storage.number := by
  change (if number.isNaN then none else some (Storage.number number.units)) =
    number.value?.map Storage.number
  unfold Binary64.value?
  split <;> rfl

/-- The order of two like values is the order in which they are stored. -/
theorem storage_order
    {value operand : Value}
    (isLike : value.isLike operand = true)
    (valuePlain : value.hasPlainYear = true)
    (operandPlain : operand.hasPlainYear = true) :
    (value.storage?.bind fun stored =>
        (readBy (some value) operand).storage?.map stored.order) =
      value.order? operand := by
  cases value with
  | integer left =>
      cases operand with
      | integer right =>
          exact congrArg some (compare_mul_unitsOfOne _ _)
      | float right =>
          change
            (Value.float right).storage?.map
                (Storage.ofInt left.toInt).order =
              right.value?.map
                (compare (left.toInt * Binary64.unitsOfOne))
          rw [storage?_float]
          cases right.value? <;> rfl
      | _ =>
          exact absurd isLike Bool.false_ne_true
  | float left =>
      cases operand with
      | integer right =>
          change
            ((Value.float left).storage?.bind fun stored =>
                some (stored.order (.ofInt right.toInt))) =
              left.value?.map
                (compare · (right.toInt * Binary64.unitsOfOne))
          rw [storage?_float]
          cases left.value? <;> rfl
      | float right =>
          change
            ((Value.float left).storage?.bind fun stored =>
                (Value.float right).storage?.map stored.order) =
              left.value?.bind fun leftValue =>
                right.value?.map (compare leftValue)
          rw [storage?_float, storage?_float]
          cases left.value? <;> cases right.value? <;> rfl
      | _ =>
          exact absurd isLike Bool.false_ne_true
  | text left =>
      cases operand with
      | text right =>
          rfl
      | _ =>
          exact absurd isLike Bool.false_ne_true
  | boolean left =>
      cases operand with
      | boolean right =>
          refine congrArg some ((compare_mul_unitsOfOne _ _).trans ?_)
          cases left <;> cases right <;> rfl
      | _ =>
          exact absurd isLike Bool.false_ne_true
  | timestamp left =>
      cases operand with
      | timestamp right =>
          simp [readBy, Value.storage?, Value.order?, Storage.order,
            Instant.compare_rfc3339 valuePlain operandPlain]
      | _ =>
          exact absurd isLike Bool.false_ne_true
  | uuid left =>
      cases operand with
      | uuid right =>
          rfl
      | _ =>
          exact absurd isLike Bool.false_ne_true

theorem Comparison.accepts_equal :
    Comparison.equal.accepts = Ordering.isEq := rfl

theorem Comparison.accepts_notEqual :
    Comparison.notEqual.accepts = Ordering.isNe := by
  funext order
  cases order <;> rfl

/-- Whether the value of a content, if it has one, has a plain year. -/
def contentHasPlainYear (content : Option Value) : Prop :=
  ∀ value, content = some value → value.hasPlainYear = true

/-- A content of a column of a kind, with a plain year if it has one. -/
structure PlainContent (kind : Kind) (content : Option Value) : Prop where
  held : kind.holds content = true
  plain : contentHasPlainYear content

/-- An operand for a kind, with a plain year if it has one. -/
structure PlainOperand (kind : Kind) (operand : Value) : Prop where
  accepted : kind.accepts operand = true
  plain : operand.hasPlainYear = true

section

variable {kind : Kind}
variable {content : Option Value}
variable (plainContent : PlainContent kind content)

include plainContent

section

variable {operand : Value}
variable (plainOperand : PlainOperand kind operand)

include plainOperand

/-- A comparison is decided by the order of the two values, if they have one. -/
theorem operandTruth_eq_order? (comparison : Comparison) :
    operandTruth comparison content operand =
      match content.bind fun value => value.order? operand with
      | none => .unknown
      | some order => .ofBool (comparison.accepts order) := by
  cases content with
  | none =>
      rfl
  | some value =>
      have isLike :=
        Kind.isLike_of_holds plainContent.held plainOperand.accepted
      simp only [Option.bind_some, operandTruth, compareTruth, storageOf,
        ← storage_order isLike (plainContent.plain value rfl)
          plainOperand.plain]
      cases value.storage? <;>
        cases (readBy (some value) operand).storage? <;> rfl

/-- Whether a comparison holds of a content and an operand. -/
theorem operandTruth_eq_holds (comparison : Comparison) :
    operandTruth comparison content operand = .holds ↔
      Operator.Compares comparison.accepts content operand := by
  rw [operandTruth_eq_order? plainContent plainOperand]
  unfold Operator.Compares
  cases content with
  | none =>
      simp
  | some value =>
      cases order : value.order? operand <;> simp [order]

/-- An equality fails of a content exactly when it differs from the operand. -/
theorem operandTruth_equal_eq_fails :
    operandTruth .equal content operand = .fails ↔
      Operator.Compares Ordering.isNe content operand := by
  rw [operandTruth_eq_order? plainContent plainOperand]
  unfold Operator.Compares
  cases content with
  | none =>
      simp
  | some value =>
      cases found : value.order? operand with
      | none =>
          simp [found]
      | some order =>
          cases order <;> simp [found, Comparison.accepts, Truth.ofBool]

end

variable {operands : List Value}
variable (plainOperands : ∀ operand ∈ operands, PlainOperand kind operand)

include plainOperands

/-- A content is in a list when it equals a member. -/
theorem memberTruth_eq_holds :
    memberTruth content operands = .holds ↔
      ∃ operand ∈ operands,
        Operator.Compares Ordering.isEq content operand := by
  induction operands with
  | nil =>
      simp [memberTruth]
  | cons first rest inductionHypothesis =>
      rw [List.forall_mem_cons] at plainOperands
      rw [memberTruth, Truth.or_eq_holds,
        operandTruth_eq_holds plainContent plainOperands.1,
        inductionHypothesis plainOperands.2]
      simp [Comparison.accepts_equal]

theorem memberTruth_eq_fails :
    memberTruth content operands = .fails ↔
      ∀ operand ∈ operands,
        Operator.Compares Ordering.isNe content operand := by
  induction operands with
  | nil =>
      simp [memberTruth]
  | cons first rest inductionHypothesis =>
      rw [List.forall_mem_cons] at plainOperands
      rw [memberTruth, List.forall_mem_cons,
        ← operandTruth_equal_eq_fails plainContent plainOperands.1,
        ← inductionHypothesis plainOperands.2]
      cases operandTruth .equal content first <;>
        cases memberTruth content rest <;> simp [Truth.or]

end

theorem Truth.not_eq_holds (truth : Truth) :
    truth.not = .holds ↔ truth = .fails := by
  cases truth <;> simp [Truth.not]

/-- The search for a text finds it exactly where it occurs without gaps. -/
theorem occursIn_eq_true_iff (part text : List Char) :
    occursIn part text = true ↔ part <:+: text := by
  induction text with
  | nil =>
      simp [occursIn]
  | cons character rest inductionHypothesis =>
      simp [occursIn, List.infix_cons_iff, inductionHypothesis]

theorem storageOf_isSome (content : Option Value) :
    (storageOf content).isSome = true ↔ Operator.IsPresent content := by
  unfold Operator.IsPresent
  cases content with
  | none =>
      simp [storageOf]
  | some value =>
      cases value with
      | float number =>
          by_cases notNumber : number.isNaN <;>
            simp [storageOf, Value.storage?, Value.isNaN, notNumber]
      | _ =>
          simp [storageOf, Value.storage?, Value.isNaN]

section

variable (column : ColumnRef)

theorem comparedTarget_sqlite (kind : Kind) :
    comparedTarget .sqlite kind column = .plain column := by
  cases kind <;> rfl

variable (row : JoinedRow)

theorem null_truth_eq_holds (kind : Kind) (flag : Bool) :
    (Test.null (comparedTarget .sqlite kind column) flag).truth row =
        .holds ↔
      Operator.specified.HoldsOf (row.get? column) (.flag flag) := by
  rw [comparedTarget_sqlite]
  simp only [Test.truth, Target.read, Target.plain, Truth.ofBool_eq_holds,
    beq_iff_eq, Operator.HoldsOf]
  rw [Bool.eq_iff_iff, storageOf_isSome]

/-- In a column of texts a substring is looked for in the text. -/
theorem position_truth_eq_holds
    (held : Kind.text.holds (row.get? column) = true)
    (part : String) :
    ((substringTest .sqlite column false part).truth row = .holds ↔
      Operator.contains.HoldsOf (row.get? column) (.substring part)) ∧
    ((substringTest .sqlite column true part).truth row = .holds ↔
      Operator.lacks.HoldsOf (row.get? column) (.substring part)) := by
  simp only [substringTest, Test.truth, Target.read, Target.plain,
    Truth.negatedIf, Bool.false_eq_true, ↓reduceIte, Truth.not_eq_holds,
    Operator.HoldsOf, ← occursIn_eq_true_iff]
  cases content : row.get? column with
  | none =>
      simp [occurrenceTruth]
  | some value =>
      rw [content] at held
      cases value with
      | text text =>
          cases found : occursIn part.toList text.toList <;>
            simp [occurrenceTruth, Value.searched?, Searched.contains,
              Truth.ofBool, found]
      | _ =>
          exact absurd held Bool.false_ne_true

section

variable {kind : Kind}
variable (plainContent : PlainContent kind (row.get? column))

include plainContent

theorem compare_truth_eq_holds
    (comparison : Comparison)
    {operand : Value}
    (plainOperand : PlainOperand kind operand) :
    (Test.compare (comparedTarget .sqlite kind column) comparison
        operand).truth row = .holds ↔
      Operator.Compares comparison.accepts (row.get? column) operand := by
  rw [comparedTarget_sqlite]
  exact operandTruth_eq_holds plainContent plainOperand comparison

/-- A test for membership, or for none, holds as its operator does. -/
theorem member_truth_eq_holds
    {operands : List Value}
    (plainOperands : ∀ operand ∈ operands, PlainOperand kind operand) :
    ((Test.member (comparedTarget .sqlite kind column) false
        operands).truth row = .holds ↔
      Operator.oneOf.HoldsOf (row.get? column) (.values operands)) ∧
    ((Test.member (comparedTarget .sqlite kind column) true
        operands).truth row = .holds ↔
      Operator.noneOf.HoldsOf (row.get? column) (.values operands)) := by
  rw [comparedTarget_sqlite]
  constructor
  · exact memberTruth_eq_holds plainContent plainOperands
  · exact (Truth.not_eq_holds _).trans
      (memberTruth_eq_fails plainContent plainOperands)

/-- The test that SQLite makes for an operator holds as the operator does. -/
theorem testOf?_truth_eq_holds
    {operator : Operator}
    {operand : Operand}
    (fits : operand.fits operator = true)
    (supported : kind.supports operator = true)
    (plainOperands :
      ∀ value ∈ operand.members, PlainOperand kind value) :
    ∃ test, testOf? .sqlite kind column operator operand = some test ∧
      (test.truth row = .holds ↔
        operator.HoldsOf (row.get? column) operand) := by
  cases operand with
  | value operand =>
      have compared := fun comparison =>
        compare_truth_eq_holds column row plainContent comparison
          (plainOperands operand (List.mem_singleton_self operand))
      have differs := compared .notEqual
      rw [Comparison.accepts_notEqual] at differs
      cases operator
      case equals => exact ⟨_, rfl, compared .equal⟩
      case notEquals => exact ⟨_, rfl, differs⟩
      case greaterThan => exact ⟨_, rfl, compared .greater⟩
      case atLeast => exact ⟨_, rfl, compared .atLeast⟩
      case lessThan => exact ⟨_, rfl, compared .less⟩
      case atMost => exact ⟨_, rfl, compared .atMost⟩
      all_goals exact absurd fits Bool.false_ne_true
  | values operands =>
      have both :=
        member_truth_eq_holds column row plainContent plainOperands
      cases operator
      case oneOf => exact ⟨_, rfl, both.1⟩
      case noneOf => exact ⟨_, rfl, both.2⟩
      all_goals exact absurd fits Bool.false_ne_true
  | flag flag =>
      cases operator
      case specified =>
        exact ⟨_, rfl, null_truth_eq_holds column row kind flag⟩
      all_goals exact absurd fits Bool.false_ne_true
  | substring part =>
      -- Only texts support the operators of substrings.
      have both (isText : kind.isText = true) :=
        have isKind : kind = .text := Kind.eq_text_of_isText isText
        position_truth_eq_holds column row (isKind ▸ plainContent.held) part
      cases operator
      case contains => exact ⟨_, rfl, (both supported).1⟩
      case lacks => exact ⟨_, rfl, (both supported).2⟩
      all_goals exact absurd fits Bool.false_ne_true

end

end

end Sql

namespace Filter

/-- What a filter holds for an operator has the shape that it takes. -/
theorem fits_of_operand?
    {filter : Filter}
    {operator : Operator}
    {operand : Operand}
    (populated : filter.operand? operator = some operand) :
    operand.fits operator = true := by
  cases operator <;>
    obtain ⟨content, -, rfl⟩ := Option.map_eq_some_iff.mp populated <;> rfl

/-- An operator whose operand has typed values is asked for them. -/
theorem mem_valuedOperators
    {filter : Filter}
    {operator : Operator}
    {operand : Operand}
    {value : Value}
    (populated : filter.operand? operator = some operand)
    (member : value ∈ operand.members) :
    operator ∈ scalarOperators ++ [Operator.oneOf, Operator.noneOf] := by
  have fits := fits_of_operand? populated
  cases operator <;> cases operand <;>
    first
      | decide
      | exact absurd member (List.not_mem_nil)
      | exact absurd fits Bool.false_ne_true

theorem mem_values
    {filter : Filter}
    {operator : Operator}
    {operand : Operand}
    {value : Value}
    (populated : filter.operand? operator = some operand)
    (member : value ∈ operand.members) :
    (operator, value) ∈ filter.values := by
  have listed := mem_valuedOperators populated member
  rw [values_eq]
  refine List.mem_flatMap.mpr ⟨operator, listed, ?_⟩
  simpa [valuesOf, populated] using member

end Filter

namespace Field

section

variable {field : Field}
variable {filter : Filter}
variable {operator : Operator}
variable {operand : Operand}
variable (faultless : field.fault? filter = none)
variable (populated : filter.operand? operator = some operand)

include faultless populated

theorem supports_of_operand? : field.kind.supports operator = true := by
  obtain ⟨-, supported, -⟩ := fault?_eq_none_iff_checked.mp faultless
  have listed : operator ∈ filter.operators :=
    Filter.mem_operators.mpr (populated ▸ rfl)
  simpa using List.find?_eq_none.mp supported operator listed

theorem accepts_of_operand?
    {value : Value}
    (member : value ∈ operand.members) :
    field.kind.accepts value = true := by
  obtain ⟨-, -, accepted⟩ := fault?_eq_none_iff_checked.mp faultless
  rw [unaccepted?, Option.map_eq_none_iff] at accepted
  have listed := Filter.mem_values populated member
  simpa using List.find?_eq_none.mp accepted _ listed

end

end Field

namespace Sql

/-- The condition of a filter asks for the test of each populated operator. -/
theorem conditionOf_truth_eq_holds
    {table : String}
    {field : Field}
    {filter : Filter}
    {row : JoinedRow}
    (faultless : field.fault? filter = none)
    (plainContent : PlainContent field.kind (field.valueIn row))
    (operandsPlain : ∀ entry ∈ filter.values, entry.2.hasPlainYear = true) :
    (conditionOf .sqlite table field filter).truth row = .holds ↔
      filter.HoldsOf (field.valueIn row) := by
  have sameValue :
      row.get? (field.columnRef table) = field.valueIn row := by
    unfold Field.columnRef Field.valueIn
    cases field.source <;> rfl
  have tested :=
    fun (operator : Operator) (operand : Operand)
        (populated : filter.operand? operator = some operand) =>
      testOf?_truth_eq_holds (field.columnRef table) row
        (sameValue ▸ plainContent) (Filter.fits_of_operand? populated)
        (Field.supports_of_operand? faultless populated)
        fun value member =>
          { accepted := Field.accepts_of_operand? faultless populated member
            plain := operandsPlain _ (Filter.mem_values populated member) }
  rw [conditionOf, Condition.truth, allTruth_eq_holds, List.forall_mem_map]
  constructor
  · intro allHold operator operand populated
    obtain ⟨test, made, meaning⟩ := tested operator operand populated
    rw [sameValue] at meaning
    exact meaning.mp
      (allHold test (mem_testsOf.mpr ⟨operator, operand, populated, made⟩))
  · intro holds test member
    obtain ⟨operator, operand, populated, made⟩ := mem_testsOf.mp member
    obtain ⟨other, madeOther, meaning⟩ := tested operator operand populated
    rw [made, Option.some.injEq] at madeOther
    rw [sameValue, ← madeOther] at meaning
    exact meaning.mpr (holds operator operand populated)

end Sql

/--
Compilation preserves meaning: the condition compiled for SQLite holds on a
joined row exactly when every populated operator of the criteria holds of the
value of its field in the row.  Columns hold contents of their fields' kinds.
-/
theorem compiled_condition_holds_iff
    {entity : Entity}
    {criteria : Criteria}
    {predicate : Predicate}
    {row : JoinedRow}
    (distinctNames : (entity.fields.map Field.name).Nodup)
    (compiled : compile .sqlite entity (some criteria) = .ok predicate)
    (operandsPlain :
      ∀ entry ∈ criteria.fields, ∀ operand ∈ entry.2.values,
        operand.2.hasPlainYear = true)
    (contentsPlain :
      ∀ field ∈ entity.fields,
        Sql.contentHasPlainYear (field.valueIn row))
    (contentsHeld :
      ∀ field ∈ entity.fields,
        field.kind.holds (field.valueIn row) = true) :
    predicate.condition.truth row = .holds ↔
      criteria.HoldsOn entity row := by
  obtain ⟨known, faultless, rfl⟩ := (compile_eq_ok_iff _ _ _ _).mp compiled
  have holds_iff
      {field : Field}
      (fieldMember : field ∈ entity.fields)
      {filter : Filter}
      (populated : criteria.populated? field.name = some filter) :
      (Sql.conditionOf .sqlite entity.table field filter).truth row =
          .holds ↔
        filter.HoldsOf (field.valueIn row) := by
    have fieldFaultless := faultless field fieldMember
    rw [Criteria.faultOn?, populated] at fieldFaultless
    exact Sql.conditionOf_truth_eq_holds fieldFaultless
      ⟨contentsHeld field fieldMember, contentsPlain field fieldMember⟩
      (operandsPlain _ (Criteria.mem_fields_iff.mpr populated))
  rw [Criteria.truth_predicate_eq_holds]
  constructor
  · intro allHold entry member
    obtain ⟨field, found⟩ := Option.isSome_iff_exists.mp (known _ member)
    have fieldMember := Entity.mem_fields_of_field? found
    have populated := Criteria.mem_fields_iff.mp member
    rw [← Entity.name_of_field? found] at populated
    refine ⟨field, found, ?_⟩
    rw [← holds_iff fieldMember populated]
    exact allHold field fieldMember entry.2 populated
  · intro holds field fieldMember filter populated
    have member := Criteria.mem_fields_iff.mpr populated
    obtain ⟨other, found, filterHolds⟩ := holds _ member
    rw [Entity.field?_name distinctNames fieldMember,
      Option.some.injEq] at found
    subst found
    rw [holds_iff fieldMember populated]
    exact filterHolds

namespace Club

/-- Ten o'clock on the first of May 2024. -/
def firstOfMay : Instant :=
  ⟨1714557600, 0, by decide, by decide⟩

/-- Open challenges from the first of May on that no seventh player proposes. -/
def openChallenges : Criteria :=
  ((Criteria.empty.insert "status"
      { Filter.empty with
        oneOf := some [.text "REQUESTED", .text "ACCEPTED"] }).insert
    "matchTime"
      { Filter.empty with atLeast := some (.timestamp firstOfMay) }).insert
    "proposerId" { Filter.empty with notEquals := some (.integer 7) }

/-- A requested challenge, half a second later, beside its proposer. -/
def requestedChallenge : JoinedRow where
  base :=
    { key := 2
      cells :=
        [ ("match_time",
            some (.timestamp ⟨1714557600, 500000000, by decide, by decide⟩)),
          ("status", some (.text "REQUESTED")),
          ("proposer_id", some (.integer 1)) ] }
  related := [("proposer", some ⟨1, [("status", some (.text "ACTIVE"))]⟩)]

end Club

/-- The open challenges compile, and their condition means what they say. -/
theorem compiled_openChallenges_holds_iff :
    ∃ predicate,
      compile .sqlite Club.challenge (some Club.openChallenges) =
        .ok predicate ∧
      (predicate.condition.truth Club.requestedChallenge = .holds ↔
        Club.openChallenges.HoldsOn Club.challenge
          Club.requestedChallenge) := by
  have contentsPlain :
      ∀ field ∈ Club.challenge.fields,
        Sql.contentHasPlainYear (field.valueIn Club.requestedChallenge) := by
    unfold Sql.contentHasPlainYear
    simp only [Club.challenge, List.forall_mem_cons]
    decide
  have contentsHeld :
      ∀ field ∈ Club.challenge.fields,
        field.kind.holds (field.valueIn Club.requestedChallenge) = true := by
    decide
  exact ⟨_, rfl,
    compiled_condition_holds_iff (by decide) rfl (by decide) contentsPlain
      contentsHeld⟩

end RecordQuery
