import RecordQuery.Operator
import RecordQuery.Text.Cut
import RecordQuery.Value

namespace RecordQuery

/-!
# Operands

What an operator is applied with.  An operand has one of four shapes, and every
operator takes exactly one of them.
-/

/-- The operand of an operator. -/
inductive Operand where
  | value (value : Value)
  | values (values : List Value)
  | flag (flag : Bool)
  | substring (substring : String)
  deriving DecidableEq

namespace Operand

/-- Whether an operand has the shape that an operator takes. -/
def fits (operator : Operator) : Operand → Bool
  | value _ =>
      !operator.isSet && !operator.isSubstring && operator != .specified
  | values _ => operator.isSet
  | flag _ => operator == .specified
  | substring _ => operator.isSubstring

/-- The typed values in an operand. -/
def members : Operand → List Value
  | .value single => [single]
  | .values several => several
  | .flag _ => []
  | .substring _ => []

/-- An operand with its shape, for messages. -/
def inspect : Operand → String
  | .value single => "Value(" ++ single.inspect ++ ")"
  | .values several =>
      "Values([" ++ Text.join ", " (several.map Value.inspect) ++ "])"
  | .flag isSet => "Flag(" ++ boolText isSet ++ ")"
  | .substring part => "Substring(" ++ Text.quoted part ++ ")"

end Operand

end RecordQuery
