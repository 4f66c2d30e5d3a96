import RecordQuery.Json.Reader

namespace RecordQuery.Json

/-!
# Members of an object

An object that stands for a record of known members may leave members out, and
may have members that nobody knows.  Giving a known member twice is an error,
and so is a name that is no text.
-/

/-- The members of an object, if every name is a text. -/
def membersOf? (members : List (CodePoints × Value)) :
    Option (List (String × Value)) :=
  members.mapM fun member =>
    (textOf? member.1).map fun name => (name, member.2)

/-- The members of a text that holds one object. -/
def objectMembers? (text : String) : Option (List (String × Value)) :=
  match read? text with
  | some (.object members) => membersOf? members
  | _ => none

/-- The values that a list of members has under a name. -/
def valuesNamed (name : String) (members : List (String × Value)) :
    List Value :=
  (members.filter fun member => member.1 == name).map Prod.snd

/-- Reads a member that may be left out, but not given twice. -/
def optional? {Result : Type}
    (name : String)
    (reader : Value → Option Result)
    (members : List (String × Value)) :
    Option (Option Result) :=
  match valuesNamed name members with
  | [] => some none
  | [value] => (reader value).map some
  | _ => none

/-- Reads an unsigned number of 64 bits, written with digits only. -/
def uint64? : Value → Option UInt64
  | .number written =>
      (Decimal.natural? written).bind fun value =>
        if value < UInt64.size then some (UInt64.ofNat value) else none
  | _ => none

/-- Reads a text. -/
def string? : Value → Option String
  | .text codePoints => textOf? codePoints
  | _ => none

/-- Reads null as nothing and everything else by a reader. -/
def nullable? {Result : Type}
    (reader : Value → Option Result) :
    Value → Option (Option Result)
  | .null => some none
  | value => (reader value).map some

end RecordQuery.Json
