import RecordQuery.Club.Entities
import RecordQuery.Database.Basic

namespace RecordQuery.Club

/-!
# The records of the club

The club starts with three players, three courts, four challenges and six items.
Some cells are null, and some keys of related records lead nowhere.
-/

/-- A cell with a text. -/
def text (content : String) : Option Value := some (.text content)

/-- A cell with a whole number. -/
def integer (content : Int64) : Option Value := some (.integer content)

/-- A cell with the floating-point number of some bits. -/
def float (bits : UInt64) : Option Value := some (.float ⟨bits⟩)

/-- A cell with a truth value. -/
def boolean (content : Bool) : Option Value := some (.boolean content)

/-- A cell with an instant. -/
def instant (seconds : Int) (nanoseconds : Nat) : Option Value :=
  (Instant.ofParts? seconds nanoseconds).map .timestamp

/-- A cell with an identifier. -/
def token (content : BitVec 128) : Option Value := some (.uuid ⟨content⟩)

/-- A record of an entity from its key and its cells in order. -/
def recordOf (entity : Entity) (key : Int64) (cells : List (Option Value)) :
    Record where
  key := key
  cells := (entity.plainColumns.map Column.name).zip cells

/-- A table that has used no other keys than those of its records. -/
def tableOf (entity : Entity) (records : List (List (Option Value))) :
    Table where
  name := entity.table
  records :=
    records.zipIdx.map fun entry =>
      recordOf entity (Int64.ofNat (entry.2 + 1)) entry.1
  lastKey := records.length

/-- The players. -/
def players : Table :=
  tableOf player
    [ [ text "Alice Smith", text "ADVANCED", text "WOMEN",
        text "555-0101", text "ACTIVE" ],
      [ text "Bob Jones", text "BEGINNER", text "MAN",
        none, text "PASSIVE" ],
      [ text "Carol White", none, text "WOMEN",
        text "555-0199", text "ACTIVE" ] ]

/-- The courts. -/
def cords : Table :=
  tableOf cord
    [ [text "Central Court", text "1 Main St", text "ACTIVE"],
      [text "River Court", text "9 Bank Rd", text "PASSIVE"],
      [text "Old Court", none, text "DELETED"] ]

/-- The challenges. -/
def challenges : Table :=
  tableOf challenge
    [ [ instant 1714557600 0, text "ACCEPTED",
        integer 1, integer 2, integer 1 ],
      [ instant 1715364000 0, text "REQUESTED",
        integer 1, integer 3, integer 1 ],
      [none, text "REQUESTED", integer 2, none, integer 2],
      [ instant 1717318800 0, text "REJECTED",
        integer 3, integer 1, none ] ]

/-- The items. -/
def items : Table :=
  tableOf item
    [ [ text "root", text "a 50%_off deal", float 0x3FF8000000000000,
        boolean true, instant 1704067200 0,
        token 0x00000000000000000000000000000001#128,
        text "A", integer 1, none ],
      [ text "Ünder", text "back\\slash", float 0xC002000000000000,
        boolean false, instant 1704067200 500000000,
        token 0x0123456789ABCDEF0123456789ABCDEF#128,
        text "B+", integer 2, integer 1 ],
      [ text "alpha", text "", float 0,
        boolean true, instant 1704067199 1000,
        token 0xFFFFFFFFFFFFFFFFFFFFFFFFFFFFFFFF#128,
        text "NOT SET", integer 3, integer 1 ],
      [ text "Alpha", none, none, none, none, none, none, none,
        integer 2 ],
      [ text "zeta", text "it's \"quoted\"", float 0x4008000000000000,
        boolean false, instant (-86400) 0,
        token 0xA0A0A0A0B1B1C2C2D3D3E4E4E4E4E4E4#128,
        text "Élite", integer 99, integer 77 ],
      [ text "émile", text "root", float 0x7E37E43C8800759C,
        boolean true, instant 1709209845 123456789,
        token 0x00000000000000000000000000000002#128,
        text "", integer 1, integer 4 ] ]

/-- The database of the club as it starts. -/
def seeded : Database := ⟨[players, cords, challenges, items]⟩

/-- The database of the club before any record. -/
def unseeded : Database :=
  ⟨[tableOf player [], tableOf cord [], tableOf challenge [], tableOf item []]⟩

end RecordQuery.Club
