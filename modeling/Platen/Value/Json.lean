import Platen.Bits
import Platen.Decimal.Binary64
import Platen.Json.Basic
import Platen.Value.Text

/-!
# Values and JSON

Every value has a JSON form, in which dates are texts, objects are the map of their listed
properties, and numbers that are not finite are null.  Every JSON document is a value; its integers
outside 64 bits become floating-point numbers.
-/

namespace Platen.Value

mutual
/-- The JSON form of a value. -/
def toJson : Value → Json
  | null => .null
  | bool b => .bool b
  | int i => .int i
  | float x => if Decimal.isFinite x then .float x else .null
  | text s => .text s
  | date d => .text d.toText
  | list items => .list (itemsToJson items)
  | map entries => .object (entriesToJson entries)
  | object _ properties _ names =>
    let members := entriesToJson properties
    .object (Entries.ofList (names.map fun name => (name, (members.lookup name).getD .null)))

/-- The JSON forms of the items of a list. -/
def itemsToJson : List Value → List Json
  | [] => []
  | item :: items => toJson item :: itemsToJson items

/-- The JSON forms of named values, with their names. -/
def entriesToJson : List (String × Value) → List (String × Json)
  | [] => []
  | (name, value) :: rest => (name, toJson value) :: entriesToJson rest
end

mutual
/-- The value of a JSON document. -/
def ofJson : Json → Value
  | .null => null
  | .bool b => bool b
  | .int i => if Bits.signed 64 i then int i else float (Decimal.ofInt i)
  | .float x => float x
  | .text s => text s
  | .list items => list (itemsOfJson items)
  | .object members => map (entriesOfJson members)

/-- The values of the items of a JSON array. -/
def itemsOfJson : List Json → List Value
  | [] => []
  | item :: items => ofJson item :: itemsOfJson items

/-- The values of the members of a JSON object, with their names. -/
def entriesOfJson : List (String × Json) → List (String × Value)
  | [] => []
  | (name, value) :: rest => (name, ofJson value) :: entriesOfJson rest
end

end Platen.Value
