import Platen.Script.Display
import Platen.Script.Error
import Platen.Value.Json

/-!
# Data in and out of scripts

The data of a report enters a script as it is, dates as texts and objects as maps of their listed
properties.  The result of a script leaves as JSON: integers within 64 bits, map keys as texts, and
whatever has no JSON form of its own as null.
-/

namespace Platen.Script.Datum

mutual
/-- A value as a script sees it. -/
def ofValue : Value → Datum
  | .null => none
  | .bool b => bool b
  | .int i => int i
  | .float x => float x
  | .text s => ofText s
  | .date d => ofText d.toText
  | .list items => ofList (ofValues items)
  | .map entries => map ((ofEntries entries).map fun (name, d) => (ofText name, d))
  | .object _ properties _ names =>
    let fields := ofEntries properties
    ofPairs (names.map fun name => (ofText name, (fields.lookup name).getD none))

/-- The items of a list as a script sees them. -/
def ofValues : List Value → List Datum
  | [] => []
  | item :: rest => ofValue item :: ofValues rest

/-- Named values as a script sees them. -/
def ofEntries : List (String × Value) → List (String × Datum)
  | [] => []
  | (name, value) :: rest => (name, ofValue value) :: ofEntries rest
end

/-- A floating-point key as text: without an exponent if the power of ten of its first digit lies
between -5 and 15. -/
def floatKey (x : Float) : String := floatWithin (-5) x

/-- A map key as the name of a JSON member. -/
def keyText : Datum → Except Error String
  | text s _ => .ok s
  | bool b => .ok (if b then "true" else "false")
  | int i => .ok (toString i)
  | float x => if Decimal.isFinite x then .ok (floatKey x) else .error .keyNotFinite
  | function name => .ok name
  | undefined | none | seq .. | map _ => .error .keyNotText

/-- An integer of at most 64 bits, with a sign or without. -/
def intToJson (i : Int) : Except Error Json :=
  if Bits.signed 64 i || Bits.unsigned 64 i then .ok (.int i) else .error .numberOutOfRange

mutual
/-- The JSON form of a result. -/
def toJson : Datum → Except Error Json
  | undefined | none => .ok .null
  | bool b => .ok (.bool b)
  | int i => intToJson i
  | float x => .ok (if Decimal.isFinite x then .float x else .null)
  | text s _ => .ok (.text s)
  | seq _ items => do return .list (← itemsToJson items)
  | map entries => do return .object (Entries.ofList (← entriesToJson entries))
  | function name => .ok (.text name)

/-- The JSON forms of the items of a sequence. -/
def itemsToJson : List Datum → Except Error (List Json)
  | [] => .ok []
  | item :: rest => do
    let j ← toJson item
    return j :: (← itemsToJson rest)

/-- The names and JSON forms of the entries of a map. -/
def entriesToJson : List (Datum × Datum) → Except Error (List (String × Json))
  | [] => .ok []
  | (key, value) :: rest => do
    let name ← keyText key
    let j ← toJson value
    return (name, j) :: (← entriesToJson rest)
end

end Platen.Script.Datum
