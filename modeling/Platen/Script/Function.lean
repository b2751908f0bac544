import Platen.Script.Argument
import Platen.Script.Display

/-!
# Functions

The functions that every expression can call: number ranges, maps made from named arguments, and a
detailed display of values.
-/

namespace Platen.Script.Function

/-- The most numbers that a range may have. -/
def rangeLimit : Nat := 100000

/-- A bound of a range: a whole number of 32 bits. -/
def toBound (a : Argument) : Except Error Nat :=
  match a.datum.toInt? with
  | some i => if Bits.unsigned 32 i then .ok i.toNat else .error .invalidOperation
  | none => .error .invalidOperation

/-- The numbers from `start` up to but not including `stop`, each `step` more than the one before.
-/
def rangeNumbers (start stop step : Nat) : List Nat :=
  List.range' start ((stop - start + (step - 1)) / step) step

/-- The stream of numbers between two bounds; a single bound is the upper one. -/
def range (args : Arguments) : Except Error Datum := do
  let low ← args.required 0 toBound
  let high ← args.optional 1 toBound
  let step := (← args.optional 2 toBound).getD 1
  args.atMost 3
  let (start, stop) := match high with
    | some high => (low, high)
    | none => (0, low)
  if step = 0 || rangeLimit < (stop - start + (step - 1)) / step then .error .invalidOperation
  else .ok (Datum.ofStream ((rangeNumbers start stop step).map fun n => .int (Int.ofNat n)))

/-- The entries of a map; undefined and missing values have none. -/
def entriesOf (d : Option Datum) : Except Error (List (Datum × Datum)) :=
  match d with
  | none | some .undefined | some .none => .ok []
  | some (.map entries) => .ok entries
  | some _ => .error .invalidOperation

/-- A map, with the named arguments as further entries. -/
def dict (args : Arguments) : Except Error Datum := do
  let (args, named) := args.splitNamed
  let entries ← entriesOf (← args.optional 0 (·.toDatum))
  args.atMost 1
  return .map (named.foldl (fun entries (key, value) => Datum.insert key value entries) entries)

/-- A map with texts as keys, from another map or from the named arguments. -/
def namespaceOf (args : Arguments) : Except Error Datum := do
  let entries ← entriesOf (← args.optional 0 (·.toDatum))
  args.atMost 1
  if entries.all fun (key, _) => key.kind = .text then return .map entries
  else .error .invalidOperation

/-- Values over several lines: one by itself, more of them as a list. -/
def display (args : Arguments) : Datum :=
  match args with
  | [a] => Datum.ofText (a.datum.pretty 0)
  | args => Datum.ofText ((Datum.ofList (args.map (·.datum))).pretty 0)

/-- The function with a given name. -/
def find? (name : String) : Option (Arguments → Except Error Datum) :=
  match name with
  | "range" => some range
  | "dict" => some dict
  | "namespace" => some namespaceOf
  | "debug" => some fun args => .ok (display args)
  | _ => none

end Platen.Script.Function
