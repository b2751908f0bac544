import Platen.Decimal.Reader
import Platen.Script.Operator
import Platen.Text.Segment

/-!
# Arguments

Filters, tests and functions take their arguments in order.  Named arguments come last; one who
has no use for names sees them as a map in the last place.  An argument of the wrong kind is
reported before a missing one after it, and both before an argument too many.
-/

namespace Platen.Script

/-- An argument: a value, or all named arguments together. -/
inductive Argument where
  | value (d : Datum)
  | named (entries : List (Datum × Datum))

namespace Argument

/-- An argument as a value. -/
def datum : Argument → Datum
  | value d => d
  | named entries => .map entries

/-- Any value as text. -/
def toText (a : Argument) : Except Error String :=
  match a with
  | value d => .ok d.shown
  | named _ => .error .invalidOperation

/-- A text. -/
def onlyText (a : Argument) : Except Error String :=
  match a with
  | value (.text s _) => .ok s
  | _ => .error .invalidOperation

/-- A truth value. -/
def toBool (a : Argument) : Except Error Bool :=
  match a with
  | value (.bool b) => .ok b
  | _ => .error .invalidOperation

/-- A number of times. -/
def toCount (a : Argument) : Except Error Nat :=
  match a.datum.toCount? with
  | some n => .ok n
  | none => .error .invalidOperation

/-- An integer of a given number of bits. -/
def toInt (bits : Nat) (a : Argument) : Except Error Int :=
  match a.datum.toInt? with
  | some i =>
    if Bits.signed bits i then .ok i else .error .invalidOperation
  | none => .error .invalidOperation

/-- Any value. -/
def toDatum (a : Argument) : Except Error Datum :=
  .ok a.datum

end Argument

/-- The arguments of a call. -/
abbrev Arguments := List Argument

namespace Arguments

/-- The argument at a place, which there must be. -/
def required {α : Type} (args : Arguments) (index : Nat) (convert : Argument → Except Error α) :
    Except Error α :=
  match args[index]? with
  | some a => convert a
  | none => .error .missingArgument

/-- The argument at a place, if there is one and it is neither undefined nor none. -/
def optional {α : Type} (args : Arguments) (index : Nat) (convert : Argument → Except Error α) :
    Except Error (Option α) :=
  match args[index]? with
  | some a =>
    match a with
    | .value .undefined | .value .none => .ok none
    | a => (convert a).map some
  | none => .ok none

/-- Refuses arguments from a place on. -/
def atMost (args : Arguments) (count : Nat) : Except Error Unit :=
  if count < args.length then .error .tooManyArguments else .ok ()

/-- The arguments in order, and the named ones. -/
def splitNamed (args : Arguments) : Arguments × List (Datum × Datum) :=
  match args.getLast? with
  | some (.named entries) => (args.dropLast, entries)
  | _ => (args, [])

end Arguments

/-- Named arguments. -/
abbrev Named := List (Datum × Datum)

namespace Named

/-- The argument of a given name. -/
def get? (named : Named) (name : String) : Option Datum :=
  Datum.find? named (Datum.ofText name)

/-- The argument of a given name, if there is one and it is neither undefined nor none. -/
def optional {α : Type} (named : Named) (name : String) (convert : Argument → Except Error α) :
    Except Error (Option α) :=
  match named.get? name with
  | none | some .undefined | some .none => .ok none
  | some d => (convert (.value d)).map some

/-- Refuses arguments with other names. -/
def only (named : Named) (names : List String) : Except Error Unit :=
  if named.all fun (key, _) => names.any fun name => key == Datum.ofText name then .ok ()
  else .error .tooManyArguments

end Named

namespace Datum

/-- The items of a value; an undefined value may not be asked. -/
def itemsStrict (d : Datum) : Except Error (List Datum) :=
  match d with
  | undefined => .error .undefinedValue
  | d =>
    match d.items? with
    | some items => .ok items
    | Option.none => .error .invalidOperation

/-- The items of a value that is to be made a list. -/
def itemsForList (d : Datum) : Except Error (List Datum) :=
  d.itemsStrict.mapError fun _ => .invalidOperation

/-- The item of a value at a key, undefined if there is none. -/
def getItem (d key : Datum) : Except Error Datum :=
  match d with
  | undefined => .error .undefinedValue
  | d => .ok ((d.item? key).getD .undefined)

/-- The field of a value with a given name, undefined if there is none. -/
def getField (d : Datum) (name : String) : Except Error Datum :=
  match d with
  | undefined => .error .undefinedValue
  | d => .ok ((d.field? name).getD .undefined)

/-- The value at a path of names and positions with points between them. -/
def getPath (d : Datum) (path : String) : Except Error Datum :=
  (Text.segments '.' path.toList).foldlM
    (fun d part =>
      match Decimal.readNatBelow? (Bits.span 64) part with
      | some n => d.getItem (.int n)
      | Option.none => d.getField (String.ofList part))
    d

/-- The value at a path, or another one where there is none. -/
def getPathOr (d : Datum) (path : String) (other : Datum) : Datum :=
  match d.getPath path with
  | .error _ | .ok undefined => other
  | .ok found => found

/-- A text in lower case as far as its letters are ASCII. -/
def asciiLower (s : String) : String :=
  String.ofList (s.toList.map Char.toLower)

/-- The order of two values; texts may be compared without regard to case. -/
def compareBy (caseSensitive : Bool) (a b : Datum) : Ordering :=
  match a, b with
  | text s _, text t _ =>
    if caseSensitive then compare a b else Ord.compare (asciiLower s) (asciiLower t)
  | a, b => compare a b

/-- Values sorted by an order; equal ones stay in their order. -/
def sortBy {α : Type} (order : α → α → Ordering) (items : List α) : List α :=
  items.mergeSort fun a b => order a b != .gt

end Datum

end Platen.Script
