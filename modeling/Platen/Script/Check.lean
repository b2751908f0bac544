import Platen.Script.Argument
import Platen.Text.CaseProperty
import Platen.Text.Segment

/-!
# Tests

A test asks a yes-or-no question about a value.
-/

namespace Platen.Script.Check

/-- A question without arguments. -/
def plain (answer : Datum → Bool) (subject : Datum) (args : Arguments) : Except Error Bool := do
  args.atMost 0
  return answer subject

/-- A question that compares a value with another. -/
def withOther (answer : Datum → Datum → Except Error Bool) (subject : Datum) (args : Arguments) :
    Except Error Bool := do
  let other ← args.required 0 (·.toDatum)
  args.atMost 1
  answer subject other

/-- A question about the texts of two values. -/
def withText (answer : List Char → List Char → Bool) (subject : Datum) (args : Arguments) :
    Except Error Bool := do
  let other ← args.required 0 (·.toText)
  args.atMost 1
  return answer subject.shown.toList other.toList

/-- A question about the characters of a text. -/
def ofChars (answer : Char → Bool) (subject : Datum) (args : Arguments) : Except Error Bool := do
  let s ← (Argument.value subject).onlyText
  args.atMost 0
  return s.toList.all answer

/-- A question about the order of two values. -/
def byOrder (answer : Ordering → Bool) : Datum → Arguments → Except Error Bool :=
  withOther fun a b => .ok (answer (Datum.compare a b))

/-- Whether the integer behind a value leaves a given remainder when halved. -/
def halves (answer : Bool) (d : Datum) : Bool :=
  match d.toInt? with
  | some i => (i % 2 == 0) == answer
  | none => false

/-- Whether one number divides another. -/
def divides (a b : Datum) : Bool :=
  match Datum.coerce? false a b with
  | some (.ints i j) => i % j == 0
  | some (.floats x y) => Decimal.remainder x y == 0.0
  | _ => false

/-- Whether two values are of one kind and equal. -/
def same (a b : Datum) : Bool :=
  a.kind = b.kind && a == b

/-- Whether a container holds a value; what is not a container holds nothing. -/
def isIn (value container : Datum) : Except Error Bool :=
  match container with
  | .undefined => .error .undefinedValue
  | container => .ok ((container.contains value).toOption.getD false)

/-- The test with a given name, apart from those about names. -/
def find? (name : String) : Option (Datum → Arguments → Except Error Bool) :=
  match name with
  | "undefined" => some (plain (·.kind == .undefined))
  | "defined" => some (plain (·.kind != .undefined))
  | "none" => some (plain (·.kind == .none))
  | "safe" | "escaped" => some (plain fun | .text _ safe => safe | _ => false)
  | "boolean" => some (plain (·.kind == .bool))
  | "odd" => some (plain (halves false))
  | "even" => some (plain (halves true))
  | "number" => some (plain (·.kind == .number))
  | "integer" | "int" => some (plain fun | .int _ => true | _ => false)
  | "float" => some (plain fun | .float _ => true | _ => false)
  | "string" => some (plain (·.kind == .text))
  | "sequence" => some (plain (·.kind == .seq))
  | "iterable" => some (plain (·.items?.isSome))
  | "mapping" => some (plain (·.kind == .map))
  | "true" => some (plain fun | .bool b => b | _ => false)
  | "false" => some (plain fun | .bool b => !b | _ => false)
  | "startingwith" => some (withText fun s start => start.isPrefixOf s)
  | "endingwith" => some (withText fun s stop => stop.isSuffixOf s)
  | "lower" => some (ofChars Text.isLowercase)
  | "upper" => some (ofChars Text.isUppercase)
  | "divisibleby" => some (withOther fun a b => .ok (divides a b))
  | "sameas" => some (withOther fun a b => .ok (same a b))
  | "in" => some (withOther isIn)
  | "eq" | "equalto" | "==" => some (withOther fun a b => .ok (a == b))
  | "ne" | "!=" => some (withOther fun a b => .ok (a != b))
  | "lt" | "lessthan" | "<" => some (byOrder (· == .lt))
  | "le" | "<=" => some (byOrder (· != .gt))
  | "gt" | "greaterthan" | ">" => some (byOrder (· == .gt))
  | "ge" | ">=" => some (byOrder (· != .lt))
  | _ => none

/-- The names of the tests about names. -/
def nameTests : List String := ["filter", "test"]

/-- Whether there is a test of a given name. -/
def isTest (name : String) : Bool :=
  nameTests.contains name || (find? name).isSome

end Platen.Script.Check
