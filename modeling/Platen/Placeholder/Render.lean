import Platen.Bits
import Platen.Placeholder.Basic
import Platen.Source
import Platen.Value.Text

/-!
# Rendering placeholders

The value of a placeholder is resolved against the sources, reduced by its aggregate, formatted, and
padded to its width.
-/

namespace Platen

/-- Evaluates an expression against named values; a failure is explained in words. -/
abbrev Evaluator := String → Entries Value → Except String Value

namespace Aggregate

/-- The integers in a list of values, if there is nothing else in it. -/
def ints? : List Value → Option (List Int)
  | [] => some []
  | .int i :: rest => (ints? rest).map (i :: ·)
  | _ :: _ => none

/-- A sum of integers in 64 bits: what these keep of it, and whether one of the additions left them.
Without overflow checks the program goes on with what is kept; with them it stops there. -/
structure Total where
  value : Int := 0
  overflowed : Bool := false
  deriving DecidableEq, Repr

/-- The sum with one more integer. -/
def Total.add (total : Total) (i : Int) : Total where
  value := Bits.wrap 64 (total.value + i)
  overflowed := total.overflowed || !Bits.signed 64 (total.value + i)

/-- The sum of integers, added one after the other. -/
def total (ints : List Int) : Total :=
  ints.foldl Total.add {}

/-- The floating-point numbers nearest to the numbers in a list of values, if there is nothing else
in it. -/
def floats? : List Value → Option (List Float)
  | [] => some []
  | .int i :: rest => (floats? rest).map (Decimal.ofInt i :: ·)
  | .float x :: rest => (floats? rest).map (x :: ·)
  | _ :: _ => none

/-- The first value whose kind differs from the kind of the first value. -/
def oddKind? : List Value → Option (Value.Kind × Value.Kind)
  | [] => none
  | first :: rest =>
    (rest.find? (·.kind ≠ first.kind)).map fun odd => (first.kind, odd.kind)

/-- Reduces a list of values of one kind. -/
def apply (aggregate : Aggregate) (v : Value) : Except PlaceholderError Value :=
  match v with
  | .list items =>
    match oddKind? items with
    | some (first, odd) => .error (.mixedCollection first odd)
    | none =>
      match aggregate with
      | count => .ok (.int items.length)
      | sum =>
        match ints? items, floats? items with
        | some ints, _ => .ok (.int (total ints).value)
        | none, some xs => .ok (.float (xs.foldl (· + ·) (-0.0)))
        | none, none => .error .sumNotNumeric
  | v => .error (.notCollection v.kind)

end Aggregate

namespace Placeholder

/-- The value that a placeholder stands for, before it is reduced and formatted. -/
def value (p : Placeholder) (sources : List Source) (evaluate : Evaluator) :
    Except PlaceholderError Value :=
  match p.kind with
  | .member =>
    match Source.resolve? sources p.base with
    | some v => .ok v
    | none => .error (.missingMember p.base)
  | .script =>
    match evaluate p.base (Source.bindings sources) with
    | .ok v => .ok v
    | .error detail => .error (.evaluation detail)

/-- The text of a value under the aggregate and the formatter of a placeholder. -/
def renderValue (p : Placeholder) (v : Value) (style : NumberStyle) :
    Except PlaceholderError String := do
  let v ← match p.aggregate with
    | some aggregate => aggregate.apply v
    | none => .ok v
  match p.formatter with
  | some formatter => (formatter.format v style).mapError .format
  | none => .ok v.toText

/-- The text that a placeholder leaves in a line. -/
def render (p : Placeholder) (sources : List Source) (evaluate : Evaluator)
    (style : NumberStyle) : Except PlaceholderError String := do
  let v ← p.value sources evaluate
  let text ← p.renderValue v style
  return Text.pad text p.width (p.alignment.getD .left)

end Placeholder

end Platen
