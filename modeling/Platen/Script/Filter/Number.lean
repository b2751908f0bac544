import Platen.Script.Argument

/-!
# Filters on numbers

Rounding, magnitudes, and the conversion of values to numbers.
-/

namespace Platen.Script.Filter

open Decimal

/-- A power of ten by repeated squaring; each squaring and product is rounded. -/
def tenPower (square product : Float) : Nat → Nat → Float
  | 0, _ => product
  | fuel + 1, n =>
    let product := if n % 2 = 1 then product * square else product
    if n / 2 = 0 then product else tenPower (square * square) product fuel (n / 2)

/-- The floating-point power of ten that a precision stands for. -/
def precisionFactor (places : Int) : Float :=
  let power := tenPower 10.0 1.0 32 places.natAbs
  if places < 0 then 1.0 / power else power

/-- A number rounded to a number of places, halves going away from zero. -/
def round (places : Int) : Datum → Except Error Datum
  | .int i => .ok (.int i)
  | .float x =>
    let factor := precisionFactor places
    .ok (.float (roundHalfAway (factor * x) / factor))
  | _ => .error .invalidOperation

/-- A number without its sign. -/
def abs : Datum → Except Error Datum
  | .int i => Datum.checked i.natAbs
  | .float x => .ok (.float (magnitude x))
  | _ => .error .invalidOperation

/-- An integer of up to 128 bits written in decimal digits with an optional sign. -/
def readInt? (cs : List Char) : Option Int :=
  let (negative, digits) := readSign cs
  if digits.isEmpty || !digits.all Char.isDigit then none
  else
    let n := Int.ofNat (digitsValue digits)
    let i := if negative then -n else n
    if Bits.signed 128 i then some i else none

/-- A value as an integer; fractions are cut off. -/
def int : Datum → Except Error Datum
  | .undefined | .none => .ok (.int 0)
  | .bool b => .ok (.int (if b then 1 else 0))
  | .int i => .ok (.int i)
  | .float x => .ok (.int (Datum.saturate 128 x))
  | .text s _ =>
    match readInt? s.toList, readFloat? s.toList with
    | some i, _ => .ok (.int i)
    | none, some x => .ok (.int (Datum.saturate 128 x))
    | none, none => .error .invalidOperation
  | _ => .error .invalidOperation

/-- A value as a floating-point number. -/
def float : Datum → Except Error Datum
  | .undefined | .none => .ok (.float 0.0)
  | .text s _ =>
    match readFloat? s.toList with
    | some x => .ok (.float x)
    | none => .error .invalidOperation
  | d =>
    match d.toFloat? true with
    | some x => .ok (.float x)
    | none => .error .invalidOperation

end Platen.Script.Filter
