import Platen.Bits
import Platen.Decimal.Reader
import Platen.Json.Basic

/-!
# Numbers in JSON

Digits are gathered into a 64-bit significand.  Digits that no longer fit only count: before the
point they raise the decimal exponent, after it they are dropped.  A number without point and
exponent is an integer if 64 bits hold it, and every other number is the significand times a power
of ten, computed in floating point.
-/

namespace Platen.Json

open Decimal

/-- One past the greatest significand. -/
def significandLimit : Nat := Bits.span 64

/-- Whether a number is kept as an integer: 64 bits hold it, with a sign or without. -/
def inIntegerRange (i : Int) : Bool :=
  Bits.signed 64 i || Bits.unsigned 64 i

/-- The greatest exponent of a power of ten that is a floating-point number. -/
def greatestPower : Nat := 308

/-- `x · 10 ^ exponent` for an exponent that is not negative; too large a result is refused. -/
def scaleUp (x : Float) (exponent : Nat) : Except ReadError Float :=
  if greatestPower < exponent then
    if x == 0.0 then .ok x else .error .malformed
  else
    let y := x * Float.ofScientific 1 false exponent
    if isFinite y then .ok y else .error .malformed

/-- `x / 10 ^ exponent`, in steps of the greatest power of ten; at most `steps` are needed. -/
def scaleDown (x : Float) (exponent : Nat) : Nat → Float
  | 0 => x
  | steps + 1 =>
    if exponent ≤ greatestPower then x / Float.ofScientific 1 false exponent
    else if x == 0.0 then x
    else scaleDown (x / Float.ofScientific 1 false greatestPower) (exponent - greatestPower) steps

/-- The number `± significand · 10 ^ exponent`. -/
def assemble (negative : Bool) (significand : Nat) (exponent : Int) : Except ReadError Float := do
  let x := Float.ofNat significand
  let y ← if 0 ≤ exponent then scaleUp x exponent.toNat
    else .ok (scaleDown x exponent.natAbs 4)
  return if negative then -y else y

/-- Adds digits to a significand while it has room; the rest of the digits are returned. -/
def gather (significand : Nat) : List Char → Nat × List Char
  | [] => (significand, [])
  | c :: digits =>
    let next := 10 * significand + digitValue c
    if next < significandLimit then gather next digits else (significand, c :: digits)

/-- The parts of a number: sign, whole digits, fraction digits and exponent. -/
structure NumberParts where
  negative : Bool
  whole : List Char
  fraction : Option (List Char)
  exponent : Option Int

/-- The greatest exponent that can be written; a larger one is out of range. -/
def exponentLimit : Int := Bits.span 31

/-- The number with the given parts. -/
def NumberParts.toJson (parts : NumberParts) : Except ReadError Json := do
  let (significand, excess) := gather 0 parts.whole
  match parts.fraction, parts.exponent with
  | none, none =>
    let i : Int := if parts.negative then -significand else significand
    if excess.isEmpty && inIntegerRange i && !(parts.negative && significand == 0) then
      return .int i
    else return .float (← assemble parts.negative significand excess.length)
  | fraction, exponent =>
    let digits := fraction.getD []
    let (significand, dropped) := gather significand digits
    let start : Int := Int.ofNat excess.length - Int.ofNat (digits.length - dropped.length)
    let exponent := exponent.getD 0
    if exponentLimit ≤ exponent && significand != 0 then .error .malformed
    else if exponentLimit ≤ exponent || exponent ≤ -exponentLimit then
      return .float (if parts.negative then -0.0 else 0.0)
    else return .float (← assemble parts.negative significand (start + exponent))

end Platen.Json
