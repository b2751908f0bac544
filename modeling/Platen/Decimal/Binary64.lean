/-!
# The exact value of a binary64 number

A floating-point number is taken apart into its sign and a natural number times a power of two.  All
exact work on floating-point numbers (printing, rounding, remainders) starts from this view.
-/

namespace Platen.Decimal

/-- A binary64 number as a mathematical object: `finite` stands for `± significand · 2 ^
exponent`. -/
inductive Binary64 where
  | nan
  | infinite (negative : Bool)
  | finite (negative : Bool) (significand : Nat) (exponent : Int)
  deriving DecidableEq, Repr

/-- The exact view of a floating-point number. -/
def Binary64.ofFloat (x : Float) : Binary64 :=
  let bits := x.toBits.toNat
  let negative := bits / Nat.pow 2 63 == 1
  let biased : Nat := bits / Nat.pow 2 52 % Nat.pow 2 11
  let fraction := bits % Nat.pow 2 52
  if biased = 2047 then
    if fraction = 0 then .infinite negative else .nan
  else if biased = 0 then .finite negative fraction (-1074)
  else .finite negative (Nat.pow 2 52 + fraction) (Int.ofNat biased - 1075)

/-- Whether a number is neither infinite nor a NaN. -/
def isFinite (x : Float) : Bool :=
  match Binary64.ofFloat x with
  | .finite .. => true
  | _ => false

/-- The number without its sign. -/
def magnitude (x : Float) : Float :=
  Float.ofBits (UInt64.ofNat (x.toBits.toNat % Nat.pow 2 63))

/-- The number with the sign given. -/
def withSign (negative : Bool) (x : Float) : Float :=
  if negative then -(magnitude x) else magnitude x

/-- The floating-point number nearest to an integer. -/
def ofInt (i : Int) : Float :=
  withSign (i < 0) (Float.ofNat i.natAbs)

/-- The floating-point number nearest to `significand · 2 ^ exponent`. -/
def ofDyadic (significand : Nat) (exponent : Int) : Float :=
  if 0 ≤ exponent then Float.ofNat (significand * Nat.pow 2 exponent.toNat)
  else
    let places := (-exponent).toNat
    Float.ofScientific (significand * Nat.pow 5 places) true places

/-- The whole part of `significand · 2 ^ exponent`. -/
def wholePart (significand : Nat) (exponent : Int) : Nat :=
  if 0 ≤ exponent then significand * Nat.pow 2 exponent.toNat
  else significand / Nat.pow 2 (-exponent).toNat

/-- The integer nearest to a number, a half going away from zero; the sign of zero is kept. -/
def roundHalfAway (x : Float) : Float :=
  match Binary64.ofFloat x with
  | .finite negative significand exponent =>
    if 0 ≤ exponent then x
    else
      let unit := Nat.pow 2 (-exponent).toNat
      withSign negative (Float.ofNat ((2 * significand + unit) / (2 * unit)))
  | _ => x

/-- The integer next to a number in the direction of zero; the sign of zero is kept. -/
def truncate (x : Float) : Float :=
  match Binary64.ofFloat x with
  | .finite negative significand exponent =>
    if 0 ≤ exponent then x
    else withSign negative (Float.ofNat (wholePart significand exponent))
  | _ => x

/-- A finite number that is an integer, as that integer. -/
def toInt? (x : Float) : Option Int :=
  match Binary64.ofFloat x with
  | .finite negative significand exponent =>
    let whole := wholePart significand exponent
    if exponent < 0 && whole * Nat.pow 2 (-exponent).toNat != significand then none
    else some (if negative then -Int.ofNat whole else Int.ofNat whole)
  | _ => none

/-- The remainder of a division that truncates; it has the sign of the dividend. -/
def remainder (x y : Float) : Float :=
  match Binary64.ofFloat x, Binary64.ofFloat y with
  | .finite negative a i, .finite _ b j =>
    if b = 0 then 0.0 / 0.0
    else
      let k := min i j
      withSign negative (ofDyadic (a * Nat.pow 2 (i - k).toNat % (b * Nat.pow 2 (j - k).toNat)) k)
  | .finite .., .infinite _ => x
  | _, _ => 0.0 / 0.0

/-- The quotient of the division whose remainder is never negative. -/
def euclideanQuotient (x y : Float) : Float :=
  let quotient := truncate (x / y)
  if remainder x y < 0.0 then
    if 0.0 < y then quotient - 1.0 else quotient + 1.0
  else quotient

end Platen.Decimal
