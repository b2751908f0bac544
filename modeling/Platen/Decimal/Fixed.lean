import Platen.Decimal.Shortest

/-!
# Decimals with a fixed number of places

The exact value of a floating-point number is rounded to the nearest multiple of the last place; a
value halfway between two of them goes to the even one.
-/

namespace Platen.Decimal

/-- The integer nearest to `n / d`, a half going to the even neighbour. -/
def roundHalfEven (n d : Nat) : Nat :=
  let quotient := n / d
  let rest := n % d
  if 2 * rest < d then quotient
  else if d < 2 * rest then quotient + 1
  else if quotient % 2 = 0 then quotient
  else quotient + 1

/-- The number of units of the last of `places` places in `significand · 2 ^ exponent`. -/
def fixedUnits (places significand : Nat) (exponent : Int) : Nat :=
  if 0 ≤ exponent then significand * Nat.pow 2 exponent.toNat * Nat.pow 10 places
  else roundHalfEven (significand * Nat.pow 10 places) (Nat.pow 2 (-exponent).toNat)

/-- The magnitude of a number with exactly `places` digits after the point. -/
def fixedDigits (places : Nat) (x : Float) : List Char :=
  match Binary64.ofFloat x with
  | .nan => "NaN".toList
  | .infinite _ => "inf".toList
  | .finite _ significand exponent =>
    placePoint (natDigits (fixedUnits places significand exponent)) places

end Platen.Decimal
