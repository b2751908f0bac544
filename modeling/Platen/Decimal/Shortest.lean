import Platen.Decimal.Binary64

/-!
# The shortest decimal of a floating-point number

Every finite floating-point number is the nearest one to a whole interval of reals.  Its shortest
decimal is the decimal with the fewest digits in that interval; of two such it is the nearer one,
and of two equally near ones the larger.  The text writes it without an exponent, however long it
gets.
-/

namespace Platen.Decimal

/-- The natural number `digits` times `10 ^ exponent`. -/
structure Scaled where
  digits : Nat
  exponent : Int
  deriving DecidableEq, Repr

/-- A positive rational `numerator / denominator` with the bounds of an interval around it on the
same denominator; `closed` says whether the bounds belong to it. -/
structure Interval where
  low : Nat
  value : Nat
  high : Nat
  denominator : Nat
  closed : Bool

/-- The reals that round to `significand · 2 ^ exponent`, by quarters of its last place. -/
def Interval.ofDyadic (significand : Nat) (exponent : Int) : Interval :=
  let below := if significand = Nat.pow 2 52 && decide (-1074 < exponent) then 1 else 2
  let up := Nat.pow 2 (exponent - 2).toNat
  { low := (4 * significand - below) * up
    value := 4 * significand * up
    high := (4 * significand + 2) * up
    denominator := Nat.pow 2 (2 - exponent).toNat
    closed := significand % 2 == 0 }

/-- Whether the rational `n / d` lies in the interval. -/
def Interval.holds (i : Interval) (n d : Nat) : Bool :=
  let point := n * i.denominator
  if i.closed then i.low * d ≤ point && point ≤ i.high * d
  else i.low * d < point && point < i.high * d

/-- The exponent `k` with `10 ^ (k - 1) ≤ n / d < 10 ^ k`, for positive `n` and `d`. -/
def decimalOrder (n d : Nat) : Int :=
  if d ≤ n then (Nat.toDigits 10 (n / d)).length
  else
    let places := (Nat.toDigits 10 (d / n)).length
    if d ≤ n * Nat.pow 10 (places - 1) then 2 - Int.ofNat places else 1 - Int.ofNat places

/-- The best multiple of `10 ^ exponent` in the interval, if there is one. -/
def Interval.nearest? (i : Interval) (exponent : Int) : Option Nat :=
  let up := Nat.pow 10 exponent.toNat
  let down := Nat.pow 10 (-exponent).toNat
  let lower := i.value * down / (i.denominator * up)
  match i.holds (lower * up) down, i.holds ((lower + 1) * up) down with
  | false, false => none
  | true, false => some lower
  | false, true => some (lower + 1)
  | true, true =>
    if 2 * i.value * down < (2 * lower + 1) * (i.denominator * up) then some lower
    else some (lower + 1)

/-- The first grid, from coarse to fine, with a point in the interval. -/
def Interval.shortest (i : Interval) (exponent : Int) : Nat → Scaled
  | 0 => ⟨0, 0⟩
  | grids + 1 =>
    match i.nearest? exponent with
    | some digits => ⟨digits, exponent⟩
    | none => i.shortest (exponent - 1) grids

/-- The shortest decimal of the positive number `significand · 2 ^ exponent`; seventeen digits are
always enough. -/
def shortest (significand : Nat) (exponent : Int) : Scaled :=
  let interval := Interval.ofDyadic significand exponent
  interval.shortest (decimalOrder interval.value interval.denominator - 1) 17

/-- A natural number in decimal digits. -/
def natDigits (n : Nat) : List Char :=
  Nat.toDigits 10 n

/-- Digits with a point before the last `places` of them, and a zero before a leading point. -/
def placePoint (digits : List Char) (places : Nat) : List Char :=
  if places = 0 then digits
  else
    let padded := List.replicate (places + 1 - digits.length) '0' ++ digits
    padded.take (padded.length - places) ++ '.' :: padded.drop (padded.length - places)

/-- A scaled number without an exponent and without superfluous zeros. -/
def Scaled.positional (s : Scaled) : List Char :=
  if 0 ≤ s.exponent then natDigits (s.digits * Nat.pow 10 s.exponent.toNat)
  else placePoint (natDigits s.digits) (-s.exponent).toNat

/-- A number as the shortest decimal that reads back, in positional notation.  Whole numbers carry
no fraction, and a negative zero keeps its sign. -/
def floatText (x : Float) : String :=
  match Binary64.ofFloat x with
  | .nan => "NaN"
  | .infinite negative => if negative then "-inf" else "inf"
  | .finite negative significand exponent =>
    let digits := if significand = 0 then ['0'] else (shortest significand exponent).positional
    String.ofList (if negative then '-' :: digits else digits)

end Platen.Decimal
