import Platen.Decimal.Binary64

/-!
# Reading numbers

The grammar of a number is an optional sign followed by `inf`, `infinity` or `nan` in any case, or
by decimal digits with at most one point and an optional exponent.  At least one digit must stand
before or after the point, and one in the exponent.  The result is the floating-point number
nearest to the value written.
-/

namespace Platen.Decimal

/-- The value of a decimal digit. -/
def digitValue (c : Char) : Nat :=
  c.toNat - '0'.toNat

/-- The number that a row of decimal digits writes. -/
def digitsValue (cs : List Char) : Nat :=
  cs.foldl (fun n c => 10 * n + digitValue c) 0

/-- The decimal digits at the front of a list and what follows them. -/
def spanDigits (cs : List Char) : List Char × List Char :=
  (cs.takeWhile Char.isDigit, cs.dropWhile Char.isDigit)

/-- A natural number written in decimal digits only, with an optional plus sign, below `limit`. -/
def readNatBelow? (limit : Nat) (cs : List Char) : Option Nat :=
  let digits := match cs with
    | '+' :: rest => rest
    | _ => cs
  if digits.isEmpty || !digits.all Char.isDigit then none
  else
    let n := digitsValue digits
    if n < limit then some n else none

/-- An optional sign, and whether it is a minus. -/
def readSign (cs : List Char) : Bool × List Char :=
  match cs with
  | '-' :: rest => (true, rest)
  | '+' :: rest => (false, rest)
  | _ => (false, cs)

/-- The exponent part of a number: nothing, or a letter `e` with a signed number up to the end. -/
def readExponent? (cs : List Char) : Option Int :=
  match cs with
  | [] => some 0
  | c :: rest =>
    if c = 'e' || c = 'E' then
      let (negative, digits) := readSign rest
      if digits.isEmpty || !digits.all Char.isDigit then none
      else
        let n := Int.ofNat (digitsValue digits)
        some (if negative then -n else n)
    else none

/-- The number nearest to `digits · 10 ^ exponent`. -/
def ofDecimal (digits : Nat) (exponent : Int) : Float :=
  Float.ofScientific digits (exponent < 0) exponent.natAbs

/-- The magnitude of a number written in digits, point and exponent. -/
def readMagnitude? (cs : List Char) : Option Float :=
  let (whole, rest) := spanDigits cs
  let (fraction, rest) := match rest with
    | '.' :: tail => spanDigits tail
    | _ => ([], rest)
  if whole.isEmpty && fraction.isEmpty then none
  else
    (readExponent? rest).map fun exponent =>
      ofDecimal (digitsValue (whole ++ fraction)) (exponent - fraction.length)

/-- The number that a text writes, if it writes one. -/
def readFloat? (cs : List Char) : Option Float :=
  let (negative, rest) := readSign cs
  let word := rest.map Char.toLower
  let magnitude? :=
    if word = "inf".toList || word = "infinity".toList then some (1.0 / 0.0)
    else if word = "nan".toList then some (0.0 / 0.0)
    else readMagnitude? rest
  magnitude?.map fun x => if negative then -x else x

end Platen.Decimal
