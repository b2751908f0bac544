import Platen.Script.Display
import Platen.Script.Error
import Platen.Script.Term

/-!
# Operators

Arithmetic is exact on integers of up to 128 bits and floating-point as soon as one operand is.
Texts and sequences can be added and repeated.  Division by `/` always yields a floating-point
number.
-/

namespace Platen.Script.Datum

open Decimal

/-- An integer result, if it is within range. -/
def checked (i : Int) : Except Error Datum :=
  if Bits.signed 128 i then .ok (.int i) else .error .invalidOperation

/-- A number of times or a width: a whole number that is not negative. -/
def toCount? (d : Datum) : Option Nat :=
  match d.toInt? with
  | some i => if Bits.unsigned 64 i then some i.toNat else Option.none
  | Option.none => Option.none

/-- Whether all items of a sequence are known beforehand. -/
def isSized : Datum → Bool
  | seq (.stream sized) _ => sized
  | _ => true

/-- The sum of two numbers; two texts or two sequences are put one after the other. -/
def add (a b : Datum) : Except Error Datum :=
  match a, b with
  | seq _ xs, seq _ ys => .ok (.seq (.stream (a.isSized && b.isSized)) (xs ++ ys))
  | a, b =>
    match coerce? true a b with
    | some (.ints i j) => checked (i + j)
    | some (.floats x y) => .ok (.float (x + y))
    | some (.texts s t) => .ok (ofText (s ++ t))
    | Option.none => .error .invalidOperation

/-- The difference of two numbers. -/
def sub (a b : Datum) : Except Error Datum :=
  match coerce? true a b with
  | some (.ints i j) => checked (i - j)
  | some (.floats x y) => .ok (.float (x - y))
  | _ => .error .invalidOperation

/-- A text a number of times. -/
def repeatText (s : String) (count : Datum) : Except Error Datum :=
  match count.toCount? with
  | some n => .ok (ofText (String.join (List.replicate n s)))
  | Option.none => .error .invalidOperation

/-- The items of a sequence a number of times. -/
def repeatItems (sequence : Datum) (items : List Datum) (count : Datum) : Except Error Datum :=
  match count.toCount? with
  | some n =>
    if sequence.isSized then .ok (ofStream (List.replicate n items).flatten)
    else .error .invalidOperation
  | Option.none => .error .invalidOperation

/-- The product of two numbers; a text or a sequence is repeated. -/
def mul (a b : Datum) : Except Error Datum :=
  match a, b with
  | text s _, b => repeatText s b
  | a, text t _ => repeatText t a
  | seq _ xs, b => repeatItems a xs b
  | a, seq _ ys => repeatItems b ys a
  | a, b =>
    match coerce? true a b with
    | some (.ints i j) => checked (i * j)
    | some (.floats x y) => .ok (.float (x * y))
    | _ => .error .invalidOperation

/-- The quotient of two numbers in floating point. -/
def div (a b : Datum) : Except Error Datum :=
  match a.toFloat? true, b.toFloat? true with
  | some x, some y => .ok (.float (x / y))
  | _, _ => .error .invalidOperation

/-- The quotient whose remainder is not negative. -/
def floorDiv (a b : Datum) : Except Error Datum :=
  match coerce? true a b with
  | some (.ints i j) => if j = 0 then .error .invalidOperation else checked (i / j)
  | some (.floats x y) => .ok (.float (euclideanQuotient x y))
  | _ => .error .invalidOperation

/-- The remainder: never negative for integers, with the sign of the dividend in floating point. -/
def rem (a b : Datum) : Except Error Datum :=
  match coerce? true a b with
  | some (.ints i j) => if j = 0 then .error .invalidOperation else .ok (.int (i % j))
  | some (.floats x y) => .ok (.float (remainder x y))
  | _ => .error .invalidOperation

/-- A power of integers with an exponent of at most 32 bits.  From 128 on only the powers of zero
and one are within range. -/
def intPow (i j : Int) : Except Error Datum :=
  if !Bits.unsigned 32 j then .error .invalidOperation
  else if i.natAbs ≤ 1 then checked (if j = 0 then 1 else if i < 0 && j % 2 = 0 then 1 else i)
  else if 128 ≤ j then .error .invalidOperation
  else checked (Int.pow i j.toNat)

/-- A power. -/
def pow (a b : Datum) : Except Error Datum :=
  match coerce? true a b with
  | some (.ints i j) => intPow i j
  | some (.floats x y) => .ok (.float (x.pow y))
  | _ => .error .invalidOperation

/-- A number with the opposite sign. -/
def negate : Datum → Except Error Datum
  | float x => .ok (.float (-x))
  | int i => if i = Bits.span 127 then .ok (.int (-i)) else checked (-i)
  | _ => .error .invalidOperation

/-- Whether `part` occurs in `cs`. -/
def containsText (part : List Char) : List Char → Bool
  | [] => part.isEmpty
  | c :: cs => part.isPrefixOf (c :: cs) || containsText part cs

/-- Whether a container holds a value: a text a part, a map a key, a sequence an item. -/
def contains (container value : Datum) : Except Error Bool :=
  match container with
  | undefined => .ok false
  | text s _ => .ok (containsText value.shown.toList s.toList)
  | seq _ items => .ok (items.any (· == value))
  | map entries => .ok (find? entries value).isSome
  | function _ => .ok false
  | _ => .error .invalidOperation

/-- Whether a value counts as true; an undefined one may not be asked. -/
def truth (d : Datum) : Except Error Bool :=
  match d with
  | undefined => .error .undefinedValue
  | d => .ok d.isTrue

/-! ## Slices -/

/-- A bound of a slice. -/
def toBound? (d : Datum) : Except Error (Option Int) :=
  match d with
  | none => .ok Option.none
  | d =>
    match d.toInt?.filter (Bits.signed 64) with
    | some i => .ok (some i)
    | Option.none => .error .invalidOperation

/-- An offset of 64 bits without a sign; negative ones wrap around. -/
def wrapOffset (i : Int) : Nat :=
  (i % Bits.span 64).toNat

/-- The first position and the number of positions between two bounds; negative bounds count from
the end. -/
def sliceRange (length : Nat) (start : Int) (stop : Option Int) : Nat × Nat :=
  let fromEnd (i : Int) := if i < 0 then wrapOffset (Int.ofNat length + i) else i.toNat
  let first := fromEnd start
  let last := match stop with
    | some i => fromEnd i
    | Option.none => length
  (first, last - first)

/-- Every `step`-th item from the first on; `skip` items are passed over before the next one. -/
def everyNth {α : Type} (step : Nat) : Nat → List α → List α
  | _, [] => []
  | 0, x :: xs => x :: everyNth step (step - 1) xs
  | skip + 1, _ :: xs => everyNth step skip xs

/-- The items of a list between two bounds. -/
def sliceList {α : Type} (length : Nat) (start : Int) (stop : Option Int) (step : Nat)
    (xs : List α) : List α :=
  let (first, count) := sliceRange length start stop
  everyNth step 0 ((xs.drop first).take count)

/-- The part of a text or sequence between two bounds, every `step`-th item of it. -/
def slice (subject start stop step : Datum) : Except Error Datum := do
  let start := (← start.toBound?).getD 0
  let stop ← stop.toBound?
  let step ← match step with
    | none => .ok 1
    | step =>
      match step.toCount? with
      | some n => .ok n
      | Option.none => .error .invalidOperation
  if step = 0 then .error .invalidOperation
  else
    match subject with
    | text s _ => return ofText (String.ofList (sliceList s.length start stop step s.toList))
    | undefined | none => return ofList []
    | seq _ items =>
      return .seq (.stream subject.isSized)
        (sliceList (subject.length?.getD 0) start stop step items)
    | _ => .error .invalidOperation

end Platen.Script.Datum

namespace Platen.Script

/-- The value of an operator on two operands. -/
def BinaryOp.apply (op : BinaryOp) (a b : Datum) : Except Error Datum :=
  match op with
  | .add => a.add b
  | .sub => a.sub b
  | .mul => a.mul b
  | .div => a.div b
  | .floorDiv => a.floorDiv b
  | .rem => a.rem b
  | .pow => a.pow b
  | .concat => .ok (Datum.ofText (a.shown ++ b.shown))
  | .equal => .ok (.bool (a == b))
  | .notEqual => .ok (.bool (a != b))
  | .less => .ok (.bool (Datum.compare a b == .lt))
  | .lessEqual => .ok (.bool (Datum.compare a b != .gt))
  | .greater => .ok (.bool (Datum.compare a b == .gt))
  | .greaterEqual => .ok (.bool (Datum.compare a b != .lt))
  | .member =>
    match b with
    | .undefined => .error .undefinedValue
    | b => (b.contains a).map .bool

end Platen.Script
