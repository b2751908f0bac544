import Platen.Bits
import Platen.Decimal.Binary64

/-!
# The values of scripts

Scripts compute with a wider range of values than reports: a value may be undefined, integers have
up to 128 bits, sequences may be lists or streams, and maps may have keys of any kind.  Numbers
and truth values are brought to a common form before they are compared or combined.
-/

namespace Platen.Script

/-- The sorts of sequences. -/
inductive Shape where
  /-- A list. -/
  | list
  /-- A group of items: the value that they share, and the items. -/
  | group
  /-- A stream, whose length may be known beforehand or not. -/
  | stream (sized : Bool)
  deriving DecidableEq, Repr

/-- A value in a script. -/
inductive Datum where
  | undefined
  | none
  | bool (b : Bool)
  | int (i : Int)
  | float (x : Float)
  /-- A text; a safe one is not escaped. -/
  | text (s : String) (safe : Bool)
  | seq (shape : Shape) (items : List Datum)
  /-- A map, its entries in the order of their keys. -/
  | map (entries : List (Datum × Datum))
  | function (name : String)
  deriving Inhabited

namespace Datum

/-- A plain text. -/
def ofText (s : String) : Datum := .text s false

/-- A list. -/
def ofList (items : List Datum) : Datum := .seq .list items

/-- A stream of known length. -/
def ofStream (items : List Datum) : Datum := .seq (.stream true) items

/-! ## Kinds -/

/-- The kinds of values, in the order in which values of different kinds are sorted. -/
inductive Kind where
  | undefined
  | none
  | bool
  | number
  | text
  | seq
  | map
  | stream
  | function
  deriving DecidableEq, Repr

/-- The place of a kind in the order of kinds. -/
def Kind.rank : Kind → Nat
  | .undefined => 0
  | .none => 1
  | .bool => 2
  | .number => 3
  | .text => 4
  | .seq => 5
  | .map => 6
  | .stream => 7
  | .function => 8

/-- The kind of a value. -/
def kind : Datum → Kind
  | undefined => .undefined
  | none => .none
  | bool _ => .bool
  | int _ | float _ => .number
  | text .. => .text
  | seq (.stream _) _ => .stream
  | seq .. => .seq
  | map _ => .map
  | function _ => .function

/-! ## Numbers -/

/-- The integer nearest to `i` between two bounds. -/
def clampInt (low high i : Int) : Int :=
  max low (min high i)

/-- A floating-point number truncated and clamped to an integer of `bits` bits; a NaN becomes
zero. -/
def saturate (bits : Nat) (x : Float) : Int :=
  let high : Int := Bits.span (bits - 1)
  match Decimal.Binary64.ofFloat x with
  | .nan => 0
  | .infinite negative => if negative then -high else high - 1
  | .finite negative significand exponent =>
    let whole := Int.ofNat (Decimal.wholePart significand exponent)
    clampInt (-high) (high - 1) (if negative then -whole else whole)

/-- The integer that a truth value, an integer or a whole number stands for. -/
def toInt? : Datum → Option Int
  | bool b => some (if b then 1 else 0)
  | int i => some i
  | float x =>
    let i := saturate 64 x
    if Decimal.ofInt i == x then some i else Option.none
  | _ => Option.none

/-- The greatest integer of the narrowest width that holds `i`. -/
def greatestBeside (i : Int) : Int :=
  if i ≤ Bits.greatest 63 then Bits.greatest 63
  else if i ≤ Bits.greatest 64 then Bits.greatest 64
  else Bits.greatest 127

/-- The floating-point number for a truth value or a number.  Unless `lossy`, an integer must come
back when it is converted back within its own width. -/
def toFloat? (lossy : Bool) : Datum → Option Float
  | bool b => some (if b then 1.0 else 0.0)
  | int i =>
    let x := Decimal.ofInt i
    if lossy || (Decimal.toInt? x).map (min (greatestBeside i)) == some i then some x
    else Option.none
  | float x => some x
  | _ => Option.none

/-- Two values in a common form. -/
inductive Pair where
  | floats (x y : Float)
  | ints (i j : Int)
  | texts (s t : String)

/-- The common form of two values, if they have one. -/
def coerce? (lossy : Bool) (a b : Datum) : Option Pair :=
  match a, b with
  | text s _, text t _ => some (.texts s t)
  | float x, b => (b.toFloat? lossy).map (.floats x ·)
  | a, float y => (a.toFloat? lossy).map (.floats · y)
  | a, b =>
    match a.toInt?, b.toInt? with
    | some i, some j =>
      if Bits.signed 128 i && Bits.signed 128 j then some (.ints i j) else Option.none
    | _, _ => Option.none

/-! ## Order and equality -/

/-- The place of a floating-point number among all of them: negative before positive zero, and
NaNs at the ends. -/
def floatRank (x : Float) : Int :=
  let bits := Int.ofNat x.toBits.toNat
  if bits ≤ Bits.greatest 63 then bits else Bits.greatest 63 - bits

/-- The order of two values in their common form. -/
def Pair.compare : Pair → Ordering
  | .floats x y => Ord.compare (floatRank x) (floatRank y)
  | .ints i j => Ord.compare i j
  | .texts s t => Ord.compare s t

/-- Whether two values in their common form are equal. -/
def Pair.beq : Pair → Bool
  | .floats x y => x == y
  | .ints i j => i == j
  | .texts s t => s == t

mutual
/-- The order of all values: by their common form if they have one, else by kind; sequences and maps
item by item. -/
def compare (a b : Datum) : Ordering :=
  let byContent :=
    match coerce? false a b with
    | some pair => pair.compare
    | Option.none =>
      match Ord.compare a.kind.rank b.kind.rank with
      | .eq =>
        match a, b with
        | seq _ xs, seq _ ys => compareItems xs ys
        | map xs, map ys => compareEntries xs ys
        | _, _ => .eq
      | order => order
  byContent.then (Ord.compare a.kind.rank b.kind.rank)

/-- The order of lists of values. -/
def compareItems : List Datum → List Datum → Ordering
  | [], [] => .eq
  | [], _ :: _ => .lt
  | _ :: _, [] => .gt
  | x :: xs, y :: ys => (compare x y).then (compareItems xs ys)

/-- The order of lists of map entries. -/
def compareEntries : List (Datum × Datum) → List (Datum × Datum) → Ordering
  | [], [] => .eq
  | [], _ :: _ => .lt
  | _ :: _, [] => .gt
  | (j, x) :: xs, (k, y) :: ys =>
    ((compare j k).then (compare x y)).then (compareEntries xs ys)
end

/-- The value at a key of map entries. -/
def find? (entries : List (Datum × Datum)) (key : Datum) : Option Datum :=
  (entries.find? fun (k, _) => compare k key == .eq).map Prod.snd

/-- Map entries with one more; an old value at the key is replaced, the old key kept. -/
def insert (key value : Datum) : List (Datum × Datum) → List (Datum × Datum)
  | [] => [(key, value)]
  | (k, old) :: rest =>
    match compare key k with
    | .lt => (key, value) :: (k, old) :: rest
    | .eq => (k, value) :: rest
    | .gt => (k, old) :: insert key value rest

/-- The map that a list of pairs describes. -/
def ofPairs (pairs : List (Datum × Datum)) : Datum :=
  .map (pairs.foldl (fun entries (key, value) => insert key value entries) [])

mutual
/-- Equality of values.  Maps are equal if they have equal values at the same keys. -/
def beq (a b : Datum) : Bool :=
  match a, b with
  | undefined, undefined => true
  | none, none => true
  | seq _ xs, seq _ ys => beqItems xs ys
  | map xs, map ys => xs.length == ys.length && beqEntries xs ys
  | function f, function g => f == g
  | a, b =>
    match coerce? false a b with
    | some pair => pair.beq
    | Option.none => false

/-- Equality of lists of values. -/
def beqItems : List Datum → List Datum → Bool
  | [], [] => true
  | x :: xs, y :: ys => beq x y && beqItems xs ys
  | _, _ => false

/-- Whether all entries have an equal value at their key among the others. -/
def beqEntries (xs ys : List (Datum × Datum)) : Bool :=
  match xs with
  | [] => true
  | (key, x) :: xs =>
    (match find? ys key with
      | some y => beq x y
      | Option.none => false) && beqEntries xs ys
end

instance : BEq Datum := ⟨beq⟩

/-! ## Parts -/

/-- Whether a value counts as true. -/
def isTrue : Datum → Bool
  | undefined | none => false
  | bool b => b
  | int i => i != 0
  | float x => x != 0.0
  | text s _ => !s.isEmpty
  | seq (.stream false) _ => true
  | seq _ items => !items.isEmpty
  | map entries => !entries.isEmpty
  | function _ => true

/-- The number of characters, items or entries, if it is known. -/
def length? : Datum → Option Nat
  | text s _ => some s.length
  | seq (.stream false) _ => Option.none
  | seq _ items => some items.length
  | map entries => some entries.length
  | _ => Option.none

/-- A character as a text. -/
def ofChar (c : Char) : Datum := ofText (String.singleton c)

/-- The items that a value yields one after the other: the characters of a text, the items of a
sequence, the keys of a map. -/
def items? : Datum → Option (List Datum)
  | undefined | none => some []
  | text s _ => some (s.toList.map ofChar)
  | seq _ items => some items
  | map entries => some (entries.map Prod.fst)
  | _ => Option.none

/-- The position that an index means in a sequence; negative ones count from the end. -/
def position? (length : Option Nat) (index : Datum) : Option Nat :=
  match index.toInt?.filter (Bits.signed 64) with
  | some i =>
    if 0 ≤ i then some i.toNat
    else length.bind fun n => if i.natAbs ≤ n then some (n - i.natAbs) else Option.none
  | Option.none => Option.none

/-- The part of a group with a given name. -/
def groupPart? (items : List Datum) (name : String) : Option Datum :=
  match name with
  | "grouper" => items[0]?
  | "list" => items[1]?
  | _ => Option.none

/-- The item of a value at an index or key. -/
def item? (subject key : Datum) : Option Datum :=
  match subject with
  | text s _ => (position? (some s.length) key).bind fun n => s.toList[n]?.map ofChar
  | seq shape items =>
    match position? subject.length? key with
    | some n => items[n]?
    | Option.none =>
      match shape, key with
      | .group, text name _ => groupPart? items name
      | _, _ => Option.none
  | map entries => find? entries key
  | _ => Option.none

/-- The field of a map or group with a given name. -/
def field? (subject : Datum) (name : String) : Option Datum :=
  match subject with
  | map entries => find? entries (ofText name)
  | seq .group items => groupPart? items name
  | _ => Option.none

end Datum

end Platen.Script
