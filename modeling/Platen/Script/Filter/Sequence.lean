import Platen.Script.Filter.Text

/-!
# Filters on sequences and maps

Filters that pick, order, group and combine the items of a value.
-/

namespace Platen.Script.Filter

open Datum (ofList ofText ofStream)

/-- A key and its value as a list. -/
def pairList (entry : Datum × Datum) : Datum :=
  ofList [entry.1, entry.2]

/-- The entries of a map as pairs. -/
def items : Datum → Except Error Datum
  | .map entries => .ok (ofList (entries.map pairList))
  | _ => .error .invalidOperation

/-- The entries of a map as pairs, sorted by key or by value. -/
def dictSort (subject : Datum) (named : Named) : Except Error Datum := do
  match subject with
  | .map entries =>
    let byValue ← match ← named.optional "by" (·.onlyText) with
      | none | some "key" => .ok false
      | some "value" => .ok true
      | some _ => .error .invalidOperation
    let caseSensitive := (← named.optional "case_sensitive" (·.toBool)).getD false
    let sorted := Datum.sortBy
      (fun a b =>
        if byValue then Datum.compareBy caseSensitive a.2 b.2
        else Datum.compareBy caseSensitive a.1 b.1)
      entries
    let reversed := (← named.optional "reverse" (·.toBool)).getD false
    named.only ["by", "case_sensitive", "reverse"]
    return ofList ((if reversed then sorted.reverse else sorted).map pairList)
  | _ => .error .invalidOperation

/-- A value with its characters, items or keys in the opposite order. -/
def reverse : Datum → Except Error Datum
  | .text s _ => .ok (ofText (String.ofList s.toList.reverse))
  | .seq _ xs => .ok (ofStream xs.reverse)
  | .map entries => .ok (ofStream (entries.reverse.map Prod.fst))
  | .undefined => .ok .undefined
  | .none => .ok .none
  | _ => .error .invalidOperation

/-- The first character, item or key, undefined if there is none. -/
def first : Datum → Except Error Datum
  | .text s _ => .ok ((s.toList.head?.map Datum.ofChar).getD .undefined)
  | .seq _ xs => .ok (xs.head?.getD .undefined)
  | .map entries => .ok ((entries.head?.map Prod.fst).getD .undefined)
  | _ => .error .invalidOperation

/-- The last character or item, undefined if there is none. -/
def last : Datum → Except Error Datum
  | .text s _ => .ok ((s.toList.getLast?.map Datum.ofChar).getD .undefined)
  | .seq _ xs => .ok (xs.getLast?.getD .undefined)
  | _ => .error .invalidOperation

/-- The first of the least items, undefined if there is none. -/
def least (xs : List Datum) : Datum :=
  match xs with
  | [] => .undefined
  | x :: rest => rest.foldl (fun best x => if Datum.compare x best == .lt then x else best) x

/-- The last of the greatest items, undefined if there is none. -/
def greatest (xs : List Datum) : Datum :=
  match xs with
  | [] => .undefined
  | x :: rest => rest.foldl (fun best x => if Datum.compare x best == .lt then best else x) x

/-- The order of two items by the value at a path in them; where the path cannot be followed they
count as equal. -/
def compareAt (path : String) (caseSensitive : Bool) (a b : Datum) : Ordering :=
  match a.getPath path, b.getPath path with
  | .ok x, .ok y => Datum.compareBy caseSensitive x y
  | _, _ => .eq

/-- The items of a value in order. -/
def sort (subject : Datum) (named : Named) : Except Error Datum := do
  let xs ← subject.itemsForList
  let caseSensitive := (← named.optional "case_sensitive" (·.toBool)).getD false
  let path ← named.optional "attribute" (·.onlyText)
  let sorted := match path with
    | some path => Datum.sortBy (compareAt path caseSensitive) xs
    | none => Datum.sortBy (Datum.compareBy caseSensitive) xs
  let reversed := (← named.optional "reverse" (·.toBool)).getD false
  named.only ["case_sensitive", "attribute", "reverse"]
  return ofList (if reversed then sorted.reverse else sorted)

/-- Rows of `count` items; the last row is filled up if there is something to fill it with. -/
def rows (count : Nat) (filler : Option Datum) : Nat → List Datum → List Datum
  | 0, _ => []
  | fuel + 1, xs =>
    if xs.isEmpty then []
    else
      let row := xs.take count
      let row := match filler with
        | some d => row ++ List.replicate (count - row.length) d
        | none => row
      ofList row :: rows count filler fuel (xs.drop count)

/-- The items of a value in rows. -/
def batch (subject : Datum) (args : Arguments) : Except Error Datum := do
  let count ← args.required 0 (·.toCount)
  let filler ← args.optional 1 (·.toDatum)
  args.atMost 2
  if count = 0 then .error .invalidOperation
  else
    let xs ← subject.itemsStrict
    return ofList (rows count filler (xs.length + 1) xs)

/-- Columns of items: the first `longer` of them have one item more than `size`.  The shorter ones
are filled up if there is something to fill them with. -/
def columns (size : Nat) (filler : Option Datum) : Nat → Nat → List Datum → List Datum
  | 0, _, _ => []
  | count + 1, 0, xs =>
    ofList (xs.take size ++ filler.toList) :: columns size filler count 0 (xs.drop size)
  | count + 1, longer + 1, xs =>
    ofList (xs.take (size + 1)) :: columns size filler count longer (xs.drop (size + 1))

/-- The items of a value in columns. -/
def slices (subject : Datum) (args : Arguments) : Except Error Datum := do
  let count ← args.required 0 (·.toCount)
  let filler ← args.optional 1 (·.toDatum)
  args.atMost 2
  if count = 0 then .error .invalidOperation
  else
    let xs ← subject.itemsStrict
    return ofList (columns (xs.length / count) filler count (xs.length % count) xs)

/-- The sum of numbers; undefined items do not count. -/
def sum (subject : Datum) : Except Error Datum := do
  (← subject.itemsStrict).foldlM
    (fun total d =>
      match d.kind with
      | .undefined => .ok total
      | .number => total.add d
      | _ => .error .invalidOperation)
    (.int 0)

/-- Neighbouring items with equal keys put together; `members` holds the current group, reversed,
and its last key. -/
def groupFrom (caseSensitive : Bool) (members : Option (Datum × List Datum)) :
    List (Datum × Datum) → List Datum
  | [] => (members.map close).toList
  | (key, item) :: rest =>
    match members with
    | none => groupFrom caseSensitive (some (key, [item])) rest
    | some (current, xs) =>
      if Datum.compareBy caseSensitive current key == .eq then
        groupFrom caseSensitive (some (key, item :: xs)) rest
      else close (current, xs) :: groupFrom caseSensitive (some (key, [item])) rest
where
  /-- A finished group. -/
  close (members : Datum × List Datum) : Datum :=
    .seq .group [members.1, ofStream members.2.reverse]

/-- The items of a value in groups with equal values at a path. -/
def groupBy (subject : Datum) (args : Arguments) (named : Named) : Except Error Datum := do
  let positional ← args.optional 0 (·.onlyText)
  args.atMost 1
  let other := (← named.optional "default" (·.toDatum)).getD .undefined
  let caseSensitive := (← named.optional "case_sensitive" (·.toBool)).getD false
  let path ← match positional with
    | some path => .ok path
    | none =>
      match named.get? "attribute" with
      | some d => (Argument.value d).onlyText
      | none => .error .missingArgument
  let xs ← match subject.items? with
    | some xs => .ok xs
    | none => .error .invalidOperation
  let keyed := xs.map fun x => (x.getPathOr path other, x)
  let sorted := Datum.sortBy (fun a b => Datum.compareBy caseSensitive a.1 b.1) keyed
  named.only
    (["default", "case_sensitive"] ++ if positional.isSome then [] else ["attribute"])
  return ofList (groupFrom caseSensitive none sorted)

/-- Items whose key did not occur before. -/
def distinct (seen : List Datum) : List (Datum × Datum) → List Datum
  | [] => []
  | (key, item) :: rest =>
    if seen.any (Datum.compare · key == .eq) then distinct seen rest
    else item :: distinct (key :: seen) rest

/-- The items of a value without those that occurred before. -/
def unique (subject : Datum) (named : Named) : Except Error Datum := do
  let path ← named.optional "attribute" (·.onlyText)
  let caseSensitive := (← named.optional "case_sensitive" (·.toBool)).getD false
  named.only ["attribute", "case_sensitive"]
  let xs ← subject.itemsStrict
  let key (x : Datum) : Datum :=
    match (path.map (x.getPathOr · .undefined)).getD x with
    | .text s safe => if caseSensitive then .text s safe else ofText (Text.toLower s)
    | d => d
  return ofList (distinct [] (xs.map fun x => (key x, x)))

/-- The text of the items of a value with a joint between them. -/
def join (subject : Datum) (args : Arguments) : Except Error Datum := do
  let joint := (← args.optional 0 (·.toText)).getD ""
  args.atMost 1
  match subject.items? with
  | some xs => return ofText (joinTexts joint (xs.map Datum.shown))
  | none => .error .invalidOperation

end Platen.Script.Filter
