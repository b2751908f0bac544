import Platen.Script.Check
import Platen.Script.Filter.Number
import Platen.Script.Filter.Sequence
import Platen.Script.Filter.Text

/-!
# Filters

A filter makes a new value from a value and its arguments.  Most filters stand alone; the ones that
select or map items call tests and other filters by name.
-/

namespace Platen.Script.Filter

/-- A filter that only needs the value. -/
def plain (make : Datum → Except Error Datum) (subject : Datum) (args : Arguments) :
    Except Error Datum := do
  args.atMost 0
  make subject

/-- A filter whose further arguments are all named. -/
def withNamed (make : Datum → Named → Except Error Datum) (subject : Datum) (args : Arguments) :
    Except Error Datum := do
  let (args, named) := args.splitNamed
  args.atMost 0
  make subject named

/-- A value, or another one if it is undefined. -/
def default (subject : Datum) (args : Arguments) : Except Error Datum := do
  let other ← args.optional 0 (·.toDatum)
  args.atMost 1
  return match subject with
    | .undefined => other.getD (Datum.ofText "")
    | d => d

/-- The number of characters, items or entries. -/
def length (d : Datum) : Except Error Datum :=
  match d.length? with
  | some n => .ok (.int n)
  | none => .error .invalidOperation

/-- A value as text; a text stays as it is. -/
def string (d : Datum) : Datum :=
  match d with
  | .text s safe => .text s safe
  | d => Datum.ofText d.shown

/-- The filter with a given name, apart from those on texts and those that call others by name. -/
def standing? (name : String) : Option (Datum → Arguments → Except Error Datum) :=
  match name with
  | "escape" | "e" => some (plain fun d => .ok (escape d))
  | "length" | "count" => some (plain length)
  | "dictsort" => some (withNamed dictSort)
  | "items" => some (plain items)
  | "reverse" => some (plain reverse)
  | "join" => some join
  | "default" | "d" => some default
  | "round" => some fun d args => do
    let places ← args.optional 0 (·.toInt 32)
    args.atMost 1
    round (places.getD 0) d
  | "abs" => some (plain abs)
  | "int" => some (plain int)
  | "float" => some (plain float)
  | "attr" => some fun d args => do
    let key ← args.required 0 (·.toDatum)
    args.atMost 1
    d.getItem key
  | "first" => some (plain first)
  | "last" => some (plain last)
  | "min" => some (plain fun d => d.itemsForList.map least)
  | "max" => some (plain fun d => d.itemsForList.map greatest)
  | "sort" => some (withNamed sort)
  | "list" => some (plain fun d => d.itemsForList.map Datum.ofList)
  | "string" => some (plain fun d => .ok (string d))
  | "bool" => some (plain fun d => .ok (.bool d.isTrue))
  | "batch" => some batch
  | "slice" => some slices
  | "sum" => some (plain sum)
  | "groupby" => some fun d args =>
    let (args, named) := args.splitNamed
    groupBy d args named
  | "unique" => some (withNamed unique)
  | "pprint" => some (plain fun d => .ok (Datum.ofText (d.pretty 0)))
  | _ => none

/-- The names of the filters that call others by name. -/
def callers : List String :=
  ["map", "select", "reject", "selectattr", "rejectattr"]

/-- Whether there is a filter of a given name. -/
def isFilter (name : String) : Bool :=
  callers.contains name || (onText? name).isSome || (onTextWith? name).isSome
    || (standing? name).isSome

/-! ## Calling tests and filters by name -/

/-- Whether a name is that of a filter or test. -/
def testName (known : String → Bool) (subject : Datum) (args : Arguments) :
    Except Error Bool := do
  let name ← (Argument.value subject).onlyText
  args.atMost 0
  return known name

/-- The answer of the test with a given name. -/
def runTest (name : String) (subject : Datum) (args : Arguments) : Except Error Bool :=
  match name with
  | "filter" => testName isFilter subject args
  | "test" => testName Check.isTest subject args
  | name =>
    match Check.find? name with
    | some test => test subject args
    | none => .error .unknownTest

/-- Items for which a test, or else their truth, is as wanted.  With a path the value at the path is
tested in place of the item. -/
def selectItems (wanted : Bool) (path : Option String) (test : Option String) (args : Arguments) :
    List Datum → Except Error (List Datum)
  | [] => .ok []
  | item :: rest => do
    let tested ← match path with
      | some path => item.getPath path
      | none => .ok item
    let answer ← match test with
      | some name => runTest name tested args
      | none => .ok tested.isTrue
    let others ← selectItems wanted path test args rest
    return if answer == wanted then item :: others else others

/-- The items of a value for which a test is as wanted.  The test is named by the argument at
`place` and gets the arguments after it. -/
def select (wanted : Bool) (path : Option String) (place : Nat) (subject : Datum)
    (args : Arguments) : Except Error Datum := do
  let test ← args.optional place (·.toText)
  match test with
  | some name => if Check.isTest name then pure () else .error .unknownTest
  | none => pure ()
  let items ← subject.itemsStrict
  return Datum.ofList (← selectItems wanted path test (args.drop (place + 1)) items)

/-- The value at a path or key of an item, or another one where there is none. -/
def mapField (key other item : Datum) : Except Error Datum :=
  let found := match key with
    | .text path _ => item.getPath path
    | key => item.getItem key
  match found with
  | .ok .undefined => .ok other
  | .ok d => .ok d
  | .error e =>
    match other with
    | .undefined => .error e
    | other => .ok other

/-- A list of results, or the first error. -/
def collect (make : Datum → Except Error Datum) : List Datum → Except Error (List Datum)
  | [] => .ok []
  | item :: rest => do
    let made ← make item
    return made :: (← collect make rest)

/-- The value of the filter with a given name.  A filter that maps another filter over items
passes on fewer arguments than it has, so their number is fuel enough. -/
def apply : Nat → String → Datum → Arguments → Except Error Datum
  | 0, _, _, _ => .error .unknownFilter
  | fuel + 1, name, subject, args =>
    match name with
    | "select" => select true none 0 subject args
    | "reject" => select false none 0 subject args
    | "selectattr" => do
      let path ← args.required 0 (·.toText)
      select true (some path) 1 subject args
    | "rejectattr" => do
      let path ← args.required 0 (·.toText)
      select false (some path) 1 subject args
    | "map" => do
      let (args, named) := args.splitNamed
      match Named.get? named "attribute" with
      | some key =>
        match key with
        | .undefined | .none => mapFilter fuel subject args
        | key =>
          args.atMost 0
          let other := (Named.get? named "default").getD .undefined
          let items ← subject.itemsStrict
          return Datum.ofList (← collect (mapField key other) items)
      | none => mapFilter fuel subject args
    | name =>
      match onText? name with
      | some make => do
        args.atMost 0
        return make subject.shown
      | none =>
        match onTextWith? name with
        | some make => make subject.shown args
        | none =>
          match standing? name with
          | some make => make subject args
          | none => .error .unknownFilter
where
  /-- The items of a value under the filter that the first argument names. -/
  mapFilter (fuel : Nat) (subject : Datum) (args : Arguments) : Except Error Datum := do
    match args with
    | [] => .error .invalidOperation
    | first :: rest =>
      let name ← first.onlyText
      if isFilter name then
        let items ← subject.itemsStrict
        return Datum.ofList (← collect (fun item => apply fuel name item rest) items)
      else .error .unknownFilter

/-- The value of the filter with a given name. -/
def run (name : String) (subject : Datum) (args : Arguments) : Except Error Datum :=
  apply (args.length + 1) name subject args

end Platen.Script.Filter
