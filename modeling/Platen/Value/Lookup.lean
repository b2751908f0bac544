import Platen.Text.Blank
import Platen.Text.Case
import Platen.Text.Segment
import Platen.Value.Basic

/-!
# Member paths

A path names a member of a value by segments with points between them.  A segment reads a map entry
or a property of an object; on a list it is read from every item.  A segment that begins with `@`
invokes an operation instead.
-/

namespace Platen.Value

/-- The operations that every list, map or text has. -/
def builtin (operation : String) : Value → Option Value
  | list items =>
    match operation with
    | "len" => some (int items.length)
    | "is_empty" => some (bool items.isEmpty)
    | "first" => items.head?
    | "last" => items.getLast?
    | _ => none
  | map entries =>
    match operation with
    | "len" => some (int entries.length)
    | "is_empty" => some (bool entries.isEmpty)
    | "keys" => some (list (entries.map fun (name, _) => text name))
    | _ => none
  | text s =>
    match operation with
    | "len" => some (int s.length)
    | "is_empty" => some (bool s.isEmpty)
    | "upper" => some (text (Text.toUpper s))
    | "lower" => some (text (Text.toLower s))
    | "trim" => some (text (Text.trim s))
    | _ => none
  | _ => none

/-- Invokes an operation: an object answers its own, other values the built-in ones. -/
def invoke (operation : String) (v : Value) : Option Value :=
  match v with
  | object _ _ operations _ => operations.lookup operation
  | v => v.builtin operation

mutual
/-- Reads a field: a map entry, a property, or the field of every item of a list. -/
def field (name : String) : Value → Option Value
  | map entries => entries.lookup name
  | object _ properties _ _ => properties.lookup name
  | list items => (fields name items).map list
  | _ => none

/-- Reads a field of every value, if all of them have it. -/
def fields (name : String) : List Value → Option (List Value)
  | [] => some []
  | item :: items =>
    match field name item, fields name items with
    | some value, some values => some (value :: values)
    | _, _ => none
end

/-- The operation that a segment invokes, if it begins with `@`. -/
def operation? (segment : List Char) : Option (List Char) :=
  match segment with
  | '@' :: operation => some operation
  | _ => none

/-- Reads one segment of a path. -/
def member (segment : List Char) (v : Value) : Option Value :=
  match operation? segment with
  | some operation => v.invoke (String.ofList operation)
  | none => v.field (String.ofList segment)

/-- Reads the segments of a path in turn. -/
def descend : List (List Char) → Value → Option Value
  | [], v => some v
  | segment :: path, v => (v.member segment).bind (descend path)

/-- The member at a path. -/
def lookup (path : List Char) (v : Value) : Option Value :=
  v.descend (Text.segments '.' path)

/-- The names of the fields of a map or an object. -/
def memberNames : Value → List String
  | map entries => entries.map Prod.fst
  | object _ _ _ names => names
  | _ => []

end Platen.Value
