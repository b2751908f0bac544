import Platen.Json.Reader
import Platen.Value.Json
import Platen.Value.Lookup

/-!
# Data sources

A source answers member paths.  Several sources are ranked: the first that has a member decides.  A
blank source has no members but answers every path with null, so that a template can be filled
without data.
-/

namespace Platen

/-- Where members are looked up. -/
inductive Source where
  /-- Named values; the first segment of a path is always one of the names. -/
  | keyed (entries : Entries Value)
  /-- A single value that paths start from. -/
  | root (value : Value)
  /-- No data. -/
  | blank
  deriving Inhabited

namespace Source

/-- The member at a path, if the source has it. -/
def find? (source : Source) (path : String) : Option Value :=
  match source with
  | keyed entries =>
    match Text.splitFirst '.' path.toList with
    | (head, none) => entries.get? (String.ofList head)
    | (head, some rest) => (entries.get? (String.ofList head)).bind (Value.lookup rest)
  | root value => value.lookup path.toList
  | blank => none

/-- Whether a source has a member at a path. -/
def has (source : Source) (path : String) : Bool :=
  (source.find? path).isSome

/-- What a source answers for a path: its member, or null from a blank source. -/
def get? (source : Source) (path : String) : Option Value :=
  match source with
  | blank => some .null
  | source => source.find? path

/-- The names of the members at the top of a source. -/
def members : Source → List String
  | keyed entries => entries.names
  | root value => value.memberNames
  | blank => []

/-- The data behind a source. -/
def value : Source → Value
  | keyed entries => .map entries
  | root value => value
  | blank => .null

/-- The source that a text holds as a JSON document. -/
def ofJsonText (s : String) : Except Json.ReadError Source :=
  (Json.read s).map fun document => root (Value.ofJson document)

/-- The source of a value that has members of its own: a map, an object, a text that holds a JSON
object, or missing data. -/
def ofValue? : Value → Option Source
  | .map entries => some (keyed entries)
  | .object handle properties operations names =>
    some (root (.object handle properties operations names))
  | .text s =>
    match Json.read s with
    | .ok (.object members) => some (root (Value.ofJson (.object members)))
    | _ => none
  | .null => some blank
  | _ => none

/-- The source of any value; a value without members has none to offer. -/
def ofValue (v : Value) : Source :=
  (ofValue? v).getD blank

/-- The name under which a row without members of its own is reached. -/
def rowMember : String := "row"

/-- The source of a row of a table or list. -/
def ofRow (row : Value) : Source :=
  (ofValue? row).getD (keyed [(rowMember, row)])

/-- The first source in rank order that has a member. -/
def firstHaving? (sources : List Source) (path : String) : Option Source :=
  sources.find? (·.has path)

/-- The position of the first source that has a member. -/
def firstHavingIndex? (sources : List Source) (path : String) : Option Nat :=
  sources.findIdx? (·.has path)

/-- The member that ranked sources answer for a path.  If none has it, the first source that answers
all the same decides. -/
def resolve? (sources : List Source) (path : String) : Option Value :=
  match firstHaving? sources path with
  | some source => source.get? path
  | none => sources.findSome? (·.get? path)

/-- The members of all sources by name; the higher ranked source wins. -/
def bindings (sources : List Source) : Entries Value :=
  sources.reverse.foldl
    (fun bound source =>
      source.members.foldl
        (fun bound name =>
          match source.get? name with
          | some value => bound.insert name value
          | none => bound)
        bound)
    []

/-- What is said of a path that a single source does not answer. -/
def missingMessage (path : String) : String :=
  "Member not found: " ++ path

end Source

end Platen
