import Platen.Decimal.Shortest
import Platen.Value.Basic

/-!
# The text of a value

What a value looks like in a report when no formatter is asked for.  Missing data leaves no trace,
numbers are written in full, and collections show their contents in brackets or braces.
-/

namespace Platen.Value

/-- The texts of named values, between braces. -/
def braced (pairs : List (String × String)) : String :=
  "\x7b" ++ String.intercalate ", " (pairs.map fun (name, shown) => name ++ ": " ++ shown) ++ "\x7d"

mutual
/-- The text of a value. -/
def toText : Value → String
  | null => ""
  | bool b => if b then "true" else "false"
  | int i => toString i
  | float x => Decimal.floatText x
  | text s => s
  | date d => d.toText
  | list items => "[" ++ String.intercalate ", " (itemTexts items) ++ "]"
  | map entries => braced (entryTexts entries)
  | object _ properties _ names =>
    let texts := entryTexts properties
    braced (names.map fun name => (name, (texts.lookup name).getD ""))

/-- The texts of the items of a list. -/
def itemTexts : List Value → List String
  | [] => []
  | item :: items => toText item :: itemTexts items

/-- The texts of named values, with their names. -/
def entryTexts : List (String × Value) → List (String × String)
  | [] => []
  | (name, value) :: rest => (name, toText value) :: entryTexts rest
end

end Platen.Value
