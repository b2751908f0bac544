import Platen.Decimal.Shortest
import Platen.Script.Datum
import Platen.Text.Quoted

/-!
# The text of script values

Shown by itself a text stands as it is and a whole floating-point number keeps a zero after its
point.  Inside a collection texts are quoted, and very large or small numbers have an exponent.
-/

namespace Platen.Script.Datum

open Decimal

/-! ## Numbers -/

/-- A floating-point number on its own. -/
def floatShown (x : Float) : String :=
  let digits := floatText x
  if isFinite x && !digits.toList.contains '.' then digits ++ ".0" else digits

/-- A scaled number with one digit before the point and an exponent. -/
def scientific (s : Scaled) : List Char :=
  let digits := natDigits s.digits
  let exponent := s.exponent + Int.ofNat (digits.length - 1)
  (match digits with
    | [] => []
    | [d] => [d]
    | d :: rest => d :: '.' :: rest) ++ 'e' :: (toString exponent).toList

/-- A floating-point number that is written without exponent if it is zero or its first digit has a
power of ten from `least` to 15. -/
def floatWithin (least : Int) (x : Float) : String :=
  match Binary64.ofFloat x with
  | .finite negative significand exponent =>
    if significand = 0 then floatShown x
    else
      let s := shortest significand exponent
      let order := s.exponent + Int.ofNat ((natDigits s.digits).length - 1)
      if least ≤ order && order ≤ 15 then floatShown x
      else String.ofList (if negative then '-' :: scientific s else scientific s)
  | _ => floatText x

/-- A floating-point number inside a collection. -/
def floatDebug (x : Float) : String := floatWithin (-4) x

/-! ## Inside collections -/

mutual
/-- A value as it is shown inside a collection. -/
def debug : Datum → String
  | undefined => "undefined"
  | none => "none"
  | bool b => if b then "true" else "false"
  | int i => toString i
  | float x => floatDebug x
  | text s _ => Text.quoted s
  | seq .list items => "[" ++ String.intercalate ", " (debugItems items) ++ "]"
  | seq .group items =>
    "GroupTuple \x7b "
      ++ String.intercalate ", "
        (List.zipWith (· ++ ": " ++ ·) ["grouper", "list"] (debugItems items))
      ++ " \x7d"
  | seq (.stream _) _ => "<iterator>"
  | map entries => "\x7b" ++ String.intercalate ", " (debugEntries entries) ++ "\x7d"
  | function name => name

/-- The items of a collection as they are shown. -/
def debugItems : List Datum → List String
  | [] => []
  | item :: rest => debug item :: debugItems rest

/-- The entries of a map as they are shown. -/
def debugEntries : List (Datum × Datum) → List String
  | [] => []
  | (key, value) :: rest => (debug key ++ ": " ++ debug value) :: debugEntries rest
end

/-- Lines of parts between two brackets, each part indented and followed by a comma. -/
def prettyBlock (opening closing : String) (indent : Nat) (parts : List String) : String :=
  if parts.isEmpty then opening ++ closing
  else
    let margin := String.ofList (List.replicate (4 * (indent + 1)) ' ')
    opening ++ "\n" ++ String.join (parts.map fun part => margin ++ part ++ ",\n")
      ++ String.ofList (List.replicate (4 * indent) ' ') ++ closing

mutual
/-- A value as it is shown over several lines. -/
def pretty (indent : Nat) : Datum → String
  | seq .list items => prettyBlock "[" "]" indent (prettyItems (indent + 1) items)
  | map entries => prettyBlock "\x7b" "\x7d" indent (prettyEntries (indent + 1) entries)
  | seq .group items =>
    prettyBlock "GroupTuple \x7b" "\x7d" indent
      (List.zipWith (· ++ ": " ++ ·) ["grouper", "list"] (prettyItems (indent + 1) items))
  | d => d.debug

/-- The items of a collection as they are shown over several lines. -/
def prettyItems (indent : Nat) : List Datum → List String
  | [] => []
  | item :: rest => pretty indent item :: prettyItems indent rest

/-- The entries of a map as they are shown over several lines. -/
def prettyEntries (indent : Nat) : List (Datum × Datum) → List String
  | [] => []
  | (key, value) :: rest =>
    (pretty indent key ++ ": " ++ pretty indent value) :: prettyEntries indent rest
end

/-! ## On its own -/

/-- A value as it is shown on its own. -/
def shown : Datum → String
  | undefined => ""
  | float x => floatShown x
  | text s _ => s
  | seq (.stream true) items => (ofList items).debug
  | seq .group items => (ofList items).debug
  | d => d.debug

end Platen.Script.Datum
