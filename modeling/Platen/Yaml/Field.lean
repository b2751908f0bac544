import Platen.Bits
import Platen.Yaml.Node

/-!
# Typed fields

What a node means depends on what is asked for: the same scalar can be a text, a number, a truth
value or one of several words.  A collection that is left empty has no items and no entries.
-/

namespace Platen.Yaml

/-- The tag of a kind of scalar that every document knows. -/
def commonTag (name : String) : String :=
  "tag:yaml.org,2002:" ++ name

/-! ## Texts of scalars -/

/-- Whether a text stands for nothing. -/
def isNullText (s : String) : Bool :=
  ["null", "Null", "NULL", "~"].contains s

/-- The truth value that a text stands for. -/
def truthOf? (s : String) : Option Bool :=
  match s with
  | "true" | "True" | "TRUE" => some true
  | "false" | "False" | "FALSE" => some false
  | _ => none

/-- One more than the greatest natural number of a field. -/
def naturalLimit : Nat := Bits.span 64

/-- The value of digits in a radix, if there are any and nothing else, and if it is within range. -/
def digitsValue? (radix : Nat) (cs : List Char) : Option Nat := do
  let digits ← cs.mapM hexDigit?
  let n := digits.foldl (fun n d => radix * n + d) 0
  if digits.isEmpty || digits.any (radix ≤ ·) || naturalLimit ≤ n then none else some n

/-- The natural number that a text without sign stands for: in hexadecimal, octal or binary digits
after a mark, or in decimal digits that do not begin with a superfluous zero. -/
def unsigned? (cs : List Char) : Option Nat :=
  match cs with
  | '0' :: 'x' :: digits => digitsValue? 16 digits
  | '0' :: 'o' :: digits => digitsValue? 8 digits
  | '0' :: 'b' :: digits => digitsValue? 2 digits
  | '0' :: _ :: _ => none
  | digits => digitsValue? 10 digits

/-- The natural number that a text stands for; a plus sign may stand before it. -/
def naturalOf? (s : String) : Option Nat :=
  match s.toList with
  | '+' :: cs => unsigned? cs
  | cs => unsigned? cs

namespace Node

/-! ## Scalars -/

/-- The text of a scalar. -/
def text? : Node → Option String
  | .scalar _ text _ => some text
  | _ => none

/-- The only character of a scalar. -/
def char? (node : Node) : Option Char := do
  match (← node.text?).toList with
  | [c] => some c
  | _ => none

/-- The text of a scalar that can stand for something else than a text: a plain one, or a literal
block with the tag that asks for it. -/
def typedText? (tag : String) : Node → Option String
  | .scalar .plain text _ => some text
  | .scalar .literal text (some t) => if t == commonTag tag then some text else none
  | _ => none

/-- The natural number of a scalar. -/
def natural? (node : Node) : Option Nat := do
  naturalOf? (← node.typedText? "int")

/-- The truth value of a scalar. -/
def truth? (node : Node) : Option Bool := do
  truthOf? (← node.typedText? "bool")

/-- Reads a field that may be left empty or said to be null. -/
def optional? {α : Type} (read : Node → Option α) (node : Node) : Option (Option α) :=
  match node with
  | .scalar .plain text none =>
    if text.isEmpty || isNullText text then some none else (read node).map some
  | .scalar .plain text (some tag) =>
    if tag == commonTag "null" then if isNullText text then some none else none
    else (read node).map some
  | node => (read node).map some

/-- Whether nothing is written, or that there is nothing. -/
def isVoid : Node → Bool
  | .scalar .plain text _ => text.isEmpty || isNullText text
  | _ => false

/-- One of several words, written as a text or as a local tag without content. -/
def choice? {α : Type} (words : List (String × α)) (node : Node) : Option α :=
  match node with
  | .scalar _ text tag =>
    match (tag.getD "").toList with
    | '!' :: name =>
      if node.isVoid then words.lookup (String.ofList name) else none
    | _ => words.lookup text
  | _ => none

/-! ## Collections -/

/-- Whether a collection is left empty. -/
def isBlankField : Node → Bool
  | .scalar .plain text _ => text.isEmpty
  | _ => false

/-- The items of a sequence. -/
def items? (node : Node) : Option (List Node) :=
  match node with
  | .sequence items => some items
  | node => if node.isBlankField then some [] else none

/-- The entries of a mapping whose keys are scalars. -/
def entries? (node : Node) : Option (List (String × Node)) :=
  match node with
  | .mapping entries => entries.mapM fun (key, value) => key.text?.map (·, value)
  | node => if node.isBlankField then some [] else none

end Node

/-- Reads the entry with a given name, which there may be at most once; without one the field has
its default. -/
def field? {α : Type} (entries : List (String × Node)) (name : String) (read : Node → Option α)
    (absent : α) : Option α :=
  match entries.filter (·.1 == name) with
  | [] => some absent
  | [(_, node)] => read node
  | _ => none

end Platen.Yaml
