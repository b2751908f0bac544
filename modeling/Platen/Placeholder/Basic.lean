import Platen.Bits
import Platen.Error
import Platen.Pattern
import Platen.Text.Pad

/-!
# Placeholders

The text of a placeholder is cut at its colons.  The first segment of a member placeholder is the
member path and every other one a modifier.  An expression may hold colons itself, so the modifiers
of a script placeholder are taken from the end, as long as the last segment is one.
-/

namespace Platen

/-- What a list of values is reduced to. -/
inductive Aggregate where
  | sum
  | count
  deriving DecidableEq, Repr

/-- What a segment after the first can ask for. -/
inductive Modifier where
  | format (formatter : Formatter)
  | width (width : Nat)
  | align (alignment : Alignment)
  | aggregate (aggregate : Aggregate)
  deriving DecidableEq, Repr

/-- One more than the greatest width. -/
def Modifier.widthLimit : Nat := Bits.span 64

/-- The modifier that a trimmed segment writes. -/
def Modifier.ofText? (segment : List Char) : Option Modifier :=
  let word := String.ofList segment
  match Formatter.ofKeyword? word with
  | some formatter => some (.format formatter)
  | none =>
    match Decimal.readNatBelow? widthLimit segment with
    | some n => some (.width n)
    | none =>
      match word with
      | "left" => some (.align .left)
      | "right" => some (.align .right)
      | "center" => some (.align .center)
      | "sum" => some (.aggregate .sum)
      | "count" => some (.aggregate .count)
      | _ => none

/-- The modifier that a segment writes. -/
def Modifier.read? (segment : List Char) : Option Modifier :=
  Modifier.ofText? (Text.trimBlanks segment)

/-- Whether a placeholder names a member or holds an expression. -/
inductive Placeholder.Kind where
  | member
  | script
  deriving DecidableEq, Repr

/-- The marks around placeholders of a kind. -/
def Placeholder.Kind.pattern : Placeholder.Kind → Pattern
  | .member => .member
  | .script => .script

/-- A placeholder: where its value comes from and how the value is shown. -/
structure Placeholder where
  kind : Placeholder.Kind
  /-- The text between the marks. -/
  text : String
  /-- The member path or the expression. -/
  base : String
  formatter : Option Formatter := none
  /-- The number of characters that are shown; zero for as many as there are. -/
  width : Nat := 0
  alignment : Option Alignment := none
  aggregate : Option Aggregate := none
  deriving DecidableEq, Repr

namespace Placeholder

/-- The character between the segments of a placeholder. -/
def separator : Char := ':'

/-- A placeholder with one more modifier.  Width and alignment replace earlier ones; a second
formatter or aggregate is refused. -/
def apply (p : Placeholder) : Modifier → Except PlaceholderError Placeholder
  | .format formatter =>
    if p.formatter.isSome then .error .secondFormatter
    else .ok { p with formatter := some formatter }
  | .width width => .ok { p with width }
  | .align alignment => .ok { p with alignment := some alignment }
  | .aggregate aggregate =>
    if p.aggregate.isSome then .error .secondAggregate
    else .ok { p with aggregate := some aggregate }

/-- A placeholder with the modifiers that segments write, from left to right. -/
def applySegments (p : Placeholder) : List (List Char) → Except PlaceholderError Placeholder
  | [] => .ok p
  | segment :: rest =>
    match Modifier.read? segment with
    | none => .error (.unknownModifier (String.ofList (Text.trimBlanks segment)))
    | some modifier =>
      match p.apply modifier with
      | .error e => .error e
      | .ok p => p.applySegments rest

/-- Reads the text of a member placeholder. -/
def readMember (text : String) : Except PlaceholderError Placeholder :=
  match Text.segments separator text.toList with
  | [] => .error .emptyMember
  | first :: rest =>
    let base := Text.trimBlanks first
    if base.isEmpty then .error .emptyMember
    else applySegments { kind := .member, text, base := String.ofList base } rest

/-- Takes modifiers from the end of a text, whose segments are given last to first.  The first
segment of the text is never taken. -/
def peel (p : Placeholder) :
    List (List Char) → Except PlaceholderError (Placeholder × List (List Char))
  | last :: before :: rest =>
    match Modifier.read? last with
    | none => .ok (p, last :: before :: rest)
    | some modifier =>
      match p.apply modifier with
      | .error e => .error e
      | .ok p => p.peel (before :: rest)
  | segments => .ok (p, segments)

/-- Reads the text of a script placeholder. -/
def readScript (text : String) : Except PlaceholderError Placeholder :=
  let segments := (Text.segments separator text.toList).reverse
  match peel { kind := .script, text, base := "" } segments with
  | .error e => .error e
  | .ok (p, kept) =>
    let expression := Text.trimBlanks (Text.join separator kept.reverse)
    if expression.isEmpty then .error .emptyExpression
    else .ok { p with base := String.ofList expression }

/-- Reads the text of a placeholder. -/
def read (kind : Kind) (text : String) : Except PlaceholderError Placeholder :=
  match kind with
  | .member => readMember text
  | .script => readScript text

end Placeholder

end Platen
