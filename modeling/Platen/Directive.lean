import Platen.Decimal.Reader
import Platen.Device
import Platen.Pattern
import Platen.Text.Blank

/-!
# Directives

A directive stands for the number of the page or the line, for a character given by its code, or
switches a print style.  Styles stay as they are from line to line until they are switched again.
Marks that hold no directive are left as they are written.
-/

namespace Platen

/-- Where a line stands: page, line on the page and line in the report, all counted from one. -/
structure Position where
  page : Nat := 0
  line : Nat := 0
  globalLine : Nat := 0
  deriving DecidableEq, Repr

/-- What can be asked for in a line. -/
inductive Directive where
  | pageNumber
  | lineNumber
  | globalLineNumber
  | toggle (style : Style)
  | characters (c : Char) (count : Nat)
  deriving DecidableEq, Repr

namespace Directive

/-- The greatest number of times that a character can be asked for. -/
def greatestCount : Nat := 1024

/-- The character with a code, if the code is one of a character. -/
def charOfCode? (code : Nat) : Option Char :=
  if h : code.isValidChar then some (Char.ofNatAux code h) else none

/-- How often a character is asked for: once, or the number after white space and an `R`. -/
def readCount? (cs : List Char) : Option Nat :=
  match cs with
  | [] => some 1
  | c :: _ =>
    if Text.isBlank c then
      match Text.dropBlanks cs with
      | 'R' :: digits =>
        if digits.isEmpty || !digits.all Char.isDigit then none
        else
          let count := Decimal.digitsValue digits
          if count ≤ greatestCount then some count else none
      | _ => none
    else none

/-- A character by its code, possibly repeated. -/
def readCharacters? (cs : List Char) : Option Directive :=
  let (digits, rest) := Decimal.spanDigits cs
  if digits.isEmpty then none
  else do
    let c ← charOfCode? (Decimal.digitsValue digits)
    let count ← readCount? rest
    some (characters c count)

/-- The directive with a given name. -/
def read? (name : List Char) : Option Directive :=
  match String.ofList name with
  | "PAGE_NO" => some pageNumber
  | "LINE_NO" => some lineNumber
  | "GLOBAL_LINE_NO" => some globalLineNumber
  | "BOLD" => some (toggle .bold)
  | "ITALIC" => some (toggle .italic)
  | "DOUBLE" => some (toggle .doubleStrike)
  | "UNDERLINE" => some (toggle .underline)
  | "SUPER" => some (toggle .superscript)
  | "SUB" => some (toggle .subscript)
  | _ => readCharacters? name

end Directive

/-- The print styles that are on. -/
structure Styles where
  bold : Bool := false
  italic : Bool := false
  doubleStrike : Bool := false
  underline : Bool := false
  superscript : Bool := false
  subscript : Bool := false
  deriving DecidableEq, Repr

namespace Styles

/-- Whether a style is on. -/
def isOn (styles : Styles) : Style → Bool
  | .bold => styles.bold
  | .italic => styles.italic
  | .doubleStrike => styles.doubleStrike
  | .underline => styles.underline
  | .superscript => styles.superscript
  | .subscript => styles.subscript

/-- The styles after one was switched; of superscript and subscript only one can be on. -/
def toggle (styles : Styles) : Style → Styles
  | .bold => { styles with bold := !styles.bold }
  | .italic => { styles with italic := !styles.italic }
  | .doubleStrike => { styles with doubleStrike := !styles.doubleStrike }
  | .underline => { styles with underline := !styles.underline }
  | .superscript =>
    { styles with
      superscript := !styles.superscript
      subscript := styles.superscript && styles.subscript }
  | .subscript =>
    { styles with
      subscript := !styles.subscript
      superscript := styles.subscript && styles.superscript }

/-- What a directive leaves in the text, and the styles after it. -/
def perform (styles : Styles) (position : Position) (device : Device) :
    Directive → String × Styles
  | .pageNumber => (toString position.page, styles)
  | .lineNumber => (toString position.line, styles)
  | .globalLineNumber => (toString position.globalLine, styles)
  | .characters c count => (String.ofList (List.replicate count c), styles)
  | .toggle style =>
    let after := styles.toggle style
    (device.styleCommand style (after.isOn style), after)

/-- The text of pieces with their directives carried out from left to right. -/
def applyPieces (position : Position) (device : Device) :
    Styles → List Piece → List Char × Styles
  | styles, [] => ([], styles)
  | styles, .char c :: rest =>
    let (out, after) := applyPieces position device styles rest
    (c :: out, after)
  | styles, .hole inner :: rest =>
    match Directive.read? (Text.trimBlanks inner) with
    | some directive =>
      let (shown, styles) := styles.perform position device directive
      let (out, after) := applyPieces position device styles rest
      (shown.toList ++ out, after)
    | none =>
      let (out, after) := applyPieces position device styles rest
      (Pattern.directive.whole inner ++ out, after)

/-- A line with its directives carried out, and the styles after it. -/
def apply (styles : Styles) (text : String) (position : Position) (device : Device) :
    String × Styles :=
  let (out, after) := applyPieces position device styles (Pattern.directive.pieces text)
  (String.ofList out, after)

end Styles

end Platen
