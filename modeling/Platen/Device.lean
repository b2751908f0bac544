import Platen.Settings

/-!
# Device commands

What is sent to a device besides the text of the lines: a preamble that sets up the page, the breaks
between lines and pages, the switching of print styles, and a final reset.
-/

namespace Platen

/-- Print styles that can be switched on and off. -/
inductive Style where
  | bold
  | italic
  | doubleStrike
  | underline
  | superscript
  | subscript
  deriving DecidableEq, Repr

namespace Device

/-- The character that opens a command. -/
def escape : Char := '\x1b'

/-- The character that ends a page. -/
def formFeed : Char := '\x0c'

/-- A number as a command parameter; the printer reads no more than seven bits. -/
def parameter (n : Nat) : Char :=
  Char.ofNat (min n 127)

/-- The command that resets the printer. -/
def reset : List Char := [escape, '@']

/-- The command that sets the distance of lines. -/
def spacingCommand : LineSpacing → List Char
  | .oneEighthInch => [escape, '0']
  | .oneSixthInch => [escape, '2']

/-- The command that sets the width of characters. -/
def pitchCommand : Pitch → List Char
  | .pica => [escape, 'P']
  | .elite => [escape, 'M']
  | .micron => [escape, 'g']

/-- A command with one number, left out when there is no number. -/
def numberCommand (letter : Char) : Option Nat → List Char
  | some n => [escape, letter, parameter n]
  | none => []

/-- The commands that set up a page on a printer. -/
def escpPreamble (format : PageFormat) : List Char :=
  reset
    ++ (format.lineSpacing.map spacingCommand).getD []
    ++ numberCommand 'C' format.pageLength
    ++ numberCommand 'N' format.bottomMargin
    ++ (format.pitch.map pitchCommand).getD []
    ++ numberCommand 'l' format.leftMargin
    ++ numberCommand 'Q' format.rightMargin

/-- What is sent before the first page. -/
def preamble (device : Device) (format : PageFormat) : String :=
  match device with
  | plain => ""
  | escp => String.ofList (escpPreamble format)

/-- What is sent after the last page. -/
def closing : Device → String
  | plain => ""
  | escp => String.ofList reset

/-- What stands between two lines. -/
def lineBreak (device : Device) (format : PageFormat) : String :=
  match device with
  | plain => "\n"
  | escp => if format.autoLineFeed then "\r" else "\r\n"

/-- What ends a page. -/
def pageBreak (_device : Device) : String :=
  String.singleton formFeed

/-- The letters of the command that switches a style. -/
def styleLetters : Style → Bool → List Char
  | .bold, true => ['E']
  | .bold, false => ['F']
  | .italic, true => ['4']
  | .italic, false => ['5']
  | .doubleStrike, true => ['G']
  | .doubleStrike, false => ['H']
  | .underline, true => ['-', '1']
  | .underline, false => ['-', '0']
  | .superscript, true => ['S', '0']
  | .subscript, true => ['S', '1']
  | .superscript, false | .subscript, false => ['T']

/-- The command that switches a style on or off. -/
def styleCommand (device : Device) (style : Style) (on : Bool) : String :=
  match device with
  | plain => ""
  | escp => String.ofList (escape :: styleLetters style on)

end Device

end Platen
