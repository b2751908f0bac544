import Mathlib.Data.Option.Basic
import Platen.Device

/-!
# What a printer makes of the preamble

The preamble is a row of commands with nothing between them.  Any of the fields behind it may be
missing, and a number is sent as one character, which may be the one that opens a command, a form
feed or the letter of a command.  This module lets a printer read the preamble from left to right
and proves that it finds every field again; the numbers only as far as seven bits hold them.

Main results:

- Theorem `Setup.read?_numberCommand`: a number is read as such, whatever its character is.
- Theorem `Setup.read?_escpPreamble`: what a printer knows after it has read a preamble.
- Theorem `Setup.preamble_determines`: two page formats have the same preamble exactly if a printer
  cannot tell them apart.
-/

namespace Platen

/-- The fields of a page that are sent as a number. -/
inductive Measure where
  | pageLength
  | bottomMargin
  | leftMargin
  | rightMargin
  deriving DecidableEq, Repr

/-- The letter of the command that sets a measure. -/
def Measure.letter : Measure → Char
  | pageLength => 'C'
  | bottomMargin => 'N'
  | leftMargin => 'l'
  | rightMargin => 'Q'

/-- What a printer was told about its page since it was reset. -/
structure Setup where
  lineSpacing : Option LineSpacing := none
  pitch : Option Pitch := none
  pageLength : Option Nat := none
  bottomMargin : Option Nat := none
  leftMargin : Option Nat := none
  rightMargin : Option Nat := none
  deriving DecidableEq, Repr

namespace Setup

/-- The set-up that a printer can be told of a page format. -/
def ofFormat (format : PageFormat) : Setup where
  lineSpacing := format.lineSpacing
  pitch := format.pitch
  pageLength := format.pageLength.map (min · 127)
  bottomMargin := format.bottomMargin.map (min · 127)
  leftMargin := format.leftMargin.map (min · 127)
  rightMargin := format.rightMargin.map (min · 127)

/-- Sets a measure, unless there is no number for it. -/
def set (setup : Setup) (n : Option Nat) : Measure → Setup
  | .pageLength => { setup with pageLength := n.or setup.pageLength }
  | .bottomMargin => { setup with bottomMargin := n.or setup.bottomMargin }
  | .leftMargin => { setup with leftMargin := n.or setup.leftMargin }
  | .rightMargin => { setup with rightMargin := n.or setup.rightMargin }

/-- The set-up after a printer has read characters.  The character behind the letter of a measure is
its number, whatever it is; there is no set-up if anything else stands where a command should. -/
def read? (setup : Setup) : List Char → Option Setup
  | '\x1b' :: '@' :: rest => read? {} rest
  | '\x1b' :: '0' :: rest => read? { setup with lineSpacing := some .oneEighthInch } rest
  | '\x1b' :: '2' :: rest => read? { setup with lineSpacing := some .oneSixthInch } rest
  | '\x1b' :: 'P' :: rest => read? { setup with pitch := some .pica } rest
  | '\x1b' :: 'M' :: rest => read? { setup with pitch := some .elite } rest
  | '\x1b' :: 'g' :: rest => read? { setup with pitch := some .micron } rest
  | '\x1b' :: 'C' :: n :: rest => read? (setup.set (some n.toNat) .pageLength) rest
  | '\x1b' :: 'N' :: n :: rest => read? (setup.set (some n.toNat) .bottomMargin) rest
  | '\x1b' :: 'l' :: n :: rest => read? (setup.set (some n.toNat) .leftMargin) rest
  | '\x1b' :: 'Q' :: n :: rest => read? (setup.set (some n.toNat) .rightMargin) rest
  | [] => some setup
  | _ => none

/-! ## Commands one by one -/

/-- The character of a number stands for as much of it as seven bits hold. -/
theorem toNat_parameter (n : Nat) : (Device.parameter n).toNat = min n 127 := by
  have hvalid : (min n 127).isValidChar := by
    left
    omega
  rw [Device.parameter, Char.ofNat, dif_pos hvalid]
  rfl

variable (setup : Setup) (rest : List Char)

theorem read?_reset : read? setup (Device.reset ++ rest) = read? {} rest := by
  rfl

theorem read?_spacing (spacing : Option LineSpacing) :
    read? setup ((spacing.map Device.spacingCommand).getD [] ++ rest) =
      read? { setup with lineSpacing := spacing.or setup.lineSpacing } rest := by
  rcases spacing with _ | _ | _ <;> rfl

theorem read?_pitch (pitch : Option Pitch) :
    read? setup ((pitch.map Device.pitchCommand).getD [] ++ rest) =
      read? { setup with pitch := pitch.or setup.pitch } rest := by
  rcases pitch with _ | _ | _ | _ <;> rfl

/-- A number is read as such, whatever its character is. -/
theorem read?_numberCommand (measure : Measure) (n : Option Nat) :
    read? setup (Device.numberCommand measure.letter n ++ rest) =
      read? (setup.set (n.map (min · 127)) measure) rest := by
  cases n with
  | none => cases measure <;> rfl
  | some n =>
      rw [Option.map_some, ← toNat_parameter]
      cases measure <;> rfl

/-! ## The whole preamble -/

/-- After a preamble a printer knows the fields of the page format, whatever it was told before. -/
theorem read?_escpPreamble (format : PageFormat) :
    read? setup (Device.escpPreamble format ++ rest) = read? (ofFormat format) rest := by
  have hletters : Device.escpPreamble format =
      Device.reset ++
        ((format.lineSpacing.map Device.spacingCommand).getD [] ++
          (Device.numberCommand Measure.pageLength.letter format.pageLength ++
            (Device.numberCommand Measure.bottomMargin.letter format.bottomMargin ++
              ((format.pitch.map Device.pitchCommand).getD [] ++
                (Device.numberCommand Measure.leftMargin.letter format.leftMargin ++
                  Device.numberCommand Measure.rightMargin.letter format.rightMargin))))) := by
    simp only [Device.escpPreamble, Measure.letter, List.append_assoc]
  rw [hletters]
  simp only [List.append_assoc, read?_reset, read?_spacing, read?_pitch, read?_numberCommand, set,
    Option.or_none, ofFormat]

/-- A command does not tell apart numbers that are the same in seven bits. -/
theorem numberCommand_congr {n n' : Option Nat} (hsame : n.map (min · 127) = n'.map (min · 127))
    (letter : Char) : Device.numberCommand letter n = Device.numberCommand letter n' := by
  have hclamped : ∀ m : Option Nat,
      Device.numberCommand letter m = Device.numberCommand letter (m.map (min · 127)) := by
    intro m
    cases m with
    | none => rfl
    | some m => simp [Device.numberCommand, Device.parameter]
  rw [hclamped n, hsame, ← hclamped n']

/-- Page formats have the same preamble exactly if they are the same to a printer. -/
theorem escpPreamble_inj {format format' : PageFormat} :
    Device.escpPreamble format = Device.escpPreamble format' ↔
      ofFormat format = ofFormat format' := by
  constructor
  · intro hsame
    have hread : read? (ofFormat format) [] = read? (ofFormat format') [] := by
      rw [← read?_escpPreamble {} [] format, hsame, read?_escpPreamble]
    exact Option.some.inj hread
  · intro hsame
    simp only [ofFormat, Setup.mk.injEq] at hsame
    rcases hsame with ⟨hspacing, hpitch, hlength, hbottom, hleft, hright⟩
    simp only [Device.escpPreamble, hspacing, hpitch, numberCommand_congr hlength,
      numberCommand_congr hbottom, numberCommand_congr hleft, numberCommand_congr hright]

/-- The preamble determines the page format as far as it is sent.

Two page formats have the same preamble exactly if they have the same line spacing, the same pitch,
and the same page length and margins as far as seven bits hold them, if any.  A printer that reads
the preamble from left to right has these fields afterwards, whatever it was told before. -/
theorem preamble_determines (format format' : PageFormat) :
    (Device.escp.preamble format = Device.escp.preamble format' ↔
      format.lineSpacing = format'.lineSpacing ∧ format.pitch = format'.pitch ∧
      format.pageLength.map (min · 127) = format'.pageLength.map (min · 127) ∧
      format.bottomMargin.map (min · 127) = format'.bottomMargin.map (min · 127) ∧
      format.leftMargin.map (min · 127) = format'.leftMargin.map (min · 127) ∧
      format.rightMargin.map (min · 127) = format'.rightMargin.map (min · 127)) ∧
    ∀ setup : Setup, setup.read? (Device.escp.preamble format).toList =
      some { lineSpacing := format.lineSpacing, pitch := format.pitch,
             pageLength := format.pageLength.map (min · 127),
             bottomMargin := format.bottomMargin.map (min · 127),
             leftMargin := format.leftMargin.map (min · 127),
             rightMargin := format.rightMargin.map (min · 127) } := by
  constructor
  · rw [Device.preamble, Device.preamble, String.ofList_inj, escpPreamble_inj, ofFormat, ofFormat,
      Setup.mk.injEq]
  · intro setup
    rw [Device.preamble, String.toList_ofList, ← List.append_nil (Device.escpPreamble format),
      read?_escpPreamble]
    rfl

/-- The number 27 is the character that opens a command, and 64 the one of a reset. -/
example : read? {} (Device.escp.preamble { pageLength := some 27, bottomMargin := some 64 }).toList =
    some { pageLength := some 27, bottomMargin := some 64 } := by
  rfl

end Setup

end Platen
