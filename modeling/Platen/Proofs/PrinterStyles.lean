import Platen.Directive

/-!
# Print styles on the printer

Which styles are on is kept track of twice: by the flags that the directives switch, and by the
printer, which only sees the commands.  Superscript and subscript are switched off by one and the
same command, and switching one of them on takes the place of the other without a command of its
own.  This module lets a printer follow the commands and proves that the flags never disagree with
it.

Main results:

- Theorem `Printer.feed_styleCommand`: what a printer makes of the command that switches a style.
- Theorem `Styles.applyAll_eq`: the output of lines is the texts and commands that they emit.
- Theorem `Printer.Agrees.toggle`: a switched style is the same on both sides.
- Theorem `Styles.applyAll_agrees`: after any texts the flags are those of the printer, and
  superscript and subscript are not both on.
-/

namespace Platen

/-! ## The printer -/

/-- Whether two styles are the ones of which only one can be on. -/
def Style.rivals : Style → Style → Bool
  | .superscript, .subscript | .subscript, .superscript => true
  | _, _ => false

/-- How high the printer sets its characters. -/
inductive Printer.Shift where
  | level
  | raised
  | lowered
  deriving DecidableEq, Repr

/-- The print styles that a printer is in. -/
structure Printer where
  bold : Bool := false
  italic : Bool := false
  doubleStrike : Bool := false
  underline : Bool := false
  shift : Printer.Shift := .level
  deriving DecidableEq, Repr

namespace Printer

/-- Whether a style is on in the printer. -/
def isOn (printer : Printer) : Style → Bool
  | .bold => printer.bold
  | .italic => printer.italic
  | .doubleStrike => printer.doubleStrike
  | .underline => printer.underline
  | .superscript => printer.shift = .raised
  | .subscript => printer.shift = .lowered

/-- The printer after a style was switched on or off. -/
def switch (printer : Printer) : Style → Bool → Printer
  | .bold, on => { printer with bold := on }
  | .italic, on => { printer with italic := on }
  | .doubleStrike, on => { printer with doubleStrike := on }
  | .underline, on => { printer with underline := on }
  | .superscript, true => { printer with shift := .raised }
  | .subscript, true => { printer with shift := .lowered }
  | .superscript, false | .subscript, false => { printer with shift := .level }

/-- A style that is switched takes its rival's place. -/
theorem isOn_switch (printer : Printer) (style : Style) (on : Bool) (other : Style) :
    (printer.switch style on).isOn other =
      if other = style then on else !style.rivals other && printer.isOn other := by
  cases style <;> cases other <;> cases on <;> rfl

/-- Of two rivals a printer has only one on. -/
theorem not_both (printer : Printer) {style other : Style} (hrivals : style.rivals other = true) :
    ¬(printer.isOn style = true ∧ printer.isOn other = true) := by
  rcases printer with ⟨bold, italic, doubleStrike, underline, shift⟩
  cases style <;> cases other <;> cases hrivals <;> cases shift <;> simp [isOn]

/-- The printer after it has read characters: it looks for the commands that switch a style. -/
def feed (printer : Printer) : List Char → Printer
  | '\x1b' :: 'E' :: rest => feed { printer with bold := true } rest
  | '\x1b' :: 'F' :: rest => feed { printer with bold := false } rest
  | '\x1b' :: '4' :: rest => feed { printer with italic := true } rest
  | '\x1b' :: '5' :: rest => feed { printer with italic := false } rest
  | '\x1b' :: 'G' :: rest => feed { printer with doubleStrike := true } rest
  | '\x1b' :: 'H' :: rest => feed { printer with doubleStrike := false } rest
  | '\x1b' :: '-' :: '1' :: rest => feed { printer with underline := true } rest
  | '\x1b' :: '-' :: '0' :: rest => feed { printer with underline := false } rest
  | '\x1b' :: 'S' :: '0' :: rest => feed { printer with shift := .raised } rest
  | '\x1b' :: 'S' :: '1' :: rest => feed { printer with shift := .lowered } rest
  | '\x1b' :: 'T' :: rest => feed { printer with shift := .level } rest
  | _ :: rest => feed printer rest
  | [] => printer

/-- The command that switches a style is read as such. -/
theorem feed_styleCommand (printer : Printer) (style : Style) (on : Bool) (rest : List Char) :
    printer.feed ((Device.escp.styleCommand style on).toList ++ rest) =
      (printer.switch style on).feed rest := by
  rw [Device.styleCommand, String.toList_ofList]
  cases style <;> cases on <;> rfl

/-- Text without the character that opens a command does nothing to the printer. -/
theorem feed_text {cs : List Char} (hclean : Device.escape ∉ cs) (printer : Printer)
    (rest : List Char) : printer.feed (cs ++ rest) = printer.feed rest := by
  induction cs with
  | nil => rfl
  | cons c cs ih =>
      rcases not_or.mp (mt List.mem_cons.mpr hclean) with ⟨hc, hcs⟩
      rw [List.cons_append, ← ih hcs, feed]
      -- no command begins with this character
      all_goals
        rintro _ rfl
        exact absurd rfl hc

end Printer

/-! ## What directives emit -/

/-- A part of the output: text of the line, or the command of a directive that switches a style. -/
inductive Emission where
  | text (cs : List Char)
  | command (cs : List Char)
  deriving DecidableEq, Repr

namespace Emission

/-- The characters of a part of the output. -/
def chars : Emission → List Char
  | text cs | command cs => cs

/-- Whether a part of the output is taken for what it is by a printer that reads all of it: text
without the character that opens a command, or a command that switches a style. -/
def Readable : Emission → Prop
  | text cs => Device.escape ∉ cs
  | command cs => ∃ style on, cs = (Device.escp.styleCommand style on).toList

end Emission

namespace Styles

/-- A style that is toggled keeps its rival only if it goes off itself. -/
theorem isOn_toggle (styles : Styles) (style other : Style) :
    (styles.toggle style).isOn other =
      if other = style then !styles.isOn style
      else (!style.rivals other || styles.isOn style) && styles.isOn other := by
  cases style <;> cases other <;> rfl

/-- What a directive emits, and the styles after it. -/
def emitDirective (styles : Styles) (position : Position) (device : Device)
    (directive : Directive) : Emission × Styles :=
  let (shown, after) := styles.perform position device directive
  match directive with
  | .toggle _ => (.command shown.toList, after)
  | _ => (.text shown.toList, after)

/-- What a piece of a text emits, and the styles after it. -/
def emitPiece (styles : Styles) (position : Position) (device : Device) :
    Piece → Emission × Styles
  | .char c => (.text [c], styles)
  | .hole inner =>
    match Directive.read? (Text.trimBlanks inner) with
    | some directive => styles.emitDirective position device directive
    | none => (.text (Pattern.directive.whole inner), styles)

/-- What pieces of a text emit from left to right, and the styles after them. -/
def emitPieces (position : Position) (device : Device) :
    Styles → List Piece → List Emission × Styles
  | styles, [] => ([], styles)
  | styles, piece :: rest =>
    let (first, styles) := styles.emitPiece position device piece
    let (emitted, after) := emitPieces position device styles rest
    (first :: emitted, after)

/-- What a line emits, and the styles after it. -/
def emit (styles : Styles) (text : String) (position : Position) (device : Device) :
    List Emission × Styles :=
  emitPieces position device styles (Pattern.directive.pieces text)

/-- Lines with their directives carried out one after the other, and the styles after them. -/
def applyAll (device : Device) : Styles → List (String × Position) → List String × Styles
  | styles, [] => ([], styles)
  | styles, (text, position) :: rest =>
    let (out, styles) := styles.apply text position device
    let (outs, after) := applyAll device styles rest
    (out :: outs, after)

theorem applyAll_append (device : Device) (styles : Styles)
    (texts rest : List (String × Position)) :
    applyAll device styles (texts ++ rest) =
      ((applyAll device styles texts).1 ++
          (applyAll device (applyAll device styles texts).2 rest).1,
        (applyAll device (applyAll device styles texts).2 rest).2) := by
  induction texts generalizing styles with
  | nil => rfl
  | cons call texts ih =>
      rcases call with ⟨text, position⟩
      simp only [List.cons_append, applyAll, ih]

theorem length_applyAll (device : Device) (styles : Styles) (texts : List (String × Position)) :
    (applyAll device styles texts).1.length = texts.length := by
  induction texts generalizing styles with
  | nil => rfl
  | cons call texts ih =>
      rcases call with ⟨text, position⟩
      simp only [applyAll, List.length_cons, ih]

/-- What each of the lines emits, and the styles after them. -/
def emitAll (device : Device) :
    Styles → List (String × Position) → List (List Emission) × Styles
  | styles, [] => ([], styles)
  | styles, (text, position) :: rest =>
    let (emitted, styles) := styles.emit text position device
    let (others, after) := emitAll device styles rest
    (emitted :: others, after)

/-- A piece adds what it emits to the output. -/
theorem applyPieces_cons (position : Position) (device : Device) (styles : Styles) (piece : Piece)
    (rest : List Piece) :
    applyPieces position device styles (piece :: rest) =
      ((styles.emitPiece position device piece).1.chars ++
          (applyPieces position device (styles.emitPiece position device piece).2 rest).1,
        (applyPieces position device (styles.emitPiece position device piece).2 rest).2) := by
  cases piece with
  | char c => rfl
  | hole inner =>
      rw [applyPieces, emitPiece]
      cases Directive.read? (Text.trimBlanks inner) with
      | none => rfl
      | some directive => cases directive <;> rfl

/-- The output of pieces is what they emit. -/
theorem applyPieces_eq (position : Position) (device : Device) (styles : Styles)
    (pieces : List Piece) :
    applyPieces position device styles pieces =
      ((emitPieces position device styles pieces).1.flatMap Emission.chars,
        (emitPieces position device styles pieces).2) := by
  induction pieces generalizing styles with
  | nil => rfl
  | cons piece rest ih =>
      rw [applyPieces_cons, ih]
      rfl

/-- The output of lines is what they emit, and the styles after them are the same. -/
theorem applyAll_eq (device : Device) (styles : Styles) (texts : List (String × Position)) :
    applyAll device styles texts =
      ((emitAll device styles texts).1.map fun emitted =>
          String.ofList (emitted.flatMap Emission.chars),
        (emitAll device styles texts).2) := by
  induction texts generalizing styles with
  | nil => rfl
  | cons call rest ih =>
      rcases call with ⟨text, position⟩
      have happly : styles.apply text position device =
          (String.ofList ((styles.emit text position device).1.flatMap Emission.chars),
            (styles.emit text position device).2) := by
        rw [apply, applyPieces_eq]
        rfl
      rw [applyAll, emitAll, happly]
      simp only [ih]
      rfl

/-- A command is only emitted to switch a style. -/
theorem command_emitPiece {position : Position} {styles : Styles} {piece : Piece} {cs : List Char}
    (hcommand : (styles.emitPiece position .escp piece).1 = .command cs) :
    ∃ style on, cs = (Device.escp.styleCommand style on).toList := by
  cases piece with
  | char c => cases hcommand
  | hole inner =>
      rw [emitPiece] at hcommand
      split at hcommand
      · rename_i directive _
        cases directive with
        | toggle style =>
            cases hcommand
            exact ⟨style, _, rfl⟩
        | pageNumber | lineNumber | globalLineNumber | characters c count => cases hcommand
      · cases hcommand

theorem command_mem_emitPieces {position : Position} {styles : Styles} {pieces : List Piece}
    {cs : List Char} (hcommand : .command cs ∈ (emitPieces position .escp styles pieces).1) :
    ∃ style on, cs = (Device.escp.styleCommand style on).toList := by
  induction pieces generalizing styles with
  | nil => cases hcommand
  | cons piece rest ih =>
      rcases List.mem_cons.mp hcommand with hfirst | hrest
      · exact command_emitPiece hfirst.symm
      · exact ih hrest

theorem command_mem_emitAll {styles : Styles} {texts : List (String × Position)}
    {cs : List Char} (hcommand : .command cs ∈ (emitAll .escp styles texts).1.flatten) :
    ∃ style on, cs = (Device.escp.styleCommand style on).toList := by
  induction texts generalizing styles with
  | nil => cases hcommand
  | cons call rest ih =>
      rcases List.mem_append.mp hcommand with hfirst | hrest
      · exact command_mem_emitPieces hfirst
      · exact ih hrest

end Styles

/-! ## Flags and printer -/

namespace Printer

/-- The printer after a part of the output, of which it only obeys commands. -/
def obey (printer : Printer) : Emission → Printer
  | .text _ => printer
  | .command cs => printer.feed cs

theorem obey_styleCommand (printer : Printer) (style : Style) (on : Bool) :
    printer.obey (.command (Device.escp.styleCommand style on).toList) =
      printer.switch style on := by
  have hread := printer.feed_styleCommand style on []
  rwa [List.append_nil] at hread

/-- A printer that reads the whole output does what the commands in it say, if nothing else in it
looks like a command. -/
theorem feed_chars {parts : List Emission} (hreadable : ∀ part ∈ parts, part.Readable)
    (printer : Printer) (rest : List Char) :
    printer.feed (parts.flatMap Emission.chars ++ rest) =
      (parts.foldl obey printer).feed rest := by
  induction parts generalizing printer with
  | nil => rfl
  | cons part parts ih =>
      rcases List.forall_mem_cons.mp hreadable with ⟨hpart, hparts⟩
      rw [List.flatMap_cons, List.append_assoc, List.foldl_cons, ← ih hparts]
      cases part with
      | text cs => exact feed_text hpart printer _
      | command cs =>
          rcases hpart with ⟨style, on, rfl⟩
          rw [obey_styleCommand]
          exact printer.feed_styleCommand style on _

end Printer

/-- Whether the flags of the directives and the printer have the same styles on. -/
def Printer.Agrees (printer : Printer) (styles : Styles) : Prop :=
  ∀ style, styles.isOn style = printer.isOn style

namespace Printer.Agrees

variable {printer : Printer} {styles : Styles}

/-- A switched style is the same on both sides. -/
theorem toggle (hagrees : printer.Agrees styles) (style : Style) :
    (printer.switch style ((styles.toggle style).isOn style)).Agrees (styles.toggle style) := by
  intro other
  rw [isOn_switch, Styles.isOn_toggle, Styles.isOn_toggle, if_pos rfl, hagrees style,
    hagrees other]
  by_cases hsame : other = style
  · rw [if_pos hsame, if_pos hsame]
  · rw [if_neg hsame, if_neg hsame]
    cases hrivals : style.rivals other with
    | false => rfl
    | true =>
        -- a rival that the flags keep would be one that the printer has on beside the style
        have hnone : (printer.isOn style && printer.isOn other) = false := by
          rw [← Bool.not_eq_true, Bool.and_eq_true]
          exact printer.not_both hrivals
        simpa using hnone

/-- The printer that obeys a directive agrees with the flags after it. -/
theorem emitDirective (hagrees : printer.Agrees styles) (position : Position)
    (directive : Directive) :
    (printer.obey (styles.emitDirective position .escp directive).1).Agrees
      (styles.emitDirective position .escp directive).2 := by
  cases directive with
  | toggle style =>
      have hobeyed : printer.obey (styles.emitDirective position .escp (.toggle style)).1 =
          printer.switch style ((styles.toggle style).isOn style) := printer.obey_styleCommand _ _
      rw [hobeyed]
      exact hagrees.toggle style
  | pageNumber | lineNumber | globalLineNumber | characters c count => exact hagrees

/-- The printer that obeys a piece of a text agrees with the flags after it. -/
theorem emitPiece (hagrees : printer.Agrees styles) (position : Position) (piece : Piece) :
    (printer.obey (styles.emitPiece position .escp piece).1).Agrees
      (styles.emitPiece position .escp piece).2 := by
  cases piece with
  | char c => exact hagrees
  | hole inner =>
      rw [Styles.emitPiece]
      split
      · exact hagrees.emitDirective position _
      · exact hagrees

/-- The printer that obeys a text agrees with the flags after it. -/
theorem emitPieces (hagrees : printer.Agrees styles) (position : Position) (pieces : List Piece) :
    ((Styles.emitPieces position .escp styles pieces).1.foldl obey printer).Agrees
      (Styles.emitPieces position .escp styles pieces).2 := by
  induction pieces generalizing printer styles with
  | nil => exact hagrees
  | cons piece rest ih => exact ih (hagrees.emitPiece position piece)

/-- The printer that obeys texts, one after the other, agrees with the flags after them. -/
theorem emitAll (hagrees : printer.Agrees styles) (texts : List (String × Position)) :
    ((Styles.emitAll .escp styles texts).1.flatten.foldl obey printer).Agrees
      (Styles.emitAll .escp styles texts).2 := by
  induction texts generalizing printer styles with
  | nil => exact hagrees
  | cons call rest ih =>
      rcases call with ⟨text, position⟩
      rw [Styles.emitAll, List.flatten_cons, List.foldl_append]
      exact ih (hagrees.emitPieces position (Pattern.directive.pieces text))

end Printer.Agrees

/-- Texts are given to directives one after the other, with no style on at first, and a printer that
is in no style obeys the commands that the directives emit.  After the texts the styles that are on
are those of the printer, and superscript and subscript are not both on.  A printer that reads the
whole output comes to the same, if no text in it holds the character that opens a command. -/
theorem Styles.applyAll_agrees (texts : List (String × Position)) :
    let emitted := (Styles.emitAll .escp {} texts).1
    let printer := emitted.flatten.foldl Printer.obey {}
    (Styles.applyAll .escp {} texts).1 =
        emitted.map (fun parts => String.ofList (parts.flatMap Emission.chars)) ∧
      (∀ cs, .command cs ∈ emitted.flatten →
        ∃ style on, cs = (Device.escp.styleCommand style on).toList) ∧
      (∀ style, (Styles.applyAll .escp {} texts).2.isOn style = printer.isOn style) ∧
      ¬((Styles.applyAll .escp {} texts).2.isOn .superscript = true ∧
        (Styles.applyAll .escp {} texts).2.isOn .subscript = true) ∧
      ((∀ cs, .text cs ∈ emitted.flatten → Device.escape ∉ cs) →
        ({} : Printer).feed ((Styles.applyAll .escp {} texts).1.flatMap String.toList) =
          printer) := by
  intro emitted printer
  have hoff : ({} : Printer).Agrees {} := fun style => by cases style <;> rfl
  have hagrees : printer.Agrees (Styles.emitAll .escp {} texts).2 := hoff.emitAll texts
  have hcommand : ∀ cs, .command cs ∈ emitted.flatten →
      ∃ style on, cs = (Device.escp.styleCommand style on).toList :=
    fun cs => Styles.command_mem_emitAll
  rw [Styles.applyAll_eq]
  have hboth := @Printer.not_both printer .superscript .subscript rfl
  rw [← hagrees, ← hagrees] at hboth
  refine ⟨rfl, hcommand, hagrees, hboth, fun hclean => ?_⟩
  have hreadable : ∀ part ∈ emitted.flatten, part.Readable := by
    intro part hpart
    cases part with
    | text cs => exact hclean cs hpart
    | command cs => exact hcommand cs hpart
  have hchars : (emitted.map fun parts => String.ofList (parts.flatMap Emission.chars)).flatMap
      String.toList = emitted.flatten.flatMap Emission.chars := by
    simp [List.flatMap_def, List.map_flatten, List.flatten_flatten, Function.comp_def]
  have hfeed := Printer.feed_chars hreadable {} []
  rw [List.append_nil] at hfeed
  show ({} : Printer).feed ((emitted.map fun parts =>
    String.ofList (parts.flatMap Emission.chars)).flatMap String.toList) = printer
  rw [hchars, hfeed]
  rfl

/-- A superscript takes the place of a subscript, so its end leaves neither. -/
example :
    (Styles.applyAll .escp {}
      [("%\x7bSUB\x7da%\x7bSUPER\x7d", {}), ("%\x7bSUPER\x7d", {})]).2 = {} := by
  rfl

end Platen
