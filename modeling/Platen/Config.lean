import Platen.Settings
import Platen.Yaml.Field

/-!
# Job configuration

A configuration says in YAML how a report is printed.  Every field has a default, and fields with
other names are passed over.
-/

namespace Platen

/-- How a report is printed. -/
structure Config where
  pageFormat : PageFormat := {}
  numberStyle : NumberStyle := {}
  device : Device := .plain
  header : List String := []
  footer : List String := []
  deriving DecidableEq, Repr

open Yaml (Node field?)

/-- The words for line spacings. -/
def LineSpacing.words : List (String × LineSpacing) :=
  [("one_eighth_inch", .oneEighthInch), ("one_sixth_inch", .oneSixthInch)]

/-- The words for pitches. -/
def Pitch.words : List (String × Pitch) :=
  [("pica", .pica), ("elite", .elite), ("micron", .micron)]

/-- The words for devices. -/
def Device.words : List (String × Device) :=
  [("plain", .plain), ("escp", .escp)]

/-- The page format that a node describes. -/
def PageFormat.ofNode? (node : Node) : Option PageFormat := do
  let entries ← node.entries?
  let number (name : String) := field? entries name (Node.optional? Node.natural?) none
  return {
    pageLength := ← number "page_length"
    pageWidth := ← number "page_width"
    leftMargin := ← number "left_margin"
    rightMargin := ← number "right_margin"
    bottomMargin := ← number "bottom_margin"
    lineSpacing :=
      ← field? entries "line_spacing" (Node.optional? (Node.choice? LineSpacing.words)) none
    pitch := ← field? entries "pitch" (Node.optional? (Node.choice? Pitch.words)) none
    autoLineFeed := ← field? entries "auto_line_feed" Node.truth? false
    autoFormFeed := ← field? entries "auto_form_feed" Node.truth? true }

/-- The number style that a node describes. -/
def NumberStyle.ofNode? (node : Node) : Option NumberStyle := do
  let entries ← node.entries?
  let standard : NumberStyle := {}
  return {
    currencySymbol := ← field? entries "currency_symbol" Node.text? standard.currencySymbol
    groupingSeparator := ← field? entries "grouping_separator" Node.char? standard.groupingSeparator
    decimalSeparator := ← field? entries "decimal_separator" Node.char? standard.decimalSeparator
    currencyDecimals :=
      ← field? entries "currency_decimals" Node.natural? standard.currencyDecimals }

namespace Config

/-- The texts of the items of a sequence. -/
def texts? (node : Node) : Option (List String) := do
  (← node.items?).mapM Node.text?

/-- The configuration that a node describes. -/
def ofNode? (node : Node) : Option Config := do
  let entries ← node.entries?
  return {
    pageFormat := ← field? entries "page_format" PageFormat.ofNode? {}
    numberStyle := ← field? entries "format" NumberStyle.ofNode? {}
    device := ← field? entries "device" (Node.choice? Device.words) .plain
    header := ← field? entries "header" texts? []
    footer := ← field? entries "footer" texts? [] }

/-- Reads a configuration. -/
def read? (s : String) : Option Config := do
  ofNode? (← Yaml.read? s)

end Config

end Platen
