/-!
# Settings

The page format describes the paper and the printer set-up; the number style describes how amounts
are written.
-/

namespace Platen

/-- Distance between two lines. -/
inductive LineSpacing where
  | oneEighthInch
  | oneSixthInch
  deriving DecidableEq, Repr

/-- Width of a character: 10, 12 or 15 to the inch. -/
inductive Pitch where
  | pica
  | elite
  | micron
  deriving DecidableEq, Repr

/-- The paper and the printer set-up.  A report without a page length runs on endless paper. -/
structure PageFormat where
  pageLength : Option Nat := none
  pageWidth : Option Nat := none
  leftMargin : Option Nat := none
  rightMargin : Option Nat := none
  bottomMargin : Option Nat := none
  lineSpacing : Option LineSpacing := none
  pitch : Option Pitch := none
  /-- The printer feeds a line on a carriage return by itself. -/
  autoLineFeed : Bool := false
  /-- Every page ends with a hard page break. -/
  autoFormFeed : Bool := true
  deriving DecidableEq, Repr

/-- How amounts are written. -/
structure NumberStyle where
  currencySymbol : String := "$"
  groupingSeparator : Char := ','
  decimalSeparator : Char := '.'
  currencyDecimals : Nat := 2
  deriving DecidableEq, Repr

/-- The command sets that a report can be written for. -/
inductive Device where
  /-- Text alone. -/
  | plain
  /-- The command set of 9 and 24 pin impact printers. -/
  | escp
  deriving DecidableEq, Repr

end Platen
