import Platen.Text.Pad

/-!
# Tables and lists

A table shows one row of cells for every item of a collection, a list one line.  Both name the
collection by a member path and may have a header and a footer of their own.
-/

namespace Platen

/-- A column of a table. -/
structure Column where
  /-- The placeholder that is resolved against each row. -/
  text : String
  width : Nat
  caption : Option String := none
  /-- Whether text that is too long goes on in further rows instead of being cut. -/
  wrap : Bool := false
  /-- Where cells stand, unless the placeholder says otherwise. -/
  alignment : Option Alignment := none
  deriving DecidableEq, Repr

/-- The words above a column: its caption, or else its text. -/
def Column.heading (column : Column) : String :=
  column.caption.getD column.text

/-- A table that stands in a report until its rows are known. -/
structure Table where
  /-- The member path of the rows. -/
  source : String
  columns : List Column := []
  border : Bool := false
  header : List String := []
  footer : List String := []
  deriving DecidableEq, Repr

namespace Table

/-- The number of characters of a cell; a border takes one from its column. -/
def cellWidth (table : Table) (column : Column) : Nat :=
  if table.border then column.width - 1 else column.width

/-- The widths of all cells of a row. -/
def cellWidths (table : Table) : List Nat :=
  table.columns.map table.cellWidth

/-- One row of cells. -/
def joinCells (table : Table) (cells : List String) : String :=
  if table.border then String.join (cells.map ("|" ++ ·)) ++ "|" else String.join cells

/-- The row of the column headings. -/
def captionRow (table : Table) : String :=
  table.joinCells (table.columns.map fun column =>
    Text.pad column.heading (table.cellWidth column) .left)

/-- The line above and below the rows of a bordered table. -/
def rule (table : Table) : String :=
  String.join (table.columns.map fun column =>
    "+" ++ String.ofList (List.replicate (table.cellWidth column) '-')) ++ "+"

/-- The table with its caption row above its header. -/
def withCaptionRow (table : Table) : Table :=
  { table with header := table.captionRow :: table.header }

/-- What is printed above the rows. -/
def frameTop (table : Table) : List String :=
  if table.border then table.header ++ [table.rule] else table.header

/-- What is printed below the rows. -/
def frameBottom (table : Table) : List String :=
  if table.border then table.rule :: table.footer else table.footer

end Table

/-- A list that stands in a report until its rows are known. -/
structure Listing where
  /-- The member path of the rows. -/
  source : String
  /-- The text that is rendered for each row. -/
  template : String
  header : List String := []
  footer : List String := []
  deriving DecidableEq, Repr

end Platen
