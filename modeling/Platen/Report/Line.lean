import Platen.Table

/-!
# Lines

A line of a report is text, empty, or a marker for a table or list whose rows are not known yet.
Once numbered, a line knows its place on its page and in the report.
-/

namespace Platen

/-- What stands in a line. -/
inductive Line.Content where
  | text (s : String)
  | empty
  | table (table : Table)
  | list (listing : Listing)
  deriving DecidableEq, Repr

/-- A line of a report. -/
structure Line where
  content : Line.Content
  /-- The place on the page, counted from 1 at the first header line. -/
  number : Option Nat := none
  /-- The place in the report. -/
  globalNumber : Option Nat := none
  deriving DecidableEq, Repr

namespace Line

/-- A line of text. -/
def ofText (s : String) : Line := { content := .text s }

/-- An empty line. -/
def blank : Line := { content := .empty }

/-- The marker of a table. -/
def ofTable (table : Table) : Line := { content := .table table }

/-- The marker of a list. -/
def ofListing (listing : Listing) : Line := { content := .list listing }

/-- Whether a line is a marker. -/
def isMarker (line : Line) : Bool :=
  match line.content with
  | .table _ | .list _ => true
  | .text _ | .empty => false

/-- The text of a line; markers have none. -/
def text (line : Line) : String :=
  match line.content with
  | .text s => s
  | .empty | .table _ | .list _ => ""

/-- The line at a place on its page; `firstGlobal` is the number of the first line of the page in
the report, if the report is numbered. -/
def numbered (line : Line) (index : Nat) (firstGlobal : Option Nat) : Line :=
  { line with
    number := some (index + 1)
    globalNumber := (firstGlobal.map (· + index)).or line.globalNumber }

end Line

end Platen
