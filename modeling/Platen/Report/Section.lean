import Platen.Report.Basic

/-!
# Sections

The rows of a table or list with its header and footer are a section.  It is paginated in a report
of its own whose pages are as long as the content of the page that the section stands on, and
whose first page starts below the content that stands before it there.
-/

namespace Platen

/-- The place of a marker: the number of its page, its index in the content, and the number of
content lines of the page, if that is limited. -/
structure Slot where
  page : Nat
  offset : Nat
  budget : Option Nat
  deriving DecidableEq, Repr

namespace Section

/-- Appends a number of empty lines. -/
def appendBlanks (report : Report) : Nat → Except DocumentError Unit × Report
  | 0 => (.ok (), report)
  | n + 1 =>
    match report.append Line.blank false with
    | (.error e, report) => (.error e, report)
    | (.ok (), report) => appendBlanks report n

/-- The lines of the paginated section without the empty lines that stand for what comes before it
on its first page. -/
def flatten (spacers : Nat) : List Page → List Line
  | [] => []
  | first :: rest =>
    first.header ++ first.content.drop spacers ++ first.footer ++ rest.flatMap Page.lines

/-- The error of a row that finds no room. -/
def rowError (slot : Slot) : DocumentError → FillError
  | .pageFull _ => .insufficientSpace slot.page .sectionWithoutRows
  | e => .document e

/-- Why a section cannot start at its slot: its header would reach its footer. -/
def shortage? (header footer : List String) (slot : Slot) : Option FillError :=
  match slot.budget with
  | none => none
  | some budget =>
    let start := header.length + slot.offset
    let footerStart := budget - footer.length
    if footerStart ≤ start then
      some (.insufficientSpace slot.page (.sectionBelowFooter start footerStart))
    else none

/-- The report that a section is paginated in. -/
def sheet (header footer : List String) (slot : Slot) : Report :=
  { format := { pageLength := slot.budget }, header, footer }

/-- The lines of a section: its rows between its header and footer, in pages of the budget of its
slot. -/
def layout (header footer rows : List String) (slot : Slot) : Except FillError (List Line) :=
  match shortage? header footer slot with
  | some e => .error e
  | none =>
    let spacers := if slot.budget.isSome then slot.offset else 0
    match appendBlanks ((sheet header footer slot).newPage false) spacers with
    | (.error e, _) => .error (.document e)
    | (.ok (), report) =>
      match report.appendTexts rows with
      | (.error e, _) => .error (rowError slot e)
      | (.ok (), report) => .ok (flatten spacers report.pages)

end Section

end Platen
