import Platen.Report.Basic

/-!
# Splicing lines into a report

Lines are put where a marker was, the last one first.  A line that this pushes off its page goes
to the top of the content of the next page, which may push off another one, and so on; what is
pushed off the last page starts a new one.
-/

namespace Platen.Report

/-- Puts a line on top of the content of the first page, what that pushes off on top of the next,
and so on.  The result holds the pages and the line that is pushed off the last one. -/
def cascade (line : Line) : List Page → Except DocumentError (List Page × Option Line)
  | [] => .ok ([], some line)
  | page :: rest =>
    match page.insert line page.header.length with
    | .error e => .error e
    | .ok (page, none) => .ok (page :: rest, none)
    | .ok (page, some evicted) =>
      match cascade evicted rest with
      | .error e => .error e
      | .ok (pages, out) => .ok (page :: pages, out)

/-- Puts a line on a new page at the end of the report, which has the header and footer of the
report.  The new page stays even if it has no room for content. -/
def overflowToNewPage (report : Report) (line : Line) : Except FillError Unit × Report :=
  let page := report.nextPage false
  let report := report.newPage false
  if page.capacity = some 0 then
    (.error (.insufficientSpace page.number .pageWithoutContent), report)
  else
    match page.insert line page.header.length with
    | .error e => (.error (.document e), report)
    | .ok (page, _) => (.ok (), report.setPage (report.pages.length - 1) page)

/-- Moves a line that was pushed off a page to the pages after it. -/
def relocate (report : Report) (index : Nat) (line : Line) : Except FillError Unit × Report :=
  match cascade line (report.pages.drop (index + 1)) with
  | .error e => (.error (.document e), report)
  | .ok (later, out) =>
    let report := { report with pages := report.pages.take (index + 1) ++ later }
    match out with
    | none => (.ok (), report)
    | some line => report.overflowToNewPage line

/-- Inserts a line into the content of a page and moves what that pushes off. -/
def place (report : Report) (index position : Nat) (line : Line) :
    Except FillError Unit × Report :=
  match report.pages[index]? with
  | none => (.ok (), report)
  | some page =>
    match page.insert line (page.header.length + position) with
    | .error e => (.error (.document e), report)
    | .ok (page, none) => (.ok (), report.setPage index page)
    | .ok (page, some evicted) => (report.setPage index page).relocate index evicted

/-- Places lines, given last to first, at one position of a page. -/
def placeAll (report : Report) (index position : Nat) :
    List Line → Except FillError Unit × Report
  | [] => (.ok (), report)
  | line :: rest =>
    match report.place index position line with
    | (.error e, report) => (.error e, report)
    | (.ok (), report) => report.placeAll index position rest

/-- Puts lines where a marker was. -/
def splice (report : Report) (index position : Nat) (lines : List Line) :
    Except FillError Unit × Report :=
  report.placeAll index position lines.reverse

end Platen.Report
