import Platen.Report.Page
import Platen.Settings

/-!
# Reports

A report is a list of pages that grows at its end.  Lines are appended to the current page; a new
page is started when there is none, when the current one is full, or when a break was asked for.
New pages get the header and footer of the report, unless they are to be plain.
-/

namespace Platen

/-- A report. -/
structure Report where
  format : PageFormat := {}
  header : List String := []
  footer : List String := []
  pages : List Page := []
  lastPageNumber : Nat := 0
  /-- The index of the page that lines are appended to. -/
  current : Option Nat := none
  breakRequested : Bool := false
  deriving DecidableEq, Repr

namespace Report

/-- A report whose pages have a given length. -/
def bounded (pageLength : Nat) : Report :=
  { format := { pageLength := some pageLength } }

/-- The report with another header for new pages. -/
def withHeader (report : Report) (header : List String) : Report :=
  { report with header }

/-- The report with another footer for new pages. -/
def withFooter (report : Report) (footer : List String) : Report :=
  { report with footer }

/-- The page that lines are appended to. -/
def currentPage? (report : Report) : Option Page :=
  report.current.bind (report.pages[·]?)

/-- The page that would be started next. -/
def nextPage (report : Report) (plain : Bool) : Page :=
  { number := report.lastPageNumber + 1
    pageLength := report.format.pageLength
    header := if plain then [] else report.header.map Line.ofText
    footer := if plain then [] else report.footer.map Line.ofText }

/-- The report with a new page, which becomes the current one. -/
def newPage (report : Report) (plain : Bool) : Report :=
  { report with
    lastPageNumber := report.lastPageNumber + 1
    pages := report.pages ++ [report.nextPage plain]
    current := some report.pages.length }

/-- The report that starts a new page with the next appended line. -/
def requestBreak (report : Report) : Report :=
  { report with breakRequested := true }

/-- Whether the next appended line starts a new page. -/
def needsPage (report : Report) : Bool :=
  match report.currentPage? with
  | none => true
  | some page => report.breakRequested || page.isFull

/-- The report with one page replaced. -/
def setPage (report : Report) (index : Nat) (page : Page) : Report :=
  { report with pages := report.pages.set index page }

/-- Appends a line.  A page that was started for it stays even if the line does not fit on it. -/
def append (report : Report) (line : Line) (plain : Bool) :
    Except DocumentError Unit × Report :=
  let report :=
    if report.needsPage then { report with breakRequested := false }.newPage plain else report
  let index := report.current.getD 0
  match report.pages[index]? with
  | none => (.ok (), report)
  | some page =>
    match page.append line with
    | .error e => (.error e, report)
    | .ok page => (.ok (), report.setPage index page)

/-- Appends lines of text one after the other. -/
def appendTexts (report : Report) : List String → Except DocumentError Unit × Report
  | [] => (.ok (), report)
  | text :: texts =>
    match report.append (Line.ofText text) false with
    | (.error e, report) => (.error e, report)
    | (.ok (), report) => appendTexts report texts

/-- Whether a report has markers. -/
def hasMarkers (report : Report) : Bool :=
  report.pages.any (·.markerIndex?.isSome)

/-- The page index and content index of the first marker from a page on. -/
def markerFrom? (index : Nat) : List Page → Option (Nat × Nat)
  | [] => none
  | page :: rest =>
    match page.markerIndex? with
    | some position => some (index, position)
    | none => markerFrom? (index + 1) rest

/-- The page index and content index of the first marker. -/
def marker? (report : Report) : Option (Nat × Nat) :=
  markerFrom? 0 report.pages

/-- The number of markers in a report. -/
def markerCount (report : Report) : Nat :=
  (report.pages.flatMap (·.content)).countP Line.isMarker

/-- Pages with their lines numbered; `next` is the number of the first line in the report. -/
def numberPages (next : Nat) : List Page → List Page
  | [] => []
  | page :: rest => page.numbered (some next) :: numberPages (next + page.size) rest

/-- The report with all its lines numbered from 1. -/
def numbered (report : Report) : Report :=
  { report with pages := numberPages 1 report.pages }

/-- The number of lines in a report. -/
def lineCount (report : Report) : Nat :=
  (report.pages.flatMap Page.lines).length

end Report

end Platen
