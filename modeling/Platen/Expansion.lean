import Platen.Report.Section
import Platen.Report.Splice
import Platen.Resolver
import Platen.WrapBuffer

/-!
# Expanding tables and lists

Every marker of a report is taken out in turn, its rows are resolved and laid out as a section, and
the lines of the section are spliced in where it was.  A row is resolved against its own data alone.
-/

namespace Platen

/-- The rows behind a member path: the items of a list, none for missing data, and any other value
as a single row. -/
def resolveRows (name : String) (sources : List Source) : Except FillError (List Value) :=
  match Source.resolve? sources name with
  | none => .error (.invalidPlaceholder name (.missingMember name))
  | some (.list rows) => .ok rows
  | some .null => .ok []
  | some row => .ok [row]

/-- Where the text of a cell stands: as its placeholder says, else as its column says, else to the
right if it is a number. -/
def Column.cellAlignment (column : Column) (cell : Cell) : Alignment :=
  (cell.alignment.or column.alignment).getD (if cell.numeric then .right else .left)

namespace Table

/-- The cells of a row from column `index` on.  What does not fit into a wrapped cell waits in the
buffer. -/
def rowCells (table : Table) (r : Resolver) (sources : List Source) (index : Nat)
    (buffer : WrapBuffer) : List Column → Resolving (List String × WrapBuffer)
  | [] => return ([], buffer)
  | column :: columns => do
    let cell ← r.cell column.text sources
    let width := table.cellWidth column
    let (shown, buffer) :=
      if column.wrap then buffer.add index cell.text width
      else (Text.pad cell.text width (column.cellAlignment cell), buffer)
    let (cells, buffer) ← table.rowCells r sources (index + 1) buffer columns
    return (shown :: cells, buffer)

/-- The lines of rows: one for the cells of each row and further ones for what waits. -/
def rowLinesFrom (table : Table) (r : Resolver) (buffer : WrapBuffer) :
    List Value → Resolving (List String)
  | [] => return []
  | row :: rows => do
    let (cells, buffer) ← table.rowCells r [Source.ofRow row] 0 buffer table.columns
    let (further, buffer) := buffer.flush table.cellWidths
    let rest ← table.rowLinesFrom r buffer rows
    return table.joinCells cells :: further.map table.joinCells ++ rest

/-- The lines of the rows of a table. -/
def rowLines (table : Table) (r : Resolver) (rows : List Value) : Resolving (List String) :=
  table.rowLinesFrom r [] rows

end Table

/-- The lines of the rows of a list. -/
def Listing.rowLines (listing : Listing) (r : Resolver) : List Value → Resolving (List String)
  | [] => return []
  | row :: rows => do
    let line ← r.renderText listing.template [Source.ofRow row]
    return line :: (← listing.rowLines r rows)

/-- The lines that take the place of a marker. -/
def Line.sectionLines (line : Line) (r : Resolver) (sources : List Source) (slot : Slot) :
    Resolving (List Line) := do
  match line.content with
  | .table table =>
    let rows ← resolveRows table.source sources
    let body ← table.rowLines r rows
    Section.layout table.frameTop table.frameBottom body slot
  | .list listing =>
    let rows ← resolveRows listing.source sources
    let body ← listing.rowLines r rows
    Section.layout listing.header listing.footer body slot
  | .text _ | .empty => return []

/-- The state of a report after its markers were expanded, or after the expansion failed. -/
structure Expansion where
  report : Report
  memory : Memory
  outcome : Except FillError Unit

namespace Report

/-- The first marker with its place, and the report without it. -/
def takeMarker? (report : Report) : Option (Nat × Slot × Line × Report) := do
  let (index, offset) ← report.marker?
  let page ← report.pages[index]?
  let (marker, rest) ← page.remove offset
  some (index, { page := page.number, offset, budget := page.capacity }, marker,
    report.setPage index rest)

/-- Expands the first `count` markers of a report. -/
def expandFirst (r : Resolver) (sources : List Source) :
    Nat → Report → Memory → Expansion
  | 0, report, memory => ⟨report, memory, .ok ()⟩
  | count + 1, report, memory =>
    match report.takeMarker? with
    | none => ⟨report, memory, .ok ()⟩
    | some (index, slot, marker, report) =>
      match (marker.sectionLines r sources slot).run.run memory with
      | (.error e, memory) => ⟨report, memory, .error e⟩
      | (.ok lines, memory) =>
        match report.splice index slot.offset lines with
        | (.error e, report) => ⟨report, memory, .error e⟩
        | (.ok (), report) => expandFirst r sources count report memory

/-- Expands every marker of a report, first to last. -/
def expand (report : Report) (r : Resolver) (sources : List Source) (memory : Memory) :
    Expansion :=
  expandFirst r sources report.markerCount report memory

end Report

end Platen
