import Platen.Directive
import Platen.Expansion

/-!
# Filling a report

The markers of a report are expanded, its lines are numbered, every line is rendered and its
directives are carried out, and the pages are framed by the commands of the device.  Either every
placeholder resolves or nothing is returned.
-/

namespace Platen

/-- How a report is filled. -/
structure Job where
  device : Device := .plain
  resolver : Resolver

/-- The place of a line as directives see it; lines that are not numbered stand at zero. -/
def Line.position (line : Line) (page : Nat) : Position :=
  { page, line := line.number.getD 0, globalLine := line.globalNumber.getD 0 }

namespace Job

/-- The text of a line and the styles after it. -/
def renderLine (job : Job) (sources : List Source) (page : Nat) (styles : Styles) (line : Line) :
    Resolving (String × Styles) := do
  let text ← job.resolver.renderText line.text sources
  return styles.apply text (line.position page) job.device

/-- The texts of lines and the styles after them. -/
def renderLines (job : Job) (sources : List Source) (page : Nat) (styles : Styles) :
    List Line → Resolving (List String × Styles)
  | [] => return ([], styles)
  | line :: rest => do
    let (text, styles) ← job.renderLine sources page styles line
    let (texts, styles) ← job.renderLines sources page styles rest
    return (text :: texts, styles)

/-- The texts of the lines of pages. -/
def renderPages (job : Job) (sources : List Source) (styles : Styles) :
    List Page → Resolving (List (List String))
  | [] => return []
  | page :: rest => do
    let (texts, styles) ← job.renderLines sources page.number styles page.lines
    return texts :: (← job.renderPages sources styles rest)

/-- The output with the end of a page after it: a line break, or else a page break unless the output
ends with one already. -/
def endPage (device : Device) (format : PageFormat) (out : String) : String :=
  if !format.autoFormFeed then out ++ device.lineBreak format
  else if Text.endsWith out device.pageBreak then out
  else out ++ device.pageBreak

/-- The output of rendered pages with all commands of the device. -/
def frame (device : Device) (format : PageFormat) (pages : List (List String)) : String :=
  let out := pages.foldl
    (fun out texts =>
      endPage device format (out ++ String.intercalate (device.lineBreak format) texts))
    (device.preamble format)
  (if format.autoFormFeed then endPage device format out else out) ++ device.closing

/-- The sources that a report is filled from: without any, all members are blank. -/
def activeSources (sources : List Source) : List Source :=
  if sources.isEmpty then [.blank] else sources

/-- The report that is printed: its markers expanded and its lines numbered. -/
def working (job : Job) (report : Report) (sources : List Source) :
    Except FillError Report × Memory :=
  if report.hasMarkers then
    let expansion := report.expand job.resolver (activeSources sources) []
    (expansion.outcome.map fun () => expansion.report.numbered, expansion.memory)
  else (.ok report.numbered, [])

/-- The output of a report filled from ranked sources. -/
def fill (job : Job) (report : Report) (sources : List Source) : Except FillError String :=
  match job.working report sources with
  | (.error e, _) => .error e
  | (.ok report, memory) =>
    match (job.renderPages (activeSources sources) {} report.pages).run.run memory with
    | (.error e, _) => .error e
    | (.ok pages, _) => .ok (frame job.device report.format pages)

end Job

end Platen
