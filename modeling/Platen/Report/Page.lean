import Platen.Error
import Platen.Report.Line

/-!
# Pages

A page has header, content and footer lines, and a length when the paper is cut into pages.  Lines
are appended while there is room; an insertion into a full page pushes its last content line off.
-/

namespace Platen

/-- A page of a report. -/
structure Page where
  number : Nat
  pageLength : Option Nat
  header : List Line
  content : List Line := []
  footer : List Line
  deriving DecidableEq, Repr

namespace Page

/-- The lines of a page in print order. -/
def lines (page : Page) : List Line :=
  page.header ++ page.content ++ page.footer

/-- The number of lines of a page. -/
def size (page : Page) : Nat :=
  page.header.length + page.content.length + page.footer.length

/-- Whether a page has no lines. -/
def isEmpty (page : Page) : Bool :=
  page.size == 0

/-- Whether a page has exactly as many lines as its length. -/
def isFull (page : Page) : Bool :=
  page.pageLength.any (page.size == ·)

/-- Whether a page has more lines than its length. -/
def isOverflow (page : Page) : Bool :=
  page.pageLength.any (· < page.size)

/-- The number of content lines that a page can hold; none if there is no limit. -/
def capacity (page : Page) : Option Nat :=
  page.pageLength.map (· - (page.header.length + page.footer.length))

/-- A page with one more content line at its end. -/
def append (page : Page) (line : Line) : Except DocumentError Page :=
  if page.pageLength.any (· ≤ page.size) then .error (.pageFull page.number)
  else .ok { page with content := page.content ++ [line] }

/-- A page with a line inserted at a position counted from the first header line, and the content
line that this pushes off the page. -/
def insert (page : Page) (line : Line) (position : Nat) :
    Except DocumentError (Page × Option Line) :=
  let start := page.header.length
  if position < start || start + page.content.length < position then
    .error (.positionOutOfRange page.number position)
  else
    let grown := { page with content := page.content.insertIdx (position - start) line }
    if grown.isOverflow then
      .ok ({ grown with content := grown.content.dropLast }, grown.content.getLast?)
    else .ok (grown, none)

/-- The content line at an index, and the page without it. -/
def remove (page : Page) (index : Nat) : Option (Line × Page) :=
  page.content[index]?.map fun line =>
    (line, { page with content := page.content.eraseIdx index })

/-- The index of the first marker in the content. -/
def markerIndex? (page : Page) : Option Nat :=
  page.content.findIdx? Line.isMarker

/-- Lines numbered from an index on. -/
def numberFrom (index : Nat) (firstGlobal : Option Nat) : List Line → List Line
  | [] => []
  | line :: rest => line.numbered index firstGlobal :: numberFrom (index + 1) firstGlobal rest

/-- A page with its lines numbered, and numbered in the report too if the number of its first line
is given. -/
def numbered (page : Page) (firstGlobal : Option Nat) : Page :=
  let afterHeader := page.header.length
  { page with
    header := numberFrom 0 firstGlobal page.header
    content := numberFrom afterHeader firstGlobal page.content
    footer := numberFrom (afterHeader + page.content.length) firstGlobal page.footer }

end Page

end Platen
