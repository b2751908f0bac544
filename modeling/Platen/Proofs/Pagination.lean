import Platen.Proofs.Reflow
import Platen.Report.Section

/-!
# Appending lines as a reflow

Lines are appended one at a time, and a full page is followed by a new one.  Over a whole run of
lines this is the same reflow as a splice at the end of the last page: the last page is filled, and
what finds no room is cut into new pages.

Main results:

- Theorem `appendAll_eq_reflowed`: appending lines to a report that grows at its last page succeeds
  and is the reflow of that page.
- Theorem `appendAll_of_pages_nil`: the same for a report without pages.
- Theorems `appendTexts_eq_appendAll` and `appendBlanks_eq_appendAll`: the two ways in which the
  layout of a section appends lines.
-/

namespace Platen

namespace Page

/-- A page with room for one more content line takes it. -/
theorem append_eq {page : Page} (hroom : Admits page.capacity (page.content.length + 1))
    (line : Line) : page.append line = .ok { page with content := page.content ++ [line] } := by
  have hopen : ¬page.pageLength.any (· ≤ page.size) = true := by
    cases hlength : page.pageLength with
    | none => simp
    | some length =>
        have hle : page.content.length + 1 ≤
            length - (page.header.length + page.footer.length) :=
          hroom _ (by simp [capacity, hlength])
        have hlt : page.size < length := by
          rw [size]
          omega
        simpa using hlt
  rw [append, if_neg hopen]

/-- A page with room for content is full exactly when its content is as long as its capacity. -/
theorem isFull_iff {page : Page} (hroom : page.capacity ≠ some 0) :
    page.isFull = true ↔ page.capacity = some page.content.length := by
  cases hlength : page.pageLength with
  | none => simp [isFull, capacity, hlength]
  | some length =>
      have hfull : page.isFull = true ↔ page.size = length := by
        simp [isFull, hlength]
      have hpos : length - (page.header.length + page.footer.length) ≠ 0 := by
        intro hzero
        exact hroom (by simp [capacity, hlength, hzero])
      rw [hfull, capacity, hlength, Option.map_some, Option.some.injEq, size]
      omega

/-- A page that fits and is not full has room for one more content line. -/
theorem Fits.admits_succ {page : Page} (hfits : page.Fits)
    (hopen : page.capacity ≠ some page.content.length) :
    Admits page.capacity (page.content.length + 1) := by
  intro n hn
  have hle : page.content.length ≤ n := hfits n hn
  have hne : page.content.length ≠ n := fun h => hopen (by rw [hn, h])
  omega

end Page

namespace Report

/-- Appends lines one after the other, none of them plain. -/
def appendAll (report : Report) : List Line → Except DocumentError Unit × Report
  | [] => (.ok (), report)
  | line :: lines =>
      match report.append line false with
      | (.error e, report) => (.error e, report)
      | (.ok (), report) => appendAll report lines

/-- Lines of text are appended like any lines. -/
theorem appendTexts_eq_appendAll (report : Report) (texts : List String) :
    report.appendTexts texts = report.appendAll (texts.map Line.ofText) := by
  induction texts generalizing report with
  | nil => rfl
  | cons text texts ih =>
      rw [List.map_cons, appendTexts, appendAll]
      cases report.append (Line.ofText text) false with
      | mk result after =>
          cases result with
          | error e => rfl
          | ok _ => exact ih after

/-- Empty lines are appended like any lines. -/
theorem appendBlanks_eq_appendAll (report : Report) (n : Nat) :
    Section.appendBlanks report n = report.appendAll (List.replicate n Line.blank) := by
  induction n generalizing report with
  | zero => rfl
  | succ n ih =>
      rw [List.replicate_succ, Section.appendBlanks, appendAll]
      cases report.append Line.blank false with
      | mk result after =>
          cases result with
          | error e => rfl
          | ok _ => exact ih after

/-- Appending one run of lines and then another. -/
theorem appendAll_append (report : Report) (lines rest : List Line) :
    report.appendAll (lines ++ rest) =
      match report.appendAll lines with
      | (.error e, report) => (.error e, report)
      | (.ok (), report) => report.appendAll rest := by
  induction lines generalizing report with
  | nil => rfl
  | cons line lines ih =>
      simp only [List.cons_append, appendAll]
      split <;> simp_all

/-- If the header and footer of a report leave room on its pages, new pages have room. -/
theorem capacity_nextPage_ne_zero {report : Report}
    (hroom : ∀ length, report.format.pageLength = some length →
      report.header.length + report.footer.length < length) (plain : Bool) :
    (report.nextPage plain).capacity ≠ some 0 := by
  intro hzero
  simp only [nextPage, Page.capacity, Option.map_eq_some_iff] at hzero
  rcases hzero with ⟨length, hlength, hnone⟩
  have hlt := hroom length hlength
  cases plain <;> simp at hnone <;> omega

/-- A report without pages needs one. -/
theorem needsPage_of_pages_nil {report : Report} (hpages : report.pages = []) :
    report.needsPage = true := by
  cases hcurrent : report.current <;> simp [needsPage, currentPage?, hcurrent, hpages]

/-- The report in which a line stands alone on a new page, and no break is asked for any more. -/
def openedWith (report : Report) (line : Line) (plain : Bool) : Report :=
  { report with
    lastPageNumber := report.lastPageNumber + 1
    pages := report.pages ++ [{ report.nextPage plain with content := [line] }]
    current := some report.pages.length
    breakRequested := false }

/-- A line that needs a new page stands alone on it, if such a page has room. -/
theorem append_eq_openedWith {report : Report} (hneeds : report.needsPage = true) {plain : Bool}
    (hroom : (report.nextPage plain).capacity ≠ some 0) (line : Line) :
    report.append line plain = (.ok (), report.openedWith line plain) := by
  have hfits : (report.nextPage plain).Fits := Page.fits_of_content_nil rfl
  have happend : ({ report with breakRequested := false }.nextPage plain).append line =
      .ok { report.nextPage plain with content := [line] } :=
    Page.append_eq (hfits.admits_succ hroom) line
  simp only [append, if_pos hneeds, newPage, Option.getD_some, List.getElem?_concat_length,
    happend]
  simp [setPage, openedWith]

theorem append_of_needsPage {report : Report} (hneeds : report.needsPage = true)
    (hroom : (report.nextPage false).capacity ≠ some 0) (line : Line) :
    report.append line false = (.ok (), { report with breakRequested := false }.withPage line) :=
  append_eq_openedWith hneeds hroom line

/-- A line that needs no new page is appended to the last page, if this is the current one and has
room. -/
theorem append_to_last {report : Report} {before : List Page} {page : Page}
    (hpages : report.pages = before ++ [page]) (hcurrent : report.current = some before.length)
    (hneeds : ¬report.needsPage = true)
    (hroom : Admits page.capacity (page.content.length + 1)) (line : Line) (plain : Bool) :
    report.append line plain =
      (.ok (), report.setPage before.length { page with content := page.content ++ [line] }) := by
  have hget : report.pages[before.length]? = some page := by
    simp [hpages]
  simp only [append, if_neg hneeds, hcurrent, Option.getD_some, hget, Page.append_eq hroom]

/-- A report that grows at its last page: lines go to that page as long as it has room and then to
new pages, which have room too. -/
structure Growing (report : Report) (before : List Page) (page : Page) : Prop where
  pages_eq : report.pages = before ++ [page]
  current_eq : report.current = some before.length
  no_break : report.breakRequested = false
  fits : page.Fits
  room : page.capacity ≠ some 0
  new_room : (report.nextPage false).capacity ≠ some 0

namespace Growing

variable {report : Report} {before : List Page} {page : Page}

theorem getElem?_eq (hgrowing : report.Growing before page) :
    report.pages[before.length]? = some page := by
  simp [hgrowing.pages_eq]

/-- A new page is needed exactly when the last page is full. -/
theorem needsPage_iff (hgrowing : report.Growing before page) :
    report.needsPage = true ↔ page.capacity = some page.content.length := by
  rw [← Page.isFull_iff hgrowing.room]
  simp [needsPage, currentPage?, hgrowing.current_eq, hgrowing.getElem?_eq, hgrowing.no_break]

/-- While the last page has room, a line is appended to it. -/
theorem append_of_open (hgrowing : report.Growing before page)
    (hopen : page.capacity ≠ some page.content.length) (line : Line) :
    report.append line false =
      (.ok (), report.setPage before.length { page with content := page.content ++ [line] }) :=
  append_to_last hgrowing.pages_eq hgrowing.current_eq
    (fun hneeds => hopen (hgrowing.needsPage_iff.mp hneeds)) (hgrowing.fits.admits_succ hopen) line
    false

/-- When the last page is full, a line is appended to a new page. -/
theorem append_of_full (hgrowing : report.Growing before page)
    (hfull : page.capacity = some page.content.length) (line : Line) :
    report.append line false = (.ok (), report.withPage line) := by
  have hneeds : report.needsPage = true := hgrowing.needsPage_iff.mpr hfull
  rw [append_of_needsPage hneeds hgrowing.new_room, ← hgrowing.no_break]

/-- The report still grows at its last page after that page took a line. -/
theorem of_open (hgrowing : report.Growing before page)
    (hopen : page.capacity ≠ some page.content.length) (line : Line) :
    (report.setPage before.length { page with content := page.content ++ [line] }).Growing before
      { page with content := page.content ++ [line] } where
  pages_eq := by simp [setPage, hgrowing.pages_eq]
  current_eq := hgrowing.current_eq
  no_break := hgrowing.no_break
  fits := by
    have hadmits := hgrowing.fits.admits_succ hopen
    rw [Page.Fits, List.length_append]
    exact hadmits
  room := hgrowing.room
  new_room := hgrowing.new_room

end Growing

/-- A report that was given a new page grows at that page. -/
theorem growing_withPage {report : Report} (hbreak : report.breakRequested = false)
    (hroom : (report.nextPage false).capacity ≠ some 0) (line : Line) :
    (report.withPage line).Growing report.pages
      (report.seeded (report.lastPageNumber + 1) [line]) where
  pages_eq := rfl
  current_eq := rfl
  no_break := hbreak
  fits := by
    intro n hn
    have hpos : n ≠ 0 := fun h => hroom (by rw [← h, ← hn]; rfl)
    exact Nat.pos_of_ne_zero hpos
  room := hroom
  new_room := hroom

/-- Filling the page that was added for the first of some lines is the same as cutting all of them
into new pages. -/
theorem reflowed_withPage {report : Report} (hroom : (report.nextPage false).capacity ≠ some 0)
    (line : Line) (lines : List Line) :
    (report.withPage line).reflowed report.pages
        (report.seeded (report.lastPageNumber + 1) [line]) [] (line :: lines) =
      report.poured report.pages (line :: lines) [] := by
  have hnew : report.newPages (line :: lines) =
      (report.seeded (report.lastPageNumber + 1) []).refill (line :: lines) ::
        (report.withPage line).newPages
          ((report.seeded (report.lastPageNumber + 1) [line]).spill (line :: lines)) :=
    freshPages_chunks hroom (report.lastPageNumber + 1) (List.cons_ne_nil line lines)
  simp only [reflowed, poured, overflow, reflow, hnew, List.nil_append, List.length_cons,
    List.length_append, List.length_nil, Report.mk.injEq]
  refine ⟨rfl, rfl, rfl, ?_, ?_, ?_, rfl⟩
  · rw [List.append_assoc]
    rfl
  · simp only [withPage]
    omega
  · rw [if_neg (Nat.succ_ne_zero _)]
    split
    · rename_i hnone
      rw [hnone]
      rfl
    · exact congrArg some (by omega)

/-- A full page passes all further lines on to new pages. -/
theorem reflowed_of_full {report : Report} {before : List Page} {page : Page}
    (hfull : page.capacity = some page.content.length) (lines : List Line) :
    report.reflowed before page [] (page.content ++ lines) =
      report.poured (before ++ [page]) lines [] := by
  have hrefill : page.refill (page.content ++ lines) = page := by
    rw [Page.refill, hfull, within, List.take_left]
  have hspill : page.spill (page.content ++ lines) = lines := by
    rw [Page.spill, hfull, beyond, List.drop_left]
  rw [reflowed, hrefill, hspill]

/-- Lines that are appended to a report that grows at its last page refill that page. -/
theorem appendAll_eq_reflowed {report : Report} {before : List Page} {page : Page}
    (hgrowing : report.Growing before page) (lines : List Line) :
    report.appendAll lines =
      (.ok (), report.reflowed before page [] (page.content ++ lines)) := by
  induction lines generalizing report before page with
  | nil =>
      rw [List.append_nil, reflowed, hgrowing.fits.refill_content, hgrowing.fits.spill_content,
        poured_nil (by simp [hgrowing.pages_eq]) (by simp)]
      rfl
  | cons line lines ih =>
      by_cases hfull : page.capacity = some page.content.length
      · simp only [appendAll, hgrowing.append_of_full hfull line]
        rw [ih (growing_withPage hgrowing.no_break hgrowing.new_room line),
          reflowed_of_full hfull, ← hgrowing.pages_eq]
        exact congrArg _ (reflowed_withPage hgrowing.new_room line lines)
      · simp only [appendAll, hgrowing.append_of_open hfull line]
        rw [ih (hgrowing.of_open hfull line), List.append_assoc]
        rfl

/-- Appending lines to a report without pages succeeds and cuts the lines into new pages. -/
theorem appendAll_of_pages_nil {report : Report} (hpages : report.pages = [])
    (hbreak : report.breakRequested = false)
    (hroom : (report.nextPage false).capacity ≠ some 0) (lines : List Line) :
    report.appendAll lines = (.ok (), report.poured [] lines []) := by
  cases lines with
  | nil =>
      rw [poured_nil (by simp [hpages]) (by simp)]
      rfl
  | cons line lines =>
      have hneeds : report.needsPage = true := needsPage_of_pages_nil hpages
      have hself : { report with breakRequested := false } = report := by
        rw [← hbreak]
      simp only [appendAll, append_of_needsPage hneeds hroom, hself]
      have hfill := reflowed_withPage hroom line lines
      rw [hpages] at hfill
      rw [appendAll_eq_reflowed (growing_withPage hbreak hroom line), hpages]
      exact congrArg _ hfill

end Report

end Platen
