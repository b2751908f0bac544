import Platen.Expansion
import Platen.Proofs.Reflow

/-!
# The first marker of a report

Expansion takes the markers of a report from first to last.  This module says where the first marker
stands: everything before it, on its page and on earlier pages, is static.

Main results:

- Theorem `Report.takeMarker?_eq_some`: the marker that is taken out splits the pages and the
  content of its page, with static lines in front of it.
- Theorem `Report.takeMarker?_eq_none_iff`: no marker is taken out exactly when all lines are
  static.
- Theorem `Report.expandFirst_invariant`: what each step of an expansion preserves, the expansion
  preserves.
-/

namespace Platen

/-- Lines without a marker. -/
def Static (lines : List Line) : Prop :=
  ∀ line ∈ lines, line.isMarker = false

/-- An empty list of lines is static. -/
@[simp]
theorem static_nil : Static [] := by
  simp [Static]

/-- Lines are static if both their parts are. -/
@[simp]
theorem static_append {xs ys : List Line} : Static (xs ++ ys) ↔ Static xs ∧ Static ys := by
  simp only [Static, List.mem_append, or_imp, forall_and]

/-- Lines of text are static. -/
theorem static_map_ofText (texts : List String) : Static (texts.map Line.ofText) := by
  intro line hline
  rcases List.mem_map.mp hline with ⟨text, -, rfl⟩
  rfl

/-- Lines are static if there are no markers to count. -/
theorem static_iff_countP_eq_zero {lines : List Line} :
    Static lines ↔ lines.countP Line.isMarker = 0 := by
  simp only [Static, List.countP_eq_zero, Bool.not_eq_true]

/-- There is no marker among static lines. -/
theorem filter_isMarker_eq_nil {lines : List Line} (hstatic : Static lines) :
    lines.filter Line.isMarker = [] := by
  rw [List.filter_eq_nil_iff]
  intro line hline
  simp [hstatic line hline]

namespace Page

/-- The first marker of a page splits its content, with static lines in front of it. -/
theorem markerIndex?_eq_some {page : Page} {offset : Nat}
    (hindex : page.markerIndex? = some offset) :
    ∃ above marker below, page.content = above ++ marker :: below ∧ above.length = offset ∧
      Static above ∧ marker.isMarker = true := by
  rw [markerIndex?, List.findIdx?_eq_some_iff_getElem] at hindex
  rcases hindex with ⟨hlt, hmarker, hbefore⟩
  refine ⟨page.content.take offset, page.content[offset], page.content.drop (offset + 1),
    ?_, ?_, ?_, hmarker⟩
  · rw [← List.drop_eq_getElem_cons hlt, List.take_append_drop]
  · simp only [List.length_take]
    omega
  · intro line hline
    rcases List.getElem_of_mem hline with ⟨i, hi, rfl⟩
    simp only [List.length_take] at hi
    simpa using hbefore i (by omega)

/-- A page has no marker exactly when its content is static. -/
theorem markerIndex?_eq_none_iff {page : Page} :
    page.markerIndex? = none ↔ Static page.content := by
  simp [markerIndex?, Static]

end Page

namespace Report

/-- The first page with a marker splits the pages, with static pages in front of it. -/
theorem markerFrom?_eq_some {start index offset : Nat} {pages : List Page}
    (hmarker : markerFrom? start pages = some (index, offset)) :
    ∃ before page later, pages = before ++ page :: later ∧ index = start + before.length ∧
      Static (before.flatMap Page.content) ∧ page.markerIndex? = some offset := by
  induction pages generalizing start with
  | nil => simp [markerFrom?] at hmarker
  | cons page rest ih =>
      simp only [markerFrom?] at hmarker
      cases hpage : page.markerIndex? with
      | some position =>
          simp only [hpage, Option.some.injEq, Prod.mk.injEq] at hmarker
          rcases hmarker with ⟨rfl, rfl⟩
          exact ⟨[], page, rest, rfl, rfl, static_nil, hpage⟩
      | none =>
          simp only [hpage] at hmarker
          rcases ih hmarker with ⟨before, found, later, rfl, rfl, hstatic, hfound⟩
          refine ⟨page :: before, found, later, rfl, ?_, ?_, hfound⟩
          · rw [List.length_cons]
            omega
          · rw [List.flatMap_cons, static_append]
            exact ⟨Page.markerIndex?_eq_none_iff.mp hpage, hstatic⟩

/-- No marker is found exactly if the lines of all pages are static. -/
theorem markerFrom?_eq_none_iff {start : Nat} {pages : List Page} :
    markerFrom? start pages = none ↔ Static (pages.flatMap Page.content) := by
  induction pages generalizing start with
  | nil => simp [markerFrom?]
  | cons page rest ih =>
      rw [List.flatMap_cons, static_append, ← Page.markerIndex?_eq_none_iff, ← @ih (start + 1)]
      simp only [markerFrom?]
      cases page.markerIndex? <;> simp

/-- Where the first marker of a report stands. -/
structure FirstMarker (report : Report) (marker : Line) where
  before : List Page
  page : Page
  later : List Page
  above : List Line
  below : List Line
  pages_eq : report.pages = before ++ page :: later
  content_eq : page.content = above ++ marker :: below
  static_before : Static (before.flatMap Page.content)
  static_above : Static above
  isMarker : marker.isMarker = true

namespace FirstMarker

variable {report : Report} {marker : Line}

/-- The page of the marker without it. -/
def rest (place : FirstMarker report marker) : Page :=
  { place.page with content := place.above ++ place.below }

/-- What the layout of the section has to know about the place. -/
def slot (place : FirstMarker report marker) : Slot :=
  { page := place.page.number, offset := place.above.length, budget := place.page.capacity }

end FirstMarker

/-- Removing a marker from its page leaves the lines above and below it. -/
theorem remove_of_content_eq {page : Page} {above below : List Line} {marker : Line}
    (hcontent : page.content = above ++ marker :: below) :
    page.remove above.length = some (marker, { page with content := above ++ below }) := by
  simp [Page.remove, hcontent, List.eraseIdx_append_of_length_le]

/-- A report with a marker has a first one, and that one is taken out. -/
theorem takeMarker?_of_marker? {report : Report} {index offset : Nat}
    (hmarker : report.marker? = some (index, offset)) :
    ∃ (marker : Line) (place : FirstMarker report marker),
      report.takeMarker? = some (place.before.length, place.slot, marker,
        report.setPage place.before.length place.rest) := by
  rcases markerFrom?_eq_some hmarker with ⟨before, page, later, hpages, hindex, hbefore, hpage⟩
  rcases Page.markerIndex?_eq_some hpage with
    ⟨above, marker, below, hcontent, hoffset, habove, hisMarker⟩
  rw [Nat.zero_add] at hindex
  let place : FirstMarker report marker :=
    { before, page, later, above, below
      pages_eq := hpages
      content_eq := hcontent
      static_before := hbefore
      static_above := habove
      isMarker := hisMarker }
  have hget : report.pages[before.length]? = some page := by
    simp [hpages]
  refine ⟨marker, place, ?_⟩
  rw [takeMarker?, hmarker, hindex, ← hoffset]
  simp only [Option.bind_eq_bind, Option.bind_some, hget, remove_of_content_eq hcontent]
  rfl

/-- The marker that is taken out of a report is its first one. -/
theorem takeMarker?_eq_some {report rest : Report} {index : Nat} {slot : Slot} {marker : Line}
    (htake : report.takeMarker? = some (index, slot, marker, rest)) :
    ∃ place : FirstMarker report marker,
      index = place.before.length ∧ slot = place.slot ∧
        rest = report.setPage place.before.length place.rest := by
  cases hmarker : report.marker? with
  | none => simp [takeMarker?, hmarker] at htake
  | some found =>
      rcases takeMarker?_of_marker? hmarker with ⟨first, place, hfirst⟩
      rw [htake] at hfirst
      simp only [Option.some.injEq, Prod.mk.injEq] at hfirst
      rcases hfirst with ⟨hindex, hslot, rfl, hrest⟩
      exact ⟨place, hindex, hslot, hrest⟩

/-- No marker is taken out exactly when all lines are static. -/
theorem takeMarker?_eq_none_iff {report : Report} :
    report.takeMarker? = none ↔ Static report.contents := by
  rw [contents, ← @markerFrom?_eq_none_iff 0, ← marker?]
  cases hmarker : report.marker? with
  | none => simp [takeMarker?, hmarker]
  | some found =>
      rcases takeMarker?_of_marker? hmarker with ⟨first, place, hfirst⟩
      simp [hfirst]

/-! ## Invariants of an expansion -/

/-- What the placement of a line preserves, the placement of lines preserves, also if it fails. -/
theorem placeAll_invariant {P : Report → Prop} {index position : Nat}
    (hplace : ∀ report line, P report → P (report.place index position line).2) {report : Report}
    (hreport : P report) (lines : List Line) : P (report.placeAll index position lines).2 := by
  induction lines generalizing report with
  | nil => exact hreport
  | cons line rest ih =>
      have hplaced := hplace report line hreport
      simp only [placeAll]
      split
      · rename_i e report' hresult
        rw [hresult] at hplaced
        exact hplaced
      · rename_i report' hresult
        rw [hresult] at hplaced
        exact ih hplaced

/-- What is preserved when the first marker is taken out and when lines are spliced in its place, an
expansion preserves, wherever it ends. -/
theorem expandFirst_invariant {P : Report → Prop}
    (hstep : ∀ (report : Report) (marker : Line) (place : FirstMarker report marker), P report →
      P (report.setPage place.before.length place.rest) ∧
        ∀ lines, P ((report.setPage place.before.length place.rest).splice place.before.length
          place.slot.offset lines).2)
    {report : Report} (hreport : P report) (r : Resolver) (sources : List Source) (count : Nat)
    (memory : Memory) : P (report.expandFirst r sources count memory).report := by
  induction count generalizing report memory with
  | zero => exact hreport
  | succ count ih =>
      simp only [expandFirst]
      split
      · exact hreport
      · rename_i index slot marker rest htake
        rcases takeMarker?_eq_some htake with ⟨place, rfl, rfl, rfl⟩
        rcases hstep report marker place hreport with ⟨htaken, hsplice⟩
        split
        · exact htaken
        · rename_i lines memory' hlines
          have hspliced := hsplice lines
          split
          · rename_i e report' hresult
            rw [hresult] at hspliced
            exact hspliced
          · rename_i report' hresult
            rw [hresult] at hspliced
            exact ih hspliced memory'

end Report

end Platen
