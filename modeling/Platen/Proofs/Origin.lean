import Platen.Proofs.ExpansionRun
import Mathlib.Data.List.Infix
import Mathlib.Data.List.InsertIdx

/-!
# Where lines come from

An expansion moves lines between pages, starts pages and puts sections in the places of markers.
Whatever holds of all lines that it starts from and of all sections, holds of all lines in the end.
The statements hold of any report and do not need that pages are within their capacity.

Main results:

- Theorem `Report.Composed.placeAll`: placing lines adds these lines and header and footer lines of
  the report, but no others.
- Theorem `Report.Composed.expandFirst`: an expansion adds the lines of sections, and header and
  footer lines of the report, but no others.
-/

namespace Platen

variable {body frame : Line → Prop}

/-! ## Pages -/

/-- Whether all content lines of a page are of one kind and its header and footer lines of
another. -/
structure Page.Composed (body frame : Line → Prop) (page : Page) : Prop where
  content : ∀ line ∈ page.content, body line
  framed : ∀ line ∈ page.header ++ page.footer, frame line

namespace Page.Composed

variable {page page' : Page}

/-- A page whose content changes is composed as before if its new content is. -/
theorem of_sameFrame (hpage : page.Composed body frame) (hframe : page.SameFrame page')
    (hcontent : ∀ line ∈ page'.content, body line) : page'.Composed body frame where
  content := hcontent
  framed := by
    rw [hframe]
    exact hpage.framed

/-- The line that an insertion hands on is the one inserted or one of the page. -/
theorem insert (hpage : page.Composed body frame) {line : Line} (hline : body line)
    {position : Nat} {out : Option Line} (hinsert : page.insert line position = .ok (page', out)) :
    page'.Composed body frame ∧ ∀ last ∈ out, body last := by
  have hframe := sameFrame_insert hinsert
  have hgrown : ∀ other ∈ page.content.insertIdx (position - page.header.length) line,
      body other := by
    intro other hother
    rcases List.eq_or_mem_of_mem_insertIdx hother with rfl | hold
    · exact hline
    · exact hpage.content other hold
  unfold Page.insert at hinsert
  simp only at hinsert
  split at hinsert
  · contradiction
  · split at hinsert
    · cases hinsert
      refine ⟨hpage.of_sameFrame hframe fun other hother => ?_, fun last hlast => ?_⟩
      · exact hgrown other (List.mem_of_mem_dropLast hother)
      · exact hgrown last (List.mem_of_getLast? hlast)
    · cases hinsert
      exact ⟨hpage.of_sameFrame hframe hgrown, fun last hlast => by cases hlast⟩

end Page.Composed

namespace Report

/-- A cascade hands on the line it starts with or a line of the pages. -/
theorem composed_cascade {line : Line} {pages pages' : List Page} {out : Option Line}
    (hline : body line) (hpages : ∀ page ∈ pages, page.Composed body frame)
    (hcascade : cascade line pages = .ok (pages', out)) :
    (∀ page ∈ pages', page.Composed body frame) ∧ ∀ last ∈ out, body last := by
  induction pages generalizing line pages' out with
  | nil =>
      cases hcascade
      refine ⟨by simp, fun last hlast => ?_⟩
      cases hlast
      exact hline
  | cons page rest ih =>
      rcases List.forall_mem_cons.mp hpages with ⟨hpage, hrest⟩
      simp only [cascade] at hcascade
      split at hcascade
      · contradiction
      · rename_i page' hinsert
        cases hcascade
        exact ⟨List.forall_mem_cons.mpr ⟨(hpage.insert hline hinsert).1, hrest⟩,
          fun last hlast => by cases hlast⟩
      · rename_i page' evicted hinsert
        rcases hpage.insert hline hinsert with ⟨hpage', hevicted⟩
        split at hcascade
        · contradiction
        · rename_i later last hlater
          cases hcascade
          rcases ih (hevicted evicted rfl) hrest hlater with ⟨hlater', hlast⟩
          exact ⟨List.forall_mem_cons.mpr ⟨hpage', hlater'⟩, hlast⟩

/-! ## Reports -/

/-- Whether all content lines of a report are of one kind, and all header and footer lines, also
those of new pages, of another. -/
structure Composed (body frame : Line → Prop) (report : Report) : Prop where
  pages : ∀ page ∈ report.pages, page.Composed body frame
  seeds : ∀ text ∈ report.header ++ report.footer, frame (Line.ofText text)

namespace Composed

variable {report : Report}

/-- A page started next is composed of the header and footer of the report. -/
theorem nextPage (hreport : report.Composed body frame) :
    (report.nextPage false).Composed body frame where
  content := by simp [Report.nextPage]
  framed := by
    intro line hline
    have hmem : line ∈ (report.header ++ report.footer).map Line.ofText := by
      simpa [Report.nextPage] using hline
    rcases List.mem_map.mp hmem with ⟨text, htext, rfl⟩
    exact hreport.seeds text htext

/-- A report stays composed when a composed page takes the place of one of its pages. -/
theorem setPage (hreport : report.Composed body frame) (index : Nat) {page : Page}
    (hpage : page.Composed body frame) : (report.setPage index page).Composed body frame where
  pages := by
    intro other hother
    rcases List.mem_or_eq_of_mem_set hother with hold | rfl
    · exact hreport.pages other hold
    · exact hpage
  seeds := hreport.seeds

/-- A report stays composed when a page is started. -/
theorem newPage (hreport : report.Composed body frame) :
    (report.newPage false).Composed body frame where
  pages := by
    intro page hpage
    rcases List.mem_append.mp hpage with hold | hnew
    · exact hreport.pages page hold
    · rw [List.mem_singleton.mp hnew]
      exact hreport.nextPage
  seeds := hreport.seeds

/-- A report stays composed when a line goes onto a new page. -/
theorem overflowToNewPage (hreport : report.Composed body frame) {line : Line}
    (hline : body line) : (report.overflowToNewPage line).2.Composed body frame := by
  simp only [Report.overflowToNewPage]
  split
  · exact hreport.newPage
  · split
    · exact hreport.newPage
    · rename_i page' out hinsert
      exact hreport.newPage.setPage _ (hreport.nextPage.insert hline hinsert).1

/-- A report stays composed when a line is handed on to the next pages. -/
theorem relocate (hreport : report.Composed body frame) (index : Nat) {line : Line}
    (hline : body line) : (report.relocate index line).2.Composed body frame := by
  simp only [Report.relocate]
  split
  · exact hreport
  · rename_i later out hcascade
    have hdrop : ∀ page ∈ report.pages.drop (index + 1), page.Composed body frame :=
      fun page hpage => hreport.pages page (List.mem_of_mem_drop hpage)
    rcases composed_cascade hline hdrop hcascade with ⟨hlater, hout⟩
    have hmoved : { report with
        pages := report.pages.take (index + 1) ++ later }.Composed body frame := by
      refine ⟨fun page hpage => ?_, hreport.seeds⟩
      rcases List.mem_append.mp hpage with hfront | hback
      · exact hreport.pages page (List.mem_of_mem_take hfront)
      · exact hlater page hback
    cases out with
    | none => exact hmoved
    | some last => exact hmoved.overflowToNewPage (hout last rfl)

/-- A report stays composed when a line is placed in it. -/
theorem place (hreport : report.Composed body frame) (index position : Nat) {line : Line}
    (hline : body line) : (report.place index position line).2.Composed body frame := by
  simp only [Report.place]
  split
  · exact hreport
  · rename_i page hget
    have hpage := hreport.pages page (List.mem_of_getElem? hget)
    split
    · exact hreport
    · rename_i page' hinsert
      exact hreport.setPage index (hpage.insert hline hinsert).1
    · rename_i page' evicted hinsert
      rcases hpage.insert hline hinsert with ⟨hpage', hevicted⟩
      exact (hreport.setPage index hpage').relocate index (hevicted evicted rfl)

/-- Placing lines adds these lines and header and footer lines of the report, but no others, also if
it fails. -/
theorem placeAll (hreport : report.Composed body frame) (index position : Nat) {lines : List Line}
    (hlines : ∀ line ∈ lines, body line) :
    (report.placeAll index position lines).2.Composed body frame := by
  induction lines generalizing report with
  | nil => exact hreport
  | cons line rest ih =>
      rcases List.forall_mem_cons.mp hlines with ⟨hline, hrest⟩
      have hplaced := hreport.place index position hline
      simp only [Report.placeAll]
      split
      · rename_i e report' hresult
        rw [hresult] at hplaced
        exact hplaced
      · rename_i report' hresult
        rw [hresult] at hplaced
        exact ih hplaced hrest

/-- A report stays composed when lines are spliced in. -/
theorem splice (hreport : report.Composed body frame) (index position : Nat) {lines : List Line}
    (hlines : ∀ line ∈ lines, body line) :
    (report.splice index position lines).2.Composed body frame :=
  hreport.placeAll index position fun line hline => hlines line (List.mem_reverse.mp hline)

/-- The first marker of a report is one of its content lines. -/
theorem marker (hreport : report.Composed body frame) {marker : Line}
    (place : FirstMarker report marker) : body marker :=
  (hreport.pages place.page (by simp [place.pages_eq])).content marker (by simp [place.content_eq])

/-- A report stays composed when a marker is taken out. -/
theorem without (hreport : report.Composed body frame) {marker : Line}
    (place : FirstMarker report marker) : place.without.Composed body frame := by
  have hpage := hreport.pages place.page (by simp [place.pages_eq])
  refine hreport.setPage _ (hpage.of_sameFrame rfl fun line hline => hpage.content line ?_)
  rw [place.content_eq]
  rcases List.mem_append.mp hline with habove | hbelow
  · exact List.mem_append_left _ habove
  · exact List.mem_append_right _ (List.mem_cons_of_mem marker hbelow)

/-- An expansion adds the lines of sections, and header and footer lines of the report, but no
others, wherever it ends. -/
theorem expandFirst (hreport : report.Composed body frame) {r : Resolver} {sources : List Source}
    (hsections : ∀ (marker : Line) (slot : Slot) (lines : List Line) (memory after : Memory),
      marker.isMarker = true → body marker → memory.Sound →
      (marker.sectionLines r sources slot).run.run memory = (.ok lines, after) →
      ∀ line ∈ lines, body line)
    (count : Nat) {memory : Memory} (hsound : memory.Sound) :
    (report.expandFirst r sources count memory).report.Composed body frame := by
  induction count generalizing report memory with
  | zero => exact hreport
  | succ count ih =>
      simp only [Report.expandFirst]
      split
      · exact hreport
      · rename_i index slot marker rest htake
        rcases takeMarker?_eq_some htake with ⟨place, rfl, rfl, rfl⟩
        have hafter := (marker.transparent_sectionLines r sources place.slot memory hsound).2
        split
        · exact hreport.without place
        · rename_i lines memory' hlines
          rw [hlines] at hafter
          have hsection := hsections marker place.slot lines memory memory' place.isMarker
            (hreport.marker place) hsound hlines
          have hspliced := (hreport.without place).splice place.before.length place.slot.offset
            hsection
          rw [FirstMarker.without] at hspliced
          split
          · rename_i e report' hresult
            rw [hresult] at hspliced
            exact hspliced
          · rename_i report' hresult
            rw [hresult] at hspliced
            exact ih hspliced hafter

/-! ## Numbering -/

/-- Numbering lines keeps what does not depend on their numbers. -/
theorem forall_numberFrom {kind : Line → Prop}
    (hkind : ∀ line index firstGlobal, kind line → kind (line.numbered index firstGlobal))
    (index : Nat) (firstGlobal : Option Nat) {lines : List Line}
    (hlines : ∀ line ∈ lines, kind line) :
    ∀ line ∈ Page.numberFrom index firstGlobal lines, kind line := by
  induction lines generalizing index with
  | nil => simp [Page.numberFrom]
  | cons line rest ih =>
      rcases List.forall_mem_cons.mp hlines with ⟨hline, hrest⟩
      exact List.forall_mem_cons.mpr ⟨hkind line _ _ hline, ih _ hrest⟩

/-- A numbered report is composed as before, if the kinds of lines do not depend on numbers. -/
theorem numbered (hreport : report.Composed body frame)
    (hbody : ∀ line index firstGlobal, body line → body (line.numbered index firstGlobal))
    (hframe : ∀ line index firstGlobal, frame line → frame (line.numbered index firstGlobal)) :
    report.numbered.Composed body frame := by
  have hnumber : ∀ (pages : List Page) (next : Nat), (∀ page ∈ pages, page.Composed body frame) →
      ∀ page ∈ numberPages next pages, page.Composed body frame := by
    intro pages
    induction pages with
    | nil => exact fun _ _ page hpage => by simp [numberPages] at hpage
    | cons first rest ih =>
        intro next hpages
        rcases List.forall_mem_cons.mp hpages with ⟨hfirst, hrest⟩
        refine List.forall_mem_cons.mpr ⟨⟨?_, ?_⟩, ih _ hrest⟩
        · exact forall_numberFrom hbody _ _ hfirst.content
        · rcases List.forall_mem_append.mp hfirst.framed with ⟨hheader, hfooter⟩
          exact List.forall_mem_append.mpr
            ⟨forall_numberFrom hframe _ _ hheader, forall_numberFrom hframe _ _ hfooter⟩
  exact ⟨hnumber report.pages 1 hreport.pages, hreport.seeds⟩

end Composed

end Report

end Platen
