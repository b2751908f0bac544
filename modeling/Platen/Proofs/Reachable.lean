import Mathlib.Data.List.Range
import Platen.Proofs.Marker

/-!
# Reachable reports

A report is changed by a dozen operations, each of which may fail and leave something behind.  This
module lists them as one inductive predicate and proves what they all keep.

Main results:

- Theorem `Report.Reachable.wellFormed`: in every reachable report the pages are numbered from one,
  have the length that the report sets and hold no more content than fits, and the last page is the
  current one.
-/

namespace Platen

namespace Page

/-- Whatever changes the content of a page keeps the rest of it. -/
def SameFrame (page page' : Page) : Prop :=
  page' = { page with content := page'.content }

theorem sameFrame_append {page page' : Page} {line : Line}
    (happend : page.append line = .ok page') : page.SameFrame page' := by
  unfold Page.append at happend
  split at happend
  · contradiction
  · cases happend
    rfl

theorem sameFrame_insert {page page' : Page} {line : Line} {position : Nat} {out : Option Line}
    (hinsert : page.insert line position = .ok (page', out)) : page.SameFrame page' := by
  unfold Page.insert at hinsert
  simp only at hinsert
  split at hinsert
  · contradiction
  · split at hinsert <;> cases hinsert <;> rfl

theorem sameFrame_remove {page page' : Page} {index : Nat} {line : Line}
    (hremove : page.remove index = some (line, page')) : page.SameFrame page' := by
  simp only [Page.remove, Option.map_eq_some_iff, Prod.mk.injEq] at hremove
  rcases hremove with ⟨_, _, _, rfl⟩
  rfl

/-- A page of a report with a given page length, holding no more content than fits. -/
structure Sound (pageLength : Option Nat) (page : Page) : Prop where
  pageLength_eq : page.pageLength = pageLength
  fits : page.Fits

/-- A page stays sound when its content changes to one that fits. -/
theorem Sound.of_sameFrame {pageLength : Option Nat} {page page' : Page}
    (hsound : page.Sound pageLength) (hframe : page.SameFrame page') (hfits : page'.Fits) :
    page'.Sound pageLength where
  pageLength_eq := by
    rw [hframe]
    exact hsound.pageLength_eq
  fits := hfits

/-- A page stays sound when its lines are numbered. -/
theorem Sound.numbered {pageLength : Option Nat} {page : Page} (hsound : page.Sound pageLength)
    (firstGlobal : Option Nat) : (page.numbered firstGlobal).Sound pageLength where
  pageLength_eq := hsound.pageLength_eq
  fits := hsound.fits.numbered firstGlobal

theorem SameFrame.number_eq {page page' : Page} (hframe : page.SameFrame page') :
    page'.number = page.number := by
  rw [hframe]

end Page

namespace Report

/-! ## The operations -/

/-- The reports that the operations lead to, also those that a failed operation leaves and those in
the middle of an expansion. -/
inductive Reachable : Report → Prop
  | new (format : PageFormat) : Reachable { format }
  | withHeader {report : Report} (header : List String) :
      Reachable report → Reachable (report.withHeader header)
  | withFooter {report : Report} (footer : List String) :
      Reachable report → Reachable (report.withFooter footer)
  | newPage {report : Report} (plain : Bool) :
      Reachable report → Reachable (report.newPage plain)
  | append {report : Report} (line : Line) (plain : Bool) :
      Reachable report → Reachable (report.append line plain).2
  | requestBreak {report : Report} : Reachable report → Reachable report.requestBreak
  | appendTo {report : Report} {index : Nat} {page page' : Page} {line : Line} :
      Reachable report → report.pages[index]? = some page → page.append line = .ok page' →
      Reachable (report.setPage index page')
  | insertInto {report : Report} {index position : Nat} {page page' : Page} {line : Line}
      {out : Option Line} :
      Reachable report → report.pages[index]? = some page →
      page.insert line position = .ok (page', out) → Reachable (report.setPage index page')
  | removeFrom {report : Report} {index position : Nat} {page page' : Page} {line : Line} :
      Reachable report → report.pages[index]? = some page →
      page.remove position = some (line, page') → Reachable (report.setPage index page')
  | numberPage {report : Report} {index : Nat} {page : Page} :
      Reachable report → report.pages[index]? = some page →
      Reachable (report.setPage index (page.numbered none))
  | numbered {report : Report} : Reachable report → Reachable report.numbered
  | expandFirst {report : Report} (r : Resolver) (sources : List Source) (count : Nat)
      (memory : Memory) :
      Reachable report → Reachable (report.expandFirst r sources count memory).report

/-! ## What they keep -/

/-- What holds of a report between operations. -/
structure WellFormed (report : Report) : Prop where
  numbers : report.pages.map Page.number = List.range' 1 report.pages.length
  sound : ∀ page ∈ report.pages, page.Sound report.format.pageLength
  last : report.lastPageNumber = report.pages.length
  current : report.current =
    if report.pages.length = 0 then none else some (report.pages.length - 1)

/-- A cascade keeps the numbers of the pages and the soundness of each. -/
theorem sound_cascade {pageLength : Option Nat} {line : Line} {pages pages' : List Page}
    {out : Option Line} (hcascade : cascade line pages = .ok (pages', out))
    (hsound : ∀ page ∈ pages, page.Sound pageLength) :
    pages'.map Page.number = pages.map Page.number ∧ ∀ page ∈ pages', page.Sound pageLength := by
  induction pages generalizing line pages' out with
  | nil =>
      simp only [cascade, Except.ok.injEq, Prod.mk.injEq] at hcascade
      rcases hcascade with ⟨rfl, rfl⟩
      exact ⟨rfl, by simp⟩
  | cons page rest ih =>
      rcases List.forall_mem_cons.mp hsound with ⟨hpage, hrest⟩
      simp only [cascade] at hcascade
      split at hcascade
      · contradiction
      · rename_i page' hinsert
        cases hcascade
        have hframe := Page.sameFrame_insert hinsert
        have hpage' := hpage.of_sameFrame hframe (hpage.fits.insert hinsert)
        refine ⟨?_, List.forall_mem_cons.mpr ⟨hpage', hrest⟩⟩
        rw [List.map_cons, List.map_cons, hframe.number_eq]
      · rename_i page' evicted hinsert
        have hframe := Page.sameFrame_insert hinsert
        have hpage' := hpage.of_sameFrame hframe (hpage.fits.insert hinsert)
        split at hcascade
        · contradiction
        · rename_i later last hlater
          cases hcascade
          rcases ih hlater hrest with ⟨hnumbers, hsound'⟩
          refine ⟨?_, List.forall_mem_cons.mpr ⟨hpage', hsound'⟩⟩
          rw [List.map_cons, List.map_cons, hframe.number_eq, hnumbers]

namespace WellFormed

variable {report : Report}

/-- Other pages with the same numbers keep a report well-formed if they are sound. -/
theorem with_pages (hwell : report.WellFormed) {pages : List Page}
    (hnumbers : pages.map Page.number = report.pages.map Page.number)
    (hsound : ∀ page ∈ pages, page.Sound report.format.pageLength) :
    { report with pages }.WellFormed := by
  have hlength : pages.length = report.pages.length := by
    simpa using congrArg List.length hnumbers
  constructor
  · rw [hnumbers, hwell.numbers, hlength]
  · exact hsound
  · rw [hlength]
    exact hwell.last
  · simp only [hlength]
    exact hwell.current

/-- Replacing a page by a sound one with its number keeps a report well-formed. -/
theorem setPage (hwell : report.WellFormed) {index : Nat} {page page' : Page}
    (hget : report.pages[index]? = some page) (hnumber : page'.number = page.number)
    (hsound : page'.Sound report.format.pageLength) : (report.setPage index page').WellFormed := by
  refine hwell.with_pages ?_ ?_
  · rw [List.map_set, hnumber]
    apply List.ext_getElem?
    intro i
    rw [List.getElem?_set]
    split
    · rename_i hindex
      subst hindex
      rcases List.getElem?_eq_some_iff.mp hget with ⟨hlt, rfl⟩
      simp [hlt]
    · rfl
  · intro q hq
    rcases List.mem_or_eq_of_mem_set hq with hold | rfl
    · exact hwell.sound q hold
    · exact hsound

/-- Changing the content of one page keeps a report well-formed if the content fits. -/
theorem setContent (hwell : report.WellFormed) {index : Nat} {page page' : Page}
    (hget : report.pages[index]? = some page) (hframe : page.SameFrame page')
    (hfits : page'.Fits) : (report.setPage index page').WellFormed :=
  hwell.setPage hget hframe.number_eq
    ((hwell.sound page (List.mem_of_getElem? hget)).of_sameFrame hframe hfits)

/-- A new page keeps a report well-formed. -/
theorem newPage (hwell : report.WellFormed) (plain : Bool) : (report.newPage plain).WellFormed := by
  constructor
  · simp only [Report.newPage, List.map_append, List.map_cons, List.map_nil, List.length_append,
      List.length_singleton, hwell.numbers, List.range'_1_concat, nextPage, hwell.last]
    rw [Nat.add_comm]
  · intro page hpage
    rcases List.mem_append.mp hpage with hold | hnew
    · exact hwell.sound page hold
    · rw [List.mem_singleton.mp hnew]
      exact ⟨rfl, Page.fits_of_content_nil rfl⟩
  · simp [Report.newPage, hwell.last]
  · simp [Report.newPage]

/-- Appending a line keeps a report well-formed, also if the line does not fit. -/
theorem append (hwell : report.WellFormed) (line : Line) (plain : Bool) :
    (report.append line plain).2.WellFormed := by
  have hbreak : { report with breakRequested := false }.WellFormed :=
    ⟨hwell.numbers, hwell.sound, hwell.last, hwell.current⟩
  have hready : (if report.needsPage = true then
      { report with breakRequested := false }.newPage plain else report).WellFormed := by
    split
    · exact hbreak.newPage plain
    · exact hwell
  simp only [Report.append]
  split
  · exact hready
  · rename_i page hget
    split
    · exact hready
    · rename_i page' happend
      exact hready.setContent hget (Page.sameFrame_append happend) (Page.Fits.append happend)

/-- Putting a line on a new page keeps a report well-formed. -/
theorem overflowToNewPage (hwell : report.WellFormed) (line : Line) :
    (report.overflowToNewPage line).2.WellFormed := by
  have hnew := hwell.newPage false
  simp only [Report.overflowToNewPage]
  split
  · exact hnew
  · split
    · exact hnew
    · rename_i page' evicted hinsert
      have hget : (report.newPage false).pages[(report.newPage false).pages.length - 1]? =
          some (report.nextPage false) := by
        simp [Report.newPage]
      exact hnew.setContent hget (Page.sameFrame_insert hinsert)
        ((Page.fits_of_content_nil rfl).insert hinsert)

/-- Moving an evicted line on keeps a report well-formed. -/
theorem relocate (hwell : report.WellFormed) (index : Nat) (line : Line) :
    (report.relocate index line).2.WellFormed := by
  simp only [Report.relocate]
  split
  · exact hwell
  · rename_i later out hcascade
    have hdrop : ∀ page ∈ report.pages.drop (index + 1), page.Sound report.format.pageLength :=
      fun page hpage => hwell.sound page (List.mem_of_mem_drop hpage)
    rcases sound_cascade hcascade hdrop with ⟨hnumbers, hsound⟩
    have hmoved : { report with pages := report.pages.take (index + 1) ++ later }.WellFormed := by
      refine hwell.with_pages ?_ ?_
      · rw [List.map_append, hnumbers, ← List.map_append, List.take_append_drop]
      · intro page hpage
        rcases List.mem_append.mp hpage with hfront | hlater
        · exact hwell.sound page (List.mem_of_mem_take hfront)
        · exact hsound page hlater
    cases out with
    | none => exact hmoved
    | some last => exact hmoved.overflowToNewPage last

/-- Placing a line keeps a report well-formed. -/
theorem place (hwell : report.WellFormed) (index position : Nat) (line : Line) :
    (report.place index position line).2.WellFormed := by
  simp only [Report.place]
  split
  · exact hwell
  · rename_i page hget
    have hfits : page.Fits := (hwell.sound page (List.mem_of_getElem? hget)).fits
    split
    · exact hwell
    · rename_i page' hinsert
      exact hwell.setContent hget (Page.sameFrame_insert hinsert) (hfits.insert hinsert)
    · rename_i page' evicted hinsert
      exact (hwell.setContent hget (Page.sameFrame_insert hinsert)
        (hfits.insert hinsert)).relocate index evicted

/-- Splicing lines keeps a report well-formed, also if not all of them find room. -/
theorem placeAll (hwell : report.WellFormed) (index position : Nat) (lines : List Line) :
    (report.placeAll index position lines).2.WellFormed :=
  placeAll_invariant (fun _ line hwell => hwell.place index position line) hwell lines

/-- Taking out the first marker keeps a report well-formed. -/
theorem removeMarker (hwell : report.WellFormed) {marker : Line}
    (place : FirstMarker report marker) :
    (report.setPage place.before.length place.rest).WellFormed := by
  have hget : report.pages[place.before.length]? = some place.page := by
    simp [place.pages_eq]
  have hfits : place.page.Fits := (hwell.sound place.page (List.mem_of_getElem? hget)).fits
  exact hwell.setContent hget rfl (hfits.remove (remove_of_content_eq place.content_eq))

/-- Expanding markers keeps a report well-formed, wherever the expansion ends. -/
theorem expandFirst (hwell : report.WellFormed) (r : Resolver) (sources : List Source)
    (count : Nat) (memory : Memory) :
    (report.expandFirst r sources count memory).report.WellFormed := by
  refine expandFirst_invariant ?_ hwell r sources count memory
  intro report marker place hwell
  have hrest := hwell.removeMarker place
  refine ⟨hrest, ?_⟩
  intro lines
  exact hrest.placeAll _ _ lines.reverse

end WellFormed

/-- Numbering keeps the numbers of the pages and the soundness of each. -/
theorem sound_numberPages {pageLength : Option Nat} {pages : List Page} (next : Nat)
    (hsound : ∀ page ∈ pages, page.Sound pageLength) :
    (numberPages next pages).map Page.number = pages.map Page.number ∧
      ∀ page ∈ numberPages next pages, page.Sound pageLength := by
  induction pages generalizing next with
  | nil => exact ⟨rfl, by simp [numberPages]⟩
  | cons page rest ih =>
      rcases List.forall_mem_cons.mp hsound with ⟨hpage, hrest⟩
      rcases ih (next + page.size) hrest with ⟨hnumbers, hsound'⟩
      refine ⟨?_, List.forall_mem_cons.mpr ⟨hpage.numbered (some next), hsound'⟩⟩
      rw [numberPages, List.map_cons, List.map_cons, hnumbers]
      rfl

/-- Every reachable report is well-formed. -/
theorem Reachable.wellFormed {report : Report} (hreachable : report.Reachable) :
    report.WellFormed := by
  induction hreachable with
  | new format => exact ⟨rfl, by simp, rfl, rfl⟩
  | withHeader header _ ih => exact ⟨ih.numbers, ih.sound, ih.last, ih.current⟩
  | withFooter footer _ ih => exact ⟨ih.numbers, ih.sound, ih.last, ih.current⟩
  | newPage plain _ ih => exact ih.newPage plain
  | append line plain _ ih => exact ih.append line plain
  | requestBreak _ ih => exact ⟨ih.numbers, ih.sound, ih.last, ih.current⟩
  | appendTo _ hget happend ih =>
      exact ih.setContent hget (Page.sameFrame_append happend) (Page.Fits.append happend)
  | insertInto _ hget hinsert ih =>
      have hfits := (ih.sound _ (List.mem_of_getElem? hget)).fits
      exact ih.setContent hget (Page.sameFrame_insert hinsert) (hfits.insert hinsert)
  | removeFrom _ hget hremove ih =>
      have hfits := (ih.sound _ (List.mem_of_getElem? hget)).fits
      exact ih.setContent hget (Page.sameFrame_remove hremove) (hfits.remove hremove)
  | numberPage _ hget ih =>
      exact ih.setPage hget rfl ((ih.sound _ (List.mem_of_getElem? hget)).numbered none)
  | numbered _ ih =>
      rcases sound_numberPages 1 ih.sound with ⟨hnumbers, hsound⟩
      exact ih.with_pages hnumbers hsound
  | expandFirst r sources count memory _ ih => exact ih.expandFirst r sources count memory

/-- No page of a reachable report holds more content than fits. -/
theorem Reachable.fits {report : Report} (hreachable : report.Reachable) :
    ∀ page ∈ report.pages, page.Fits :=
  fun page hpage => (hreachable.wellFormed.sound page hpage).fits

end Report

end Platen
