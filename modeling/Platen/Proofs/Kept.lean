import Mathlib.Data.List.InsertIdx
import Platen.Proofs.Marker

/-!
# What an expansion leaves alone

An expansion works from a marker on.  Whatever stands before it, on earlier pages and above it on
its own page, stays where it is, also if the expansion fails.  The statements hold of any report and
do not need that pages are within their capacity.

Main results:

- Theorem `Report.keeps_splice`: a splice changes nothing before the place of its lines.
- Theorem `Report.keeps_expandFirst`: an expansion changes nothing in front of the first marker.
- Theorem `Report.format_expandFirst`: an expansion does not change the page format.
-/

namespace Platen

namespace Page

/-- An insertion changes nothing in front of its position. -/
theorem take_of_insert {page page' : Page} {line : Line} {position : Nat} {out : Option Line}
    (hinsert : page.insert line (page.header.length + position) = .ok (page', out)) :
    page'.content.take position = page.content.take position := by
  unfold insert at hinsert
  simp only [Nat.add_sub_cancel_left] at hinsert
  split at hinsert
  · contradiction
  · rename_i hrange
    have hposition : position ≤ page.content.length := by
      simp only [Bool.or_eq_true, decide_eq_true_eq] at hrange
      omega
    have hgrown : (page.content.insertIdx position line).take position =
        page.content.take position :=
      List.take_insertIdx_eq_take_of_le _ _ _ _ (Nat.le_refl position)
    split at hinsert
    · cases hinsert
      have hlength : (page.content.insertIdx position line).length = page.content.length + 1 :=
        List.length_insertIdx_of_le_length hposition line
      rw [List.dropLast_eq_take, List.take_take, hlength, Nat.min_eq_left (by omega), hgrown]
    · cases hinsert
      exact hgrown

/-- Removing a line changes nothing in front of it. -/
theorem take_of_remove {page page' : Page} {line : Line} {position : Nat}
    (hremove : page.remove position = some (line, page')) :
    page'.content.take position = page.content.take position := by
  simp only [remove, Option.map_eq_some_iff, Prod.mk.injEq] at hremove
  rcases hremove with ⟨_, _, _, rfl⟩
  exact List.take_eraseIdx_eq_take_of_le _ _ _ (Nat.le_refl position)

end Page

namespace Report

/-- Whether a report still has all pages before an index, and all content lines of the page at the
index before a position. -/
structure Keeps (index position : Nat) (report result : Report) : Prop where
  pages_eq : result.pages.take index = report.pages.take index
  content_eq : ∀ page, report.pages[index]? = some page →
    ∃ page', result.pages[index]? = some page' ∧
      page'.content.take position = page.content.take position

namespace Keeps

variable {index position : Nat} {report middle result : Report}

/-- A report keeps everything of itself. -/
theorem refl (index position : Nat) (report : Report) : Keeps index position report report :=
  ⟨rfl, fun page hpage => ⟨page, hpage, rfl⟩⟩

/-- What is kept twice is kept. -/
theorem trans (hfirst : Keeps index position report middle)
    (hsecond : Keeps index position middle result) : Keeps index position report result := by
  refine ⟨hsecond.pages_eq.trans hfirst.pages_eq, ?_⟩
  intro page hpage
  rcases hfirst.content_eq page hpage with ⟨page', hpage', hcontent⟩
  rcases hsecond.content_eq page' hpage' with ⟨page'', hpage'', hcontent'⟩
  exact ⟨page'', hpage'', hcontent'.trans hcontent⟩

/-- What keeps some pages keeps every place on them. -/
theorem of_take {n : Nat} (htake : result.pages.take n = report.pages.take n) (hlt : index < n) :
    Keeps index position report result := by
  constructor
  · have hfewer := congrArg (List.take index) htake
    rwa [List.take_take, List.take_take, Nat.min_eq_left (Nat.le_of_lt hlt)] at hfewer
  · intro page hpage
    refine ⟨page, ?_, rfl⟩
    have hget := congrArg (fun pages => pages[index]?) htake
    simp only [List.getElem?_take_of_lt hlt] at hget
    rw [hget, hpage]

/-- What keeps a position of a page keeps every earlier one. -/
theorem of_le {position' : Nat} (hkeeps : Keeps index position report result)
    (hle : position' ≤ position) : Keeps index position' report result := by
  refine ⟨hkeeps.pages_eq, ?_⟩
  intro page hpage
  rcases hkeeps.content_eq page hpage with ⟨page', hpage', hcontent⟩
  refine ⟨page', hpage', ?_⟩
  have htake := congrArg (List.take position') hcontent
  rwa [List.take_take, List.take_take, Nat.min_eq_left hle] at htake

/-- Replacing a page keeps the pages before it and what the new page has in common with it. -/
theorem setPage {page page' : Page} (hget : report.pages[index]? = some page)
    (hcontent : page'.content.take position = page.content.take position) :
    Keeps index position report (report.setPage index page') := by
  rcases List.getElem?_eq_some_iff.mp hget with ⟨hlt, -⟩
  constructor
  · rw [Report.setPage, List.take_set_of_le (Nat.le_refl index)]
  · intro old hold
    rw [hget, Option.some.injEq] at hold
    subst hold
    exact ⟨page', List.getElem?_set_self hlt, hcontent⟩

end Keeps

/-! ## Splices -/

/-- A line that is left over changes none of the pages that are there. -/
theorem take_overflowToNewPage (report : Report) (line : Line) {n : Nat}
    (hn : n ≤ report.pages.length) :
    (report.overflowToNewPage line).2.pages.take n = report.pages.take n := by
  have hnew : (report.newPage false).pages.take n = report.pages.take n := by
    rw [newPage, List.take_append_of_le_length hn]
  simp only [overflowToNewPage]
  split
  · exact hnew
  · split
    · exact hnew
    · rw [setPage, List.take_set_of_le, hnew]
      simpa [newPage] using hn

/-- Moving a line on changes no page up to the one it comes from. -/
theorem take_relocate (report : Report) {index : Nat} (line : Line)
    (hindex : index < report.pages.length) :
    (report.relocate index line).2.pages.take (index + 1) = report.pages.take (index + 1) := by
  have hlength : (report.pages.take (index + 1)).length = index + 1 := by
    rw [List.length_take]
    omega
  simp only [relocate]
  split
  · rfl
  · rename_i later out hcascade
    have hmoved : (report.pages.take (index + 1) ++ later).take (index + 1) =
        report.pages.take (index + 1) := by
      rw [List.take_append_of_le_length (Nat.le_of_eq hlength.symm), List.take_take, Nat.min_self]
    cases out with
    | none => exact hmoved
    | some last =>
        have hover := take_overflowToNewPage
          { report with pages := report.pages.take (index + 1) ++ later } last
          (show index + 1 ≤ (report.pages.take (index + 1) ++ later).length by
            rw [List.length_append]
            omega)
        exact hover.trans hmoved

/-- Placing a line changes nothing in front of its place. -/
theorem keeps_place (report : Report) (index position : Nat) (line : Line) :
    Keeps index position report (report.place index position line).2 := by
  simp only [place]
  split
  · exact .refl ..
  · rename_i page hget
    split
    · exact .refl ..
    · rename_i page' hinsert
      exact .setPage hget (Page.take_of_insert hinsert)
    · rename_i page' evicted hinsert
      have hplaced := Keeps.setPage hget (Page.take_of_insert hinsert)
      refine hplaced.trans (.of_take (take_relocate _ evicted ?_) (Nat.lt_succ_self index))
      simpa [setPage] using (List.getElem?_eq_some_iff.mp hget).1

/-- Placing lines keeps everything before them. -/
theorem keeps_placeAll (report : Report) (index position : Nat) (lines : List Line) :
    Keeps index position report (report.placeAll index position lines).2 := by
  refine placeAll_invariant ?_ (Keeps.refl index position report) lines
  intro middle line hkeeps
  exact hkeeps.trans (keeps_place middle index position line)

/-- A splice changes nothing before the place of its lines, also if it fails. -/
theorem keeps_splice (report : Report) (index position : Nat) (lines : List Line) :
    Keeps index position report (report.splice index position lines).2 :=
  keeps_placeAll report index position lines.reverse

/-! ## Expansions -/

/-- Whether there is no marker before a place: on the pages before an index, and in the content of
the page at the index before a position. -/
structure StaticBefore (report : Report) (index position : Nat) : Prop where
  pages : Static ((report.pages.take index).flatMap Page.content)
  content : ∀ page, report.pages[index]? = some page → Static (page.content.take position)

/-- What is kept stays static. -/
theorem StaticBefore.of_keeps {report result : Report} {index position : Nat}
    (hstatic : report.StaticBefore index position) (hkeeps : Keeps index position report result)
    (hindex : index < report.pages.length) : result.StaticBefore index position := by
  obtain ⟨page, hpage⟩ : ∃ page, report.pages[index]? = some page :=
    ⟨_, List.getElem?_eq_getElem hindex⟩
  rcases hkeeps.content_eq page hpage with ⟨page', hpage', hcontent⟩
  constructor
  · rw [hkeeps.pages_eq]
    exact hstatic.pages
  · intro found hfound
    rw [hpage', Option.some.injEq] at hfound
    subst hfound
    rw [hcontent]
    exact hstatic.content page hpage

/-- The first marker does not stand before a place with no marker before it. -/
theorem FirstMarker.le_of_static {report : Report} {marker : Line}
    (place : FirstMarker report marker) {index position : Nat}
    (hstatic : report.StaticBefore index position) :
    index < place.before.length ∨
      index = place.before.length ∧ position ≤ place.above.length := by
  rcases Nat.lt_trichotomy index place.before.length with hlt | heq | hgt
  · exact .inl hlt
  · refine .inr ⟨heq, ?_⟩
    by_contra hle
    have hget : report.pages[index]? = some place.page := by
      simp [place.pages_eq, heq]
    have hmem : marker ∈ place.page.content.take position := by
      rcases Nat.exists_eq_add_of_lt (Nat.lt_of_not_le hle) with ⟨k, hk⟩
      rw [place.content_eq, hk, Nat.add_assoc, List.take_length_add_append]
      simp
    have hnot := hstatic.content place.page hget marker hmem
    rw [place.isMarker] at hnot
    contradiction
  · exfalso
    have hmem : marker ∈ (report.pages.take index).flatMap Page.content := by
      rcases Nat.exists_eq_add_of_lt hgt with ⟨k, hk⟩
      rw [place.pages_eq, hk, Nat.add_assoc, List.take_length_add_append]
      simp [place.content_eq]
    have hnot := hstatic.pages marker hmem
    rw [place.isMarker] at hnot
    contradiction

/-- Taking out the first marker and splicing lines in its place changes nothing in front of it. -/
theorem FirstMarker.keeps {report : Report} {marker : Line} (place : FirstMarker report marker)
    {index position : Nat} (hstatic : report.StaticBefore index position) (lines : List Line) :
    Keeps index position report (report.setPage place.before.length place.rest) ∧
      Keeps index position report
        ((report.setPage place.before.length place.rest).splice place.before.length
          place.slot.offset lines).2 := by
  have hget : report.pages[place.before.length]? = some place.page := by
    simp [place.pages_eq]
  have htaken : Keeps place.before.length place.above.length report
      (report.setPage place.before.length place.rest) :=
    .setPage hget (Page.take_of_remove (remove_of_content_eq place.content_eq))
  have hspliced := htaken.trans (keeps_splice _ place.before.length place.slot.offset lines)
  rcases place.le_of_static hstatic with hlt | ⟨rfl, hle⟩
  · exact ⟨.of_take htaken.pages_eq hlt, .of_take hspliced.pages_eq hlt⟩
  · exact ⟨htaken.of_le hle, hspliced.of_le hle⟩

/-- An expansion changes nothing in front of the first marker, wherever it ends. -/
theorem keeps_expandFirst {report : Report} {index position : Nat}
    (hindex : index < report.pages.length) (hstatic : report.StaticBefore index position)
    (r : Resolver) (sources : List Source) (count : Nat) (memory : Memory) :
    Keeps index position report (report.expandFirst r sources count memory).report := by
  refine @expandFirst_invariant (Keeps index position report) ?_ report (.refl ..) r sources count
    memory
  intro middle marker place hkeeps
  have hmiddle := hstatic.of_keeps hkeeps hindex
  constructor
  · exact hkeeps.trans (place.keeps hmiddle []).1
  · intro lines
    exact hkeeps.trans (place.keeps hmiddle lines).2

/-! ## The page format -/

/-- A line that goes onto a new page leaves the page format alone. -/
theorem format_overflowToNewPage (report : Report) (line : Line) :
    (report.overflowToNewPage line).2.format = report.format := by
  simp only [overflowToNewPage]
  split
  · rfl
  · split <;> rfl

/-- So does a line that is handed on to the next pages. -/
theorem format_relocate (report : Report) (index : Nat) (line : Line) :
    (report.relocate index line).2.format = report.format := by
  simp only [relocate]
  split
  · rfl
  · rename_i later out hcascade
    cases out with
    | none => rfl
    | some last => exact format_overflowToNewPage _ last

/-- So does a line that is placed among others. -/
theorem format_place (report : Report) (index position : Nat) (line : Line) :
    (report.place index position line).2.format = report.format := by
  simp only [place]
  split
  · rfl
  · split
    · rfl
    · rfl
    · rename_i page' evicted hinsert
      exact format_relocate _ index evicted

/-- Placing lines leaves the page format alone. -/
theorem format_placeAll (report : Report) (index position : Nat) (lines : List Line) :
    (report.placeAll index position lines).2.format = report.format := by
  refine @placeAll_invariant (fun result => result.format = report.format) index position ?_ report
    rfl lines
  intro middle line hformat
  rw [format_place, hformat]

/-- An expansion does not change the page format, wherever it ends. -/
theorem format_expandFirst (report : Report) (r : Resolver) (sources : List Source) (count : Nat)
    (memory : Memory) :
    (report.expandFirst r sources count memory).report.format = report.format := by
  refine @expandFirst_invariant (fun result => result.format = report.format) ?_ report rfl r
    sources count memory
  intro middle marker place hformat
  refine ⟨hformat, ?_⟩
  intro lines
  rw [splice, format_placeAll]
  exact hformat

end Report

end Platen
