import Platen.Proofs.ExpansionRun

/-!
# Splicing in reachable reports

A splice inserts line after line and moves every evicted line on by itself.  For a reachable report
this module states the outcome as a whole: which line stands on which page, what new pages look
like, when the splice succeeds, and what a successful expansion does to the lines of the report.

Main results:

- Theorem `Report.splice_and_expand_spec`: a splice is the batch reflow and succeeds exactly if it
  has room; an expansion puts every section in the place of its marker.
-/

namespace Platen.Report

/-! ## Frames -/

/-- The reflow keeps everything of a page but its content. -/
theorem sameFrame_reflow {carry : List Line} {pages : List Page} {i : Nat} {page : Page}
    (hget : pages[i]? = some page) :
    ∃ page', (reflow carry pages)[i]? = some page' ∧ page.SameFrame page' := by
  induction pages generalizing carry i with
  | nil => simp at hget
  | cons first rest ih =>
      cases i with
      | zero =>
          obtain rfl : first = page := by simpa using hget
          exact ⟨_, rfl, rfl⟩
      | succ i => exact ih (by simpa using hget)

/-! ## The outcome of a splice -/

/-- The content of a page with lines put in at a position, before it is cut at the capacity. -/
def spliced (page : Page) (position : Nat) (lines : List Line) : List Line :=
  page.content.take position ++ (lines ++ page.content.drop position)

/-- The lines that find no room on the existing pages after a splice. -/
def leftOver (report : Report) (index position : Nat) (page : Page) (lines : List Line) :
    List Line :=
  surplus page (report.pages.drop (index + 1)) (spliced page position lines)

/-- What a splice of lines into a page makes of a report: the page is filled again, what finds no
room is carried over the pages after it, and what is left fills new pages. -/
structure IsReflow (report : Report) (index position : Nat) (page : Page) (lines : List Line)
    (result : Report) : Prop where
  /-- The pages before stay; the page and each page after it take what they can hold of what is
  carried and of their own lines. -/
  pages_eq : result.pages =
    report.pages.take index ++ page.refill (spliced page position lines) ::
      (reflow (page.spill (spliced page position lines)) (report.pages.drop (index + 1)) ++
        report.newPages (report.leftOver index position page lines))
  /-- Existing pages change in their content only. -/
  frames : ∀ (i : Nat) (old : Page), report.pages[i]? = some old →
    ∃ new, result.pages[i]? = some new ∧ old.SameFrame new
  /-- New pages hold all that is left. -/
  left_eq : (report.newPages (report.leftOver index position page lines)).flatMap Page.content =
    report.leftOver index position page lines
  /-- New pages have the header and footer of the report, and none of them is empty. -/
  seeded : ∀ fresh ∈ report.newPages (report.leftOver index position page lines),
    fresh.header = report.header.map Line.ofText ∧ fresh.footer = report.footer.map Line.ofText ∧
      fresh.content ≠ []
  /-- New pages are full except for the last one. -/
  full : ∀ fresh ∈ (report.newPages (report.leftOver index position page lines)).dropLast,
    fresh.capacity = some fresh.content.length
  /-- The pages are still numbered from one, and the last one is the current one. -/
  numbers : result.pages.map Page.number = List.range' 1 result.pages.length
  last : result.lastPageNumber = result.pages.length
  current : result.current = some (result.pages.length - 1)
  /-- Nothing else changes. -/
  settings : result.format = report.format ∧ result.header = report.header ∧
    result.footer = report.footer ∧ result.breakRequested = report.breakRequested

section

variable {report : Report} {index position : Nat} {page rest : Page} {line : Line}

/-- The pages of a report without a line that was removed. -/
theorem pages_setPage (hget : report.pages[index]? = some page) :
    (report.setPage index rest).pages =
      report.pages.take index ++ rest :: report.pages.drop (index + 1) := by
  rcases List.getElem?_eq_some_iff.mp hget with ⟨hlt, -⟩
  rw [setPage, List.set_eq_take_append_cons_drop, if_pos hlt]

/-- A splice where a line was removed succeeds exactly if its lines find room, and then it is the
reflow. -/
theorem splice_removed (hreachable : report.Reachable) (hget : report.pages[index]? = some page)
    (hremove : page.remove position = some (line, rest)) (lines : List Line) :
    let result := (report.setPage index rest).splice index position lines
    (result.1 = .ok () ↔ report.leftOver index position rest lines = [] ∨
      (report.nextPage false).capacity ≠ some 0) ∧
    (result.1 = .ok () → result.2 = (report.setPage index rest).reflowed (report.pages.take index)
      rest (report.pages.drop (index + 1)) (spliced rest position lines)) := by
  intro result
  have hlater : ∀ later ∈ report.pages.drop (index + 1), later.Fits :=
    fun later hpage => hreachable.fits later (List.mem_of_mem_drop hpage)
  have hfits : rest.Fits :=
    (hreachable.fits page (List.mem_of_getElem? hget)).remove hremove
  have hindex : (report.pages.take index).length = index := by
    rcases List.getElem?_eq_some_iff.mp hget with ⟨hlt, -⟩
    rw [List.length_take]
    omega
  have hposition : (rest.content.take position).length = position := by
    simp only [Page.remove, Option.map_eq_some_iff, Prod.mk.injEq] at hremove
    rcases hremove with ⟨_, hat, _, rfl⟩
    rcases List.getElem?_eq_some_iff.mp hat with ⟨hlt, -⟩
    simp only [List.length_take, List.length_eraseIdx_of_lt hlt]
    omega
  have hcontent : rest.content = rest.content.take position ++ rest.content.drop position :=
    (List.take_append_drop position rest.content).symm
  have hiff := splice_ok_iff (pages_setPage hget) hlater hcontent hfits lines
  rw [hindex, hposition] at hiff
  refine ⟨hiff, fun hok => ?_⟩
  have hsplice := splice_eq_reflowed (pages_setPage hget) hlater hcontent hfits lines
    (hiff.mp hok)
  rw [hindex, hposition] at hsplice
  exact congrArg Prod.snd hsplice

/-- Existing pages keep everything but their content where a page is filled again and lines are
carried over the pages after it. -/
theorem sameFrame_of_reflow (hget : report.pages[index]? = some page) (hframe : page.SameFrame rest)
    (carry : List Line) (fresh : List Page) {i : Nat} {old : Page}
    (hold : report.pages[i]? = some old) :
    ∃ new, (report.pages.take index ++ rest ::
      (reflow carry (report.pages.drop (index + 1)) ++ fresh))[i]? = some new ∧
        old.SameFrame new := by
  have hindex : (report.pages.take index).length = index := by
    rcases List.getElem?_eq_some_iff.mp hget with ⟨hlt, -⟩
    rw [List.length_take]
    omega
  rcases Nat.lt_trichotomy i index with hlt | rfl | hgt
  · refine ⟨old, ?_, rfl⟩
    rw [List.getElem?_append_left (by omega), List.getElem?_take_of_lt hlt, hold]
  · obtain rfl : page = old := by
      rw [hget] at hold
      exact Option.some.inj hold
    refine ⟨rest, ?_, hframe⟩
    rw [List.getElem?_append_right (by omega), hindex, Nat.sub_self, List.getElem?_cons_zero]
  · rcases Nat.exists_eq_add_of_le hgt with ⟨k, rfl⟩
    have hdrop : (report.pages.drop (index + 1))[k]? = some old := by
      rw [List.getElem?_drop, hold]
    rcases @sameFrame_reflow carry _ _ _ hdrop with ⟨new, hnew, hsame⟩
    rcases List.getElem?_eq_some_iff.mp hnew with ⟨hlt, -⟩
    have hplace : index.succ + k - index = k + 1 := by
      omega
    refine ⟨new, ?_, hsame⟩
    rw [List.getElem?_append_right (by omega), hindex, hplace, List.getElem?_cons_succ,
      List.getElem?_append_left hlt, hnew]

/-- The reflow where a line was removed has all the properties of one. -/
theorem isReflow_of_splice (hreachable : report.Reachable)
    (hget : report.pages[index]? = some page)
    (hremove : page.remove position = some (line, rest)) (lines : List Line)
    (hok : ((report.setPage index rest).splice index position lines).1 = .ok ()) :
    report.IsReflow index position rest lines
      ((report.setPage index rest).splice index position lines).2 := by
  rcases splice_removed hreachable hget hremove lines with ⟨hiff, hresult⟩
  have hroom := hiff.mp hok
  have hpages : ((report.setPage index rest).splice index position lines).2.pages =
      report.pages.take index ++ rest.refill (spliced rest position lines) ::
        (reflow (rest.spill (spliced rest position lines)) (report.pages.drop (index + 1)) ++
          report.newPages (report.leftOver index position rest lines)) := by
    rw [hresult hok, reflowed, poured, List.append_assoc]
    rfl
  have hwell := (hreachable.removeFrom hget hremove).wellFormed.placeAll index position
    lines.reverse
  rw [← splice] at hwell
  rcases newPages_spec hroom with ⟨hseeded, hfull⟩
  refine ⟨hpages, ?_, ?_, hseeded, hfull, hwell.numbers, hwell.last, ?_, ?_⟩
  · intro i old hold
    have hframe : page.SameFrame (rest.refill (spliced rest position lines)) := by
      have hrest := Page.sameFrame_remove hremove
      rw [Page.SameFrame] at hrest ⊢
      rw [hrest]
      rfl
    rw [hpages]
    exact sameFrame_of_reflow hget hframe _ _ hold
  · rcases hroom with hnone | hroom
    · rw [hnone]
      simp
    · exact contents_newPages hroom _
  · rw [hwell.current, if_neg]
    rw [hpages]
    simp
  · rw [hresult hok]
    exact ⟨rfl, rfl, rfl, rfl⟩

end

/-- In a reachable report a splice where a line was removed is the batch reflow of its lines, and it
succeeds exactly if nothing is left after the last page or new pages have room.  An expansion that
succeeds puts every section in the place of its marker and keeps all other lines in their order. -/
theorem splice_and_expand_spec {report : Report} (hreachable : report.Reachable) :
    (∀ (index position : Nat) (page rest : Page) (marker : Line) (lines : List Line),
      report.pages[index]? = some page → page.remove position = some (marker, rest) →
      let result := (report.setPage index rest).splice index position lines
      (result.1 = .ok () ↔ report.leftOver index position rest lines = [] ∨
        (report.nextPage false).capacity ≠ some 0) ∧
      (result.1 = .ok () → report.IsReflow index position rest lines result.2)) ∧
    ∀ (r : Resolver) (sources : List Source) (memory : Memory),
      let done := report.expand r sources memory
      done.outcome = .ok () →
      ∃ log, Expands r sources report memory log done.report done.memory ∧
        log.map Prod.fst = report.contents.filter Line.isMarker ∧
        done.report.contents = fillMarkers report.contents (log.map Prod.snd) := by
  constructor
  · intro index position page rest marker lines hget hremove result
    exact ⟨(splice_removed hreachable hget hremove lines).1,
      isReflow_of_splice hreachable hget hremove lines⟩
  · intro r sources memory done hok
    rcases expand_run hreachable r sources memory hok with ⟨log, hrun⟩
    exact ⟨log, hrun, hrun.contents_eq hreachable⟩

/-- A list of three rows between two lines, on pages of two content lines. -/
def listed : Report :=
  let base : Report := { format := { pageLength := some 3 }, header := ["H"] }
  let first := (base.append (Line.ofText "a") false).2
  let second := (first.append (Line.ofListing { source := "items", template := "x" }) false).2
  (second.append (Line.ofText "b") false).2

/-- The first page of this report without the list. -/
def listedRest : Page :=
  { number := 1
    pageLength := some 3
    header := [Line.ofText "H"]
    content := [Line.ofText "a"]
    footer := [] }

theorem listed_splice_and_expand :
    listed.leftOver 0 1 listedRest (List.replicate 3 (Line.ofText "x")) = [Line.ofText "b"] ∧
      listed.IsReflow 0 1 listedRest (List.replicate 3 (Line.ofText "x"))
        ((listed.setPage 0 listedRest).splice 0 1 (List.replicate 3 (Line.ofText "x"))).2 ∧
      ∃ log, Expands .scriptless threeItems listed [] log
          (listed.expand .scriptless threeItems []).report
          (listed.expand .scriptless threeItems []).memory ∧
        (listed.expand .scriptless threeItems []).report.contents =
          fillMarkers listed.contents (log.map Prod.snd) := by
  have hreachable : listed.Reachable :=
    .append _ _ (.append _ _ (.append _ _ (.withHeader ["H"] (.new { pageLength := some 3 }))))
  rcases splice_and_expand_spec hreachable with ⟨hsplice, hexpand⟩
  rcases hsplice 0 1 _ listedRest _ (List.replicate 3 (Line.ofText "x")) rfl rfl with ⟨-, hreflow⟩
  rcases hexpand .scriptless threeItems [] rfl with ⟨log, hrun, -, hcontents⟩
  exact ⟨by decide, hreflow rfl, log, hrun, hcontents⟩

end Platen.Report
