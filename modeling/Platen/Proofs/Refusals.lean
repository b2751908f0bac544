import Platen.Proofs.Histories
import Platen.Proofs.PageEdits

/-!
# Lines that a report refuses

Whether a line needs a new page and whether a page refuses it are two questions with two answers.  A
new page is started when the current one is exactly as long as it may be; a line is refused by every
page that is at least as long.  In between stands the page that is too long, because its header and
footer leave no place for any content.  Once it is the current page it refuses every line, also one
that a new page would take.

Main results:

- Theorem `Report.WellFormed.append_cases`: the four ways in which appending a line ends.
- Theorem `Report.WellFormed.blocked_iff`: the reports whose current page is too long.
- Theorem `Report.append_accepts`: the lines that are accepted, and what is left of a report by one
  that is refused.
- Theorem `Report.outgrown_refuses`: a line that is refused although a new page has room for it.
-/

namespace Platen

namespace Page

variable {page : Page}

/-- A page without content has no room for any exactly if it refuses every line. -/
theorem capacity_eq_zero_iff (hempty : page.content = []) :
    page.capacity = some 0 ↔ ∃ length, page.pageLength = some length ∧ length ≤ page.size := by
  rw [capacity, Option.map_eq_some_iff, size, hempty, List.length_nil, Nat.add_zero]
  simp only [Nat.sub_eq_zero_iff_le]

theorem isOverflow_eq_true_iff :
    page.isOverflow = true ↔ ∃ length, page.pageLength = some length ∧ length < page.size := by
  cases hlength : page.pageLength <;> simp [isOverflow, hlength]

/-- A page that is too long is not exactly as long as it may be. -/
theorem isFull_of_isOverflow (hover : page.isOverflow = true) : page.isFull = false := by
  rcases isOverflow_eq_true_iff.mp hover with ⟨length, hlength, hlt⟩
  simp only [isFull, hlength, Option.any_some, beq_eq_false_iff_ne]
  omega

/-- A page that is neither full nor too long has room for one more content line. -/
theorem admits_of_open (hfull : page.isFull = false) (hover : ¬page.isOverflow = true) :
    Admits page.capacity (page.content.length + 1) := by
  intro n hn
  cases hlength : page.pageLength with
  | none => simp [capacity, hlength] at hn
  | some length =>
      have hle : page.size ≤ length := by simpa [isOverflow, hlength] using hover
      have hne : page.size ≠ length := by simpa [isFull, hlength] using hfull
      simp only [capacity, hlength, Option.map_some, Option.some.injEq] at hn
      simp only [size] at hle hne
      omega

end Page

namespace Report

variable {report : Report}

/-! ## How appending a line ends -/

/-- A line that needs a new page is refused if new pages have no room.  The new page stays. -/
theorem append_eq_error_of_needsPage (hneeds : report.needsPage = true) {plain : Bool}
    (hnone : (report.nextPage plain).capacity = some 0) (line : Line) :
    report.append line plain =
      (.error (.pageFull (report.lastPageNumber + 1)),
        { report with breakRequested := false }.newPage plain) := by
  have hrefused : ({ report with breakRequested := false }.nextPage plain).append line =
      .error (.pageFull (report.lastPageNumber + 1)) :=
    Page.append_eq_error_iff.mpr ⟨(Page.capacity_eq_zero_iff rfl).mp hnone, rfl⟩
  simp only [append, if_pos hneeds, newPage, Option.getD_some, List.getElem?_concat_length,
    hrefused]

/-- Whether lines go to a page that is too long. -/
def Blocked (report : Report) : Prop :=
  report.breakRequested = false ∧ ∃ page, report.currentPage? = some page ∧ page.isOverflow = true

/-- A blocked report does not start new pages. -/
theorem Blocked.needsPage (hblocked : report.Blocked) : report.needsPage = false := by
  rcases hblocked with ⟨hbreak, page, hcurrent, hover⟩
  simp [Report.needsPage, hcurrent, hbreak, Page.isFull_of_isOverflow hover]

namespace WellFormed

/-- A report is blocked exactly if no break was asked for and the header and footer of its last page
are longer than the page. -/
theorem blocked_iff (hwell : report.WellFormed) :
    report.Blocked ↔ report.breakRequested = false ∧
      ∃ page length, report.pages.getLast? = some page ∧ page.pageLength = some length ∧
        length < page.header.length + page.footer.length := by
  rw [Blocked, hwell.currentPage?_eq]
  refine and_congr_right fun _ => exists_congr fun page => ?_
  constructor
  · rintro ⟨hlast, hover⟩
    have hfits := (hwell.sound page (List.mem_of_getLast? hlast)).fits
    rcases hfits.isOverflow_iff.mp hover with ⟨length, hlong⟩
    exact ⟨length, hlast, hlong⟩
  · rintro ⟨length, hlast, hlong⟩
    have hfits := (hwell.sound page (List.mem_of_getLast? hlast)).fits
    exact ⟨hlast, hfits.isOverflow_iff.mpr ⟨length, hlong⟩⟩

/-- A line that needs no new page goes to the last page, unless this is too long and blocks the
report. -/
theorem append_of_not_needsPage (hwell : report.WellFormed) (hneeds : ¬report.needsPage = true)
    (line : Line) (plain : Bool) :
    (∃ before page, ¬report.Blocked ∧ report.pages = before ++ [page] ∧
      report.current = some before.length ∧
      report.append line plain =
        (.ok (), report.setPage before.length { page with content := page.content ++ [line] })) ∨
    (report.Blocked ∧
      report.append line plain = (.error (.pageFull report.pages.length), report)) := by
  rcases List.eq_nil_or_concat report.pages with hnil | ⟨before, page, hpages⟩
  · exact absurd (needsPage_of_pages_nil hnil) hneeds
  rw [List.concat_eq_append] at hpages
  have hindex : report.current = some before.length := by
    rw [hwell.current, hpages]
    simp
  have hcurrent : report.currentPage? = some page := by
    rw [hwell.currentPage?_eq, hpages, List.getLast?_concat]
  have hopen : report.breakRequested = false ∧ page.isFull = false := by
    simpa [needsPage, hcurrent] using hneeds
  by_cases hover : page.isOverflow = true
  · rcases Page.isOverflow_eq_true_iff.mp hover with ⟨length, hlength, hlt⟩
    have hrefused : page.append line = .error (.pageFull page.number) :=
      Page.append_eq_error_iff.mpr ⟨⟨length, hlength, hlt.le⟩, rfl⟩
    have hget : report.pages[before.length]? = some page := by simp [hpages]
    have hnumber : page.number = report.pages.length := by
      rw [hwell.number_eq hget, hpages, List.length_append, List.length_singleton]
    refine .inr ⟨⟨hopen.1, page, hcurrent, hover⟩, ?_⟩
    simp only [Report.append, if_neg hneeds, hindex, Option.getD_some, hget, hrefused, hnumber]
  · have hfree : ¬report.Blocked := by
      rintro ⟨-, page', hcurrent', hover'⟩
      rw [hcurrent, Option.some.injEq] at hcurrent'
      rw [hcurrent'] at hover
      exact hover hover'
    exact .inl ⟨before, page, hfree, hpages, hindex, append_to_last hpages hindex hneeds
      (Page.admits_of_open hopen.2 hover) line plain⟩

/-- Appending a line ends in one of four ways: the line stands alone on a new page, or it is refused
by a new page, or it stands at the end of the last page, or the report is blocked. -/
theorem append_cases (hwell : report.WellFormed) (line : Line) (plain : Bool) :
    (¬report.Blocked ∧ report.append line plain = (.ok (), report.openedWith line plain)) ∨
    (¬report.Blocked ∧ (report.nextPage plain).capacity = some 0 ∧
      report.append line plain =
        (.error (.pageFull (report.pages.length + 1)),
          { report with breakRequested := false }.newPage plain)) ∨
    (∃ before page, ¬report.Blocked ∧ report.pages = before ++ [page] ∧
      report.current = some before.length ∧
      report.append line plain =
        (.ok (), report.setPage before.length { page with content := page.content ++ [line] })) ∨
    (report.Blocked ∧
      report.append line plain = (.error (.pageFull report.pages.length), report)) := by
  by_cases hneeds : report.needsPage = true
  · have hfree : ¬report.Blocked := by
      intro hblocked
      rw [hblocked.needsPage] at hneeds
      contradiction
    by_cases hroom : (report.nextPage plain).capacity = some 0
    · refine .inr (.inl ⟨hfree, hroom, ?_⟩)
      rw [append_eq_error_of_needsPage hneeds hroom line, hwell.last]
    · exact .inl ⟨hfree, append_eq_openedWith hneeds hroom line⟩
  · exact .inr (.inr (hwell.append_of_not_needsPage hneeds line plain))

end WellFormed

/-! ## Lines that are accepted -/

/-- The lines that a report accepts.

If a new page had room, a line is refused exactly if no break was asked for and the header and
footer of the last page are longer than the page; and then the report is left as it is.  A line that
is accepted comes after all others and is the last one of the current page.  A line that is refused
changes the content of no page and adds at most one page without content; the error names the last
page. -/
theorem append_accepts (hreachable : report.Reachable) (line : Line) (plain : Bool) :
    ((report.nextPage plain).capacity ≠ some 0 →
      ((report.append line plain).1 = .ok () ↔ ¬report.Blocked)) ∧
    (report.Blocked ↔ report.breakRequested = false ∧
      ∃ page length, report.pages.getLast? = some page ∧ page.pageLength = some length ∧
        length < page.header.length + page.footer.length) ∧
    (report.Blocked →
      report.append line plain = (.error (.pageFull report.pages.length), report)) ∧
    ((report.append line plain).1 = .ok () →
      (report.append line plain).2.contents = report.contents ++ [line] ∧
      ∃ page, (report.append line plain).2.currentPage? = some page ∧
        page.content.getLast? = some line) ∧
    ∀ e, (report.append line plain).1 = .error e →
      e = .pageFull (report.append line plain).2.pages.length ∧
      ∃ added, (report.append line plain).2.pages = report.pages ++ added ∧ added.length ≤ 1 ∧
        ∀ page ∈ added, page.content = [] := by
  have hwell := hreachable.wellFormed
  rcases hwell.append_cases line plain with ⟨hfree, happend⟩ | ⟨hfree, hnone, happend⟩ |
    ⟨before, page, hfree, hpages, hcurrent, happend⟩ | ⟨hblocked, happend⟩
  · refine ⟨fun _ => ?_, hwell.blocked_iff, fun hblocked => absurd hblocked hfree, fun _ => ?_, ?_⟩
    · simp [happend, hfree]
    · rw [happend]
      refine ⟨by simp [contents, openedWith], { report.nextPage plain with content := [line] }, ?_,
        rfl⟩
      simp [currentPage?, openedWith]
    · simp [happend]
  · refine ⟨fun hroom => absurd hnone hroom, hwell.blocked_iff,
      fun hblocked => absurd hblocked hfree, ?_, fun e herror => ?_⟩
    · simp [happend]
    · rw [happend] at herror ⊢
      refine ⟨?_, [report.nextPage plain], rfl, Nat.le_refl _, by simp [nextPage]⟩
      rw [newPage, List.length_append, List.length_singleton]
      exact (Except.error.inj herror).symm
  · refine ⟨fun _ => ?_, hwell.blocked_iff, fun hblocked => absurd hblocked hfree, fun _ => ?_, ?_⟩
    · simp [happend, hfree]
    · rw [happend]
      refine ⟨by simp [contents, setPage, hpages], { page with content := page.content ++ [line] },
        ?_, by simp⟩
      simp [currentPage?, setPage, hcurrent, hpages]
    · simp [happend]
  · refine ⟨fun _ => ?_, hwell.blocked_iff, fun _ => happend, ?_, fun e herror => ?_⟩
    · simp [happend, hblocked]
    · simp [happend]
    · rw [happend] at herror ⊢
      exact ⟨(Except.error.inj herror).symm, [], by simp, Nat.zero_le _, by simp⟩

/-- A report whose last page is all header, and longer than a page, while new pages have no header
any more. -/
def outgrown : Report :=
  (((Report.bounded 2).withHeader ["a", "b", "c"]).newPage false).withHeader []

theorem reachable_outgrown : outgrown.Reachable :=
  .withHeader _ (.newPage _ (.withHeader _ (.new _)))

/-- After a page break the line that was refused is accepted. -/
theorem append_accepts_afterBreak :
    outgrown.requestBreak.Reachable ∧ (outgrown.requestBreak.nextPage false).capacity = some 2 ∧
      (outgrown.requestBreak.append (Line.ofText "x") false).1 = .ok () ∧
      ∃ page, (outgrown.requestBreak.append (Line.ofText "x") false).2.currentPage? = some page ∧
        page.content.getLast? = some (Line.ofText "x") := by
  have hreachable : outgrown.requestBreak.Reachable := .requestBreak reachable_outgrown
  have hroom : (outgrown.requestBreak.nextPage false).capacity = some 2 := rfl
  rcases append_accepts hreachable (Line.ofText "x") false with ⟨haccepts, -, -, hlast, -⟩
  have haccepted : (outgrown.requestBreak.append (Line.ofText "x") false).1 = .ok () := by
    refine (haccepts (by simp [hroom])).mpr ?_
    rintro ⟨hbreak, -⟩
    contradiction
  exact ⟨hreachable, hroom, haccepted, (hlast haccepted).2⟩

/-- A line is refused although a new page has room for it. -/
theorem outgrown_refuses :
    outgrown.Reachable ∧ (outgrown.nextPage false).capacity = some 2 ∧
      outgrown.append (Line.ofText "x") false = (.error (.pageFull 1), outgrown) :=
  ⟨reachable_outgrown, rfl, rfl⟩

end Report

end Platen
