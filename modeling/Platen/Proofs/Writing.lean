import Mathlib.Data.List.Induction
import Mathlib.Data.List.Infix
import Platen.Proofs.Pagination

/-!
# Writing a report

A report is written by appending lines and asking for page breaks between them.  A line may be
plain; this matters only if the line starts a page, which then has neither header nor footer.  So
pages of two capacities come to follow each other in any order.

Main results:

- Theorem `Report.Written.append_cases`: an appended line starts a page or ends the last one, and
  it is never refused.
- Theorem `Report.written`: what holds of a report while it is written.
- Theorem `Report.write_unbroken`: without breaks and plain lines the pages are the chunks of the
  lines.
- Theorem `Report.write_paginates`: what a written report looks like.
-/

namespace Platen

/-- A page that holds a line, and no more lines than fit. -/
structure Page.Used (pageLength : Option Nat) (page : Page) : Prop where
  pageLength_eq : page.pageLength = pageLength
  fits : page.Fits
  room : page.capacity ≠ some 0
  content : page.content ≠ []

/-- An element of a list with one more element at its end. -/
theorem getElem?_concat_eq_some {α : Type} {xs : List α} {x y : α} {i : Nat}
    (hget : (xs ++ [x])[i]? = some y) : xs[i]? = some y ∨ i = xs.length ∧ y = x := by
  rcases Nat.lt_trichotomy i xs.length with hlt | rfl | hgt
  · exact .inl (by rwa [List.getElem?_append_left hlt] at hget)
  · rw [List.getElem?_concat_length, Option.some.injEq] at hget
    exact .inr ⟨rfl, hget.symm⟩
  · have hlength : (xs ++ [x]).length ≤ i := by
      rw [List.length_append, List.length_singleton]
      exact hgt
    rw [List.getElem?_eq_none hlength] at hget
    contradiction

namespace Report

/-! ## Steps -/

/-- A step in writing a report. -/
inductive Step where
  | append (line : Line) (plain : Bool)
  | requestBreak
  deriving DecidableEq, Repr

namespace Step

/-- The line that a step appends. -/
def line? : Step → Option Line
  | append line _ => some line
  | requestBreak => none

/-- The lines that steps append. -/
def lines (steps : List Step) : List Line :=
  steps.filterMap line?

/-- Whether a page break was asked for and no line was appended since. -/
def BreakPending (steps : List Step) : Prop :=
  ∃ before after, steps = before ++ requestBreak :: after ∧ lines after = []

/-- A further step adds its line, if it has one. -/
theorem lines_concat (steps : List Step) (step : Step) :
    lines (steps ++ [step]) = lines steps ++ step.line?.toList := by
  cases step <;> simp [lines, line?]

/-- After a request for a break a break is pending. -/
theorem breakPending_break (steps : List Step) : BreakPending (steps ++ [requestBreak]) :=
  ⟨steps, [], rfl, rfl⟩

/-- An appended line leaves no break pending. -/
theorem not_breakPending_append (steps : List Step) (line : Line) (plain : Bool) :
    ¬BreakPending (steps ++ [append line plain]) := by
  rintro ⟨before, after, hsteps, hnone⟩
  rcases List.eq_nil_or_concat after with rfl | ⟨rest, last, rfl⟩
  · cases (List.append_inj' hsteps rfl).2
  · rw [List.concat_eq_append, ← List.cons_append, ← List.append_assoc] at hsteps
    cases (List.append_inj' hsteps rfl).2
    rw [List.concat_eq_append, lines_concat] at hnone
    simp [line?] at hnone

end Step

/-- The report after a step, also if the line of the step was refused. -/
def take (report : Report) : Step → Report
  | .append line plain => (report.append line plain).2
  | .requestBreak => report.requestBreak

/-- The report after steps. -/
def write (report : Report) (steps : List Step) : Report :=
  steps.foldl take report

/-- A further step is taken from where the others have led. -/
theorem write_concat (report : Report) (steps : List Step) (step : Step) :
    report.write (steps ++ [step]) = (report.write steps).take step := by
  simp [write]

/-- Steps can be taken in two parts. -/
theorem write_append (report : Report) (steps rest : List Step) :
    (report.write steps).write rest = report.write (steps ++ rest) := by
  simp [write]

/-! ## What steps leave alone -/

/-- Whether a report has grown from another one: it has the same settings and no fewer pages. -/
structure Grows (report after : Report) : Prop where
  format_eq : after.format = report.format
  header_eq : after.header = report.header
  footer_eq : after.footer = report.footer
  length_le : report.pages.length ≤ after.pages.length

namespace Grows

variable {report middle after : Report}

/-- A report grows out of itself. -/
theorem refl (report : Report) : report.Grows report :=
  ⟨rfl, rfl, rfl, Nat.le_refl _⟩

/-- What grows out of a grown report grows out of the first one. -/
theorem trans (hfirst : report.Grows middle) (hsecond : middle.Grows after) :
    report.Grows after where
  format_eq := hsecond.format_eq.trans hfirst.format_eq
  header_eq := hsecond.header_eq.trans hfirst.header_eq
  footer_eq := hsecond.footer_eq.trans hfirst.footer_eq
  length_le := Nat.le_trans hfirst.length_le hsecond.length_le

/-- Replacing a page of a report that has grown. -/
theorem setPage (hgrows : report.Grows after) (index : Nat) (page : Page) :
    report.Grows (after.setPage index page) where
  format_eq := hgrows.format_eq
  header_eq := hgrows.header_eq
  footer_eq := hgrows.footer_eq
  length_le := by simpa [Report.setPage] using hgrows.length_le

/-- New pages have the room that they had at first. -/
theorem nextPage_room (hgrows : report.Grows after)
    (hroom : ∀ plain, (report.nextPage plain).capacity ≠ some 0) (plain : Bool) :
    (after.nextPage plain).capacity ≠ some 0 := by
  have hcapacity : (after.nextPage plain).capacity = (report.nextPage plain).capacity := by
    simp only [nextPage, Page.capacity, hgrows.format_eq, hgrows.header_eq, hgrows.footer_eq]
  rw [hcapacity]
  exact hroom plain

end Grows

/-- A report grows when a line is appended, also if the line is refused. -/
theorem grows_append (report : Report) (line : Line) (plain : Bool) :
    report.Grows (report.append line plain).2 := by
  have hopened : report.Grows
      (if report.needsPage then { report with breakRequested := false }.newPage plain
        else report) := by
    split
    · exact ⟨rfl, rfl, rfl, by simp [newPage]⟩
    · exact .refl report
  simp only [append]
  split
  · exact hopened
  · split
    · exact hopened
    · exact hopened.setPage _ _

/-- A report grows with every step. -/
theorem grows_write (report : Report) (steps : List Step) : report.Grows (report.write steps) := by
  induction steps generalizing report with
  | nil => exact .refl report
  | cons step steps ih =>
      have hstep : report.Grows (report.take step) := by
        cases step with
        | append line plain => exact report.grows_append line plain
        | requestBreak => exact ⟨rfl, rfl, rfl, Nat.le_refl _⟩
      exact hstep.trans (ih (report.take step))

/-! ## Pages of a report that is written -/

/-- Whether the page at an index was started by one of the steps, which appended a line that was
plain or not. -/
def StartedBy (base : Report) (steps : List Step) (index : Nat) (plain : Bool) : Prop :=
  ∃ before line after, steps = before ++ .append line plain :: after ∧
    (base.write before).pages.length = index ∧
    (base.write (before ++ [.append line plain])).pages.length = index + 1

/-- A page is started by the same step when further steps follow. -/
theorem StartedBy.concat {base : Report} {steps : List Step} {index : Nat} {plain : Bool}
    (hstarted : base.StartedBy steps index plain) (step : Step) :
    base.StartedBy (steps ++ [step]) index plain := by
  rcases hstarted with ⟨before, line, after, rfl, hbefore, hafter⟩
  exact ⟨before, line, after ++ [step], by simp, hbefore, hafter⟩

/-- A page is started by one step only. -/
theorem StartedBy.unique {base : Report} {steps : List Step} {index : Nat} {plain plain' : Bool}
    (hstarted : base.StartedBy steps index plain) (hstarted' : base.StartedBy steps index plain') :
    plain = plain' := by
  rcases hstarted with ⟨before, line, after, rfl, hbefore, hafter⟩
  rcases hstarted' with ⟨before', line', after', hsteps, hbefore', hafter'⟩
  have hsame : ∀ {front front' mid rest rest' : List Step} {step step' : Step},
      (base.write (front ++ [step])).pages.length = index + 1 →
      (base.write front').pages.length = index → front' = front ++ mid →
      step :: rest = mid ++ step' :: rest' → step = step' := by
    rintro front _ mid rest rest' step step' hfirst hsecond rfl hrest
    cases mid with
    | nil => exact (List.cons.inj hrest).1
    | cons other mid =>
        cases (List.cons.inj hrest).1
        -- the later of the two steps would find a page more than it may
        have hle := ((base.write (front ++ [step])).grows_write mid).length_le
        rw [write_append, List.append_assoc, List.singleton_append] at hle
        omega
  rcases List.append_eq_append_iff.mp hsteps with ⟨mid, hmid, hrest⟩ | ⟨mid, hmid, hrest⟩
  · cases hsame hafter hbefore' hmid hrest
    rfl
  · cases hsame hafter' hbefore hmid hrest
    rfl

/-- Whether a page was started by one of the steps and has the frame that follows: none if the line
was plain, and otherwise the header and footer of the report. -/
def FramedBy (base : Report) (steps : List Step) (index : Nat) (page : Page) : Prop :=
  ∃ plain, base.StartedBy steps index plain ∧
    page.header = (if plain then [] else base.header.map Line.ofText) ∧
    page.footer = (if plain then [] else base.footer.map Line.ofText)

/-- A further line on a page leaves its header and footer alone. -/
theorem FramedBy.concat {base : Report} {steps : List Step} {index : Nat} {page : Page}
    (hframed : base.FramedBy steps index page) (step : Step) (content : List Line) :
    base.FramedBy (steps ++ [step]) index { page with content } := by
  rcases hframed with ⟨plain, hstarted, hframe⟩
  exact ⟨plain, hstarted.concat step, hframe⟩

/-- What holds of a report while it is written. -/
structure Written (base : Report) (steps : List Step) : Prop where
  current_eq : (base.write steps).pages ≠ [] →
    (base.write steps).current = some ((base.write steps).pages.length - 1)
  break_iff : (base.write steps).pages ≠ [] →
    ((base.write steps).breakRequested = true ↔ Step.BreakPending steps)
  contents_eq : (base.write steps).contents = Step.lines steps
  used : ∀ page ∈ (base.write steps).pages, page.Used base.format.pageLength
  framed : ∀ index page, (base.write steps).pages[index]? = some page →
    base.FramedBy steps index page

namespace Written

variable {base : Report} {steps : List Step}

/-- A report without pages is written by no steps. -/
theorem nil (hpages : base.pages = []) : base.Written [] where
  current_eq := fun hne => absurd hpages hne
  break_iff := fun hne => absurd hpages hne
  contents_eq := by simp [write, contents, hpages, Step.lines]
  used := by simp [write, hpages]
  framed := by simp [write, hpages]

/-- Lines are written on the last page. -/
theorem currentPage?_eq (hwritten : base.Written steps) :
    (base.write steps).currentPage? = (base.write steps).pages.getLast? := by
  by_cases hpages : (base.write steps).pages = []
  · cases hcurrent : (base.write steps).current <;> simp [currentPage?, hcurrent, hpages]
  · rw [currentPage?, hwritten.current_eq hpages, List.getLast?_eq_getElem?]
    rfl

/-- A new page is needed if there is none, if a break is pending, or if the current page is as long
as pages can be. -/
theorem needsPage_iff (hwritten : base.Written steps) :
    (base.write steps).needsPage = true ↔
      (base.write steps).pages = [] ∨ Step.BreakPending steps ∨
        ∃ page, (base.write steps).currentPage? = some page ∧
          base.format.pageLength = some page.size := by
  rw [needsPage]
  rcases List.eq_nil_or_concat (base.write steps).pages with hpages | ⟨before, page, hpages⟩
  · simp [hwritten.currentPage?_eq, hpages]
  · have hne : (base.write steps).pages ≠ [] := by simp [hpages]
    have hlength : page.pageLength = base.format.pageLength :=
      (hwritten.used page (by simp [hpages])).pageLength_eq
    have hfull : page.isFull = true ↔ base.format.pageLength = some page.size := by
      rw [Page.isFull, hlength]
      cases base.format.pageLength with
      | none => simp
      | some length =>
          rw [Option.any_some, beq_iff_eq, Option.some.injEq]
          exact eq_comm
    have hlast : (base.write steps).currentPage? = some page := by
      simp [hwritten.currentPage?_eq, hpages]
    simp only [hlast, Bool.or_eq_true, hwritten.break_iff hne, hfull, hne, false_or,
      Option.some.injEq, exists_eq_left']

/-- An appended line is never refused: it stands alone on a new page if one is needed, and else at
the end of the last page. -/
theorem append_cases (hwritten : base.Written steps)
    (hroom : ∀ plain, (base.nextPage plain).capacity ≠ some 0) (line : Line) (plain : Bool) :
    ((base.write steps).needsPage = true ∧
      (base.write steps).append line plain = (.ok (), (base.write steps).openedWith line plain)) ∨
    ∃ before page, (base.write steps).needsPage = false ∧
      (base.write steps).pages = before ++ [page] ∧
      Admits page.capacity (page.content.length + 1) ∧
      (base.write steps).append line plain =
        (.ok (), (base.write steps).setPage before.length
          { page with content := page.content ++ [line] }) := by
  by_cases hneeds : (base.write steps).needsPage = true
  · have hnext := (base.grows_write steps).nextPage_room hroom plain
    exact .inl ⟨hneeds, append_eq_openedWith hneeds hnext line⟩
  · have hne : (base.write steps).pages ≠ [] := fun hnil =>
      hneeds (hwritten.needsPage_iff.mpr (.inl hnil))
    rcases List.eq_nil_or_concat (base.write steps).pages with hnil | ⟨before, page, hpages⟩
    · exact absurd hnil hne
    · rw [List.concat_eq_append] at hpages
      have hused := hwritten.used page (by simp [hpages])
      have hcurrent : (base.write steps).current = some before.length := by
        rw [hwritten.current_eq hne, hpages]
        simp
      have hopen : page.capacity ≠ some page.content.length := by
        intro hfull
        have hisFull := (Page.isFull_iff hused.room).mpr hfull
        apply hneeds
        simp [needsPage, hwritten.currentPage?_eq, hpages, hisFull]
      have hadmits := hused.fits.admits_succ hopen
      exact .inr ⟨before, page, by simpa using hneeds, hpages, hadmits,
        append_to_last hpages hcurrent hneeds hadmits line plain⟩

/-- Asking for a page break changes nothing else. -/
theorem requestBreak (hwritten : base.Written steps) :
    base.Written (steps ++ [.requestBreak]) where
  current_eq := by
    rw [write_concat]
    exact hwritten.current_eq
  break_iff := by
    rw [write_concat]
    exact fun _ => iff_of_true rfl (Step.breakPending_break steps)
  contents_eq := by
    rw [write_concat, Step.lines_concat, Step.line?, Option.toList_none, List.append_nil]
    exact hwritten.contents_eq
  used := by
    rw [write_concat]
    exact hwritten.used
  framed := by
    rw [write_concat]
    exact fun index page hget => (hwritten.framed index page hget).concat _ page.content

/-- A line that stands alone on a new page. -/
theorem opened (hwritten : base.Written steps)
    (hroom : ∀ plain, (base.nextPage plain).capacity ≠ some 0) {line : Line} {plain : Bool}
    (hafter : base.write (steps ++ [.append line plain]) =
      (base.write steps).openedWith line plain) :
    base.Written (steps ++ [.append line plain]) where
  current_eq := by
    rw [hafter]
    simp [openedWith]
  break_iff := by
    rw [hafter]
    exact fun _ => iff_of_false Bool.false_ne_true (Step.not_breakPending_append steps line plain)
  contents_eq := by
    rw [hafter, Step.lines_concat, ← hwritten.contents_eq]
    simp [contents, openedWith, Step.line?]
  used := by
    rw [hafter]
    intro page hpage
    rcases List.mem_append.mp hpage with hold | hnew
    · exact hwritten.used page hold
    · have hnext := (base.grows_write steps).nextPage_room hroom plain
      have hfits : ((base.write steps).nextPage plain).Fits := Page.fits_of_content_nil rfl
      rw [List.mem_singleton.mp hnew]
      have hlength := congrArg PageFormat.pageLength (base.grows_write steps).format_eq
      exact ⟨hlength, hfits.admits_succ hnext, hnext, List.cons_ne_nil _ _⟩
  framed := by
    intro index page hget
    have hpages : (base.write (steps ++ [.append line plain])).pages =
        (base.write steps).pages ++
          [{ (base.write steps).nextPage plain with content := [line] }] := by
      rw [hafter]
      rfl
    rw [hpages] at hget
    rcases getElem?_concat_eq_some hget with hold | ⟨rfl, rfl⟩
    · exact (hwritten.framed index page hold).concat _ page.content
    · refine ⟨plain, ⟨steps, line, [], rfl, rfl, by simp [hpages]⟩, ?_, ?_⟩
      · rw [← (base.grows_write steps).header_eq]
        rfl
      · rw [← (base.grows_write steps).footer_eq]
        rfl

/-- A line at the end of the last page. -/
theorem extended (hwritten : base.Written steps) {before : List Page} {page : Page}
    (hneeds : (base.write steps).needsPage = false)
    (hpages : (base.write steps).pages = before ++ [page])
    (hadmits : Admits page.capacity (page.content.length + 1)) {line : Line} {plain : Bool}
    (hafter : base.write (steps ++ [.append line plain]) =
      (base.write steps).setPage before.length { page with content := page.content ++ [line] }) :
    base.Written (steps ++ [.append line plain]) := by
  have hpages' : (base.write (steps ++ [.append line plain])).pages =
      before ++ [{ page with content := page.content ++ [line] }] := by
    rw [hafter, setPage, hpages]
    simp
  have hne : (base.write steps).pages ≠ [] := by simp [hpages]
  have hunbroken : ¬(base.write steps).breakRequested = true := by
    intro hbreak
    have hpending := (hwritten.break_iff hne).mp hbreak
    rw [hwritten.needsPage_iff.mpr (.inr (.inl hpending))] at hneeds
    contradiction
  constructor
  case current_eq =>
    intro _
    rw [hafter]
    refine (hwritten.current_eq hne).trans ?_
    simp [setPage]
  case break_iff =>
    intro _
    rw [hafter]
    exact iff_of_false hunbroken (Step.not_breakPending_append steps line plain)
  case contents_eq =>
    rw [Step.lines_concat, ← hwritten.contents_eq, contents, contents, hpages', hpages]
    simp [Step.line?]
  case used =>
    intro other hother
    rw [hpages'] at hother
    rcases List.mem_append.mp hother with hold | hlast
    · exact hwritten.used other (by simp [hpages, hold])
    · have hused := hwritten.used page (by simp [hpages])
      have hfits : Admits page.capacity (page.content ++ [line]).length := by
        rw [List.length_append]
        exact hadmits
      rw [List.mem_singleton.mp hlast]
      exact ⟨hused.pageLength_eq, hfits, hused.room, by simp⟩
  case framed =>
    intro index other hget
    rw [hpages'] at hget
    rcases getElem?_concat_eq_some hget with hold | ⟨rfl, rfl⟩
    · have hlt : index < before.length := (List.getElem?_eq_some_iff.mp hold).1
      have hbefore : (base.write steps).pages[index]? = some other := by
        rw [hpages, List.getElem?_append_left hlt, hold]
      exact (hwritten.framed index other hbefore).concat _ other.content
    · exact (hwritten.framed _ page (by simp [hpages])).concat _ _

/-- Appending a line. -/
theorem append (hwritten : base.Written steps)
    (hroom : ∀ plain, (base.nextPage plain).capacity ≠ some 0) (line : Line) (plain : Bool) :
    base.Written (steps ++ [.append line plain]) := by
  have hstep : base.write (steps ++ [.append line plain]) =
      ((base.write steps).append line plain).2 := write_concat base steps _
  rcases hwritten.append_cases hroom line plain with
    ⟨-, happend⟩ | ⟨before, page, hneeds, hpages, hadmits, happend⟩
  · rw [happend] at hstep
    exact hwritten.opened hroom hstep
  · rw [happend] at hstep
    exact hwritten.extended hneeds hpages hadmits hstep

/-- An appended line is never refused, and it starts a page exactly if one is needed. -/
theorem starts_iff (hwritten : base.Written steps)
    (hroom : ∀ plain, (base.nextPage plain).capacity ≠ some 0) (line : Line) (plain : Bool) :
    ((base.write steps).append line plain).1 = .ok () ∧
      (((base.write steps).append line plain).2.pages.length =
          (base.write steps).pages.length + 1 ↔ (base.write steps).needsPage = true) := by
  rcases hwritten.append_cases hroom line plain with
    ⟨hneeds, happend⟩ | ⟨before, page, hneeds, -, -, happend⟩
  · rw [happend]
    exact ⟨rfl, iff_of_true (by simp [openedWith]) hneeds⟩
  · rw [happend]
    exact ⟨rfl, iff_of_false (by simp [setPage]) (by simp [hneeds])⟩

end Written

/-- What holds of a report while it is written, if it has room for lines. -/
theorem written {base : Report} (hpages : base.pages = [])
    (hroom : ∀ plain, (base.nextPage plain).capacity ≠ some 0) (steps : List Step) :
    base.Written steps := by
  induction steps using List.reverseRecOn with
  | nil => exact .nil hpages
  | append_singleton steps step ih =>
      cases step with
      | append line plain => exact ih.append hroom line plain
      | requestBreak => exact ih.requestBreak

/-! ## Writing without breaks -/

/-- Writing lines that are not plain appends them one after the other. -/
theorem write_eq_of_appendAll {report after : Report} {lines : List Line}
    (happend : report.appendAll lines = (.ok (), after)) :
    report.write (lines.map (.append · false)) = after := by
  induction lines generalizing report with
  | nil =>
      cases happend
      rfl
  | cons line lines ih =>
      rw [appendAll] at happend
      split at happend
      · cases happend
      · rename_i next hnext
        have htake : report.take (.append line false) = next := by
          rw [take, hnext]
        rw [List.map_cons, write, List.foldl_cons, htake]
        exact ih happend

/-- Without breaks and plain lines the pages are the chunks of the lines, also if a break was asked
for before the first line. -/
theorem write_unbroken {base : Report} (hpages : base.pages = [])
    (hroom : (base.nextPage false).capacity ≠ some 0) (lines : List Line) :
    (base.write (lines.map (.append · false))).pages = base.newPages lines := by
  have hfresh := write_eq_of_appendAll
    (@appendAll_of_pages_nil { base with breakRequested := false } hpages rfl hroom lines)
  have hpoured : (Report.poured { base with breakRequested := false } [] lines []).pages =
      base.newPages lines := rfl
  cases lines with
  | nil => rw [List.map_nil, write, List.foldl_nil, hpages, newPages_nil]
  | cons line lines =>
      have htake : base.take (.append line false) =
          Report.take { base with breakRequested := false } (.append line false) := by
        have hunasked : { base with breakRequested := false }.needsPage = true :=
          needsPage_of_pages_nil hpages
        rw [take, take, append_of_needsPage (needsPage_of_pages_nil hpages) hroom,
          append_of_needsPage hunasked hroom]
      rw [← hpoured, ← hfresh, List.map_cons, write, List.foldl_cons, htake]
      rfl

/-- What a written report looks like.

No line is refused.  A line starts a page exactly if there is none, if a break was asked for since
the line before, or if the current page is as long as pages can be.  The content of the pages, one
after the other, is the lines in the order in which they were appended, and no page is without
content.  A page whose first line was plain has neither header nor footer, and every other page has
those of the report.  Lines that are not plain fill the pages one after the other if no break is
asked for. -/
theorem write_paginates {base : Report} (hpages : base.pages = [])
    (hroom : ∀ length, base.format.pageLength = some length →
      base.header.length + base.footer.length < length) (steps : List Step) :
    (∀ before line plain after, steps = before ++ .append line plain :: after →
      ((base.write before).append line plain).1 = .ok () ∧
        ((base.write (before ++ [.append line plain])).pages.length =
            (base.write before).pages.length + 1 ↔
          (base.write before).pages = [] ∨ Step.BreakPending before ∨
            ∃ page, (base.write before).currentPage? = some page ∧
              base.format.pageLength = some page.size)) ∧
    (base.write steps).contents = Step.lines steps ∧
    (∀ page ∈ (base.write steps).pages, page.content ≠ []) ∧
    (∀ index page, (base.write steps).pages[index]? = some page →
      (∃ plain, base.StartedBy steps index plain) ∧
        ∀ plain, base.StartedBy steps index plain →
          page.header = (if plain then [] else base.header.map Line.ofText) ∧
          page.footer = (if plain then [] else base.footer.map Line.ofText) ∧
          (page.header ++ page.footer = [] ↔
            plain = true ∨ base.header ++ base.footer = [])) ∧
    ∀ (lines : List Line) (length : Nat), steps = lines.map (.append · false) →
      base.format.pageLength = some length →
        (base.write steps).pages.length =
          (lines.length + (length - base.header.length - base.footer.length) - 1) /
            (length - base.header.length - base.footer.length) ∧
        ∀ page ∈ (base.write steps).pages.dropLast, page.size = length := by
  have hnext : ∀ plain, (base.nextPage plain).capacity ≠ some 0 := capacity_nextPage_ne_zero hroom
  have hwritten : base.Written steps := written hpages hnext steps
  refine ⟨?_, hwritten.contents_eq, fun page hpage => (hwritten.used page hpage).content, ?_, ?_⟩
  · rintro before line plain after rfl
    have hbefore : base.Written before := written hpages hnext before
    rw [write_concat, ← hbefore.needsPage_iff]
    exact hbefore.starts_iff hnext line plain
  · intro index page hget
    rcases hwritten.framed index page hget with ⟨plain, hstarted, hheader, hfooter⟩
    refine ⟨⟨plain, hstarted⟩, fun plain' hstarted' => ?_⟩
    cases hstarted.unique hstarted'
    refine ⟨hheader, hfooter, ?_⟩
    cases plain <;> simp [hheader, hfooter]
  · rintro lines length rfl hlength
    have hlt := hroom length hlength
    have hcapacity : (base.nextPage false).capacity =
        some (length - base.header.length - base.footer.length) := by
      simp [nextPage, Page.capacity, hlength, Nat.sub_sub]
    rw [write_unbroken hpages (hnext false)]
    constructor
    · rw [newPages, length_freshPages, hcapacity, length_chunks (by omega)]
    · intro page hpage
      have hfull := (newPages_spec (.inr (hnext false))).2 page hpage
      rcases mem_freshPages (List.mem_of_mem_dropLast hpage) with ⟨content, -, number, rfl⟩
      simp only [seeded, nextPage, Page.capacity, hlength, Option.map_some, Option.some.injEq,
        Bool.false_eq_true, if_false, List.length_map] at hfull
      simp only [Page.size, seeded, nextPage, Bool.false_eq_true, if_false, List.length_map]
      omega

/-- A report of pages of four lines with a header and a footer. -/
def framedSheet : Report :=
  ((Report.bounded 4).withHeader ["top"]).withFooter ["end"]

/-- Lines of which the second and third are plain: only the third starts a page.  The fourth comes
after a break. -/
def mixedSteps : List Step :=
  [.append (Line.ofText "a") false, .append (Line.ofText "b") true,
    .append (Line.ofText "c") true, .requestBreak, .append (Line.ofText "d") false]

/-- Three lines, none of them plain, without a break. -/
def threeSteps : List Step :=
  (["a", "b", "c"].map Line.ofText).map (.append · false)

theorem write_mixedSteps :
    (framedSheet.write mixedSteps).contents = ["a", "b", "c", "d"].map Line.ofText ∧
      (∃ page, (framedSheet.write mixedSteps).pages[1]? = some page ∧ page.content ≠ [] ∧
        page.header = [] ∧ page.footer = []) ∧
      ((framedSheet.write (mixedSteps.take 4)).append (Line.ofText "d") false).1 = .ok () ∧
      (framedSheet.write mixedSteps).pages.length =
        (framedSheet.write (mixedSteps.take 4)).pages.length + 1 ∧
      (framedSheet.write threeSteps).pages.length = 2 := by
  have hroom : ∀ length, framedSheet.format.pageLength = some length →
      framedSheet.header.length + framedSheet.footer.length < length := by
    rintro _ ⟨⟩
    decide
  rcases write_paginates rfl hroom mixedSteps with ⟨happends, hcontents, hcontent, hpages, -⟩
  rcases write_paginates rfl hroom threeSteps with ⟨-, -, -, -, hunbroken⟩
  refine ⟨hcontents, ?_, ?_, ?_, ?_⟩
  · obtain ⟨page, hget⟩ : ∃ page, (framedSheet.write mixedSteps).pages[1]? = some page := ⟨_, rfl⟩
    have hstarted : framedSheet.StartedBy mixedSteps 1 true :=
      ⟨mixedSteps.take 2, Line.ofText "c", mixedSteps.drop 3, rfl, rfl, rfl⟩
    rcases (hpages 1 page hget).2 true hstarted with ⟨hheader, hfooter, -⟩
    exact ⟨page, hget, hcontent page (List.mem_of_getElem? hget), hheader, hfooter⟩
  · exact (happends (mixedSteps.take 4) _ _ [] rfl).1
  · have hbreak : Step.BreakPending (mixedSteps.take 4) :=
      ⟨mixedSteps.take 3, [], rfl, rfl⟩
    exact (happends (mixedSteps.take 4) _ _ [] rfl).2.mpr (.inr (.inl hbreak))
  · exact (hunbroken (["a", "b", "c"].map Line.ofText) 4 rfl rfl).1

end Report

end Platen
