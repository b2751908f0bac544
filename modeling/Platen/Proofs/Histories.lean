import Platen.Proofs.Reachable

/-!
# Histories of a report

A report is made by one operation after the other.  Here the operations are data and a history is a
list of them; an operation that fails leaves the report as the failure does.  Whatever the history,
the report keeps its books: its pages are numbered, counted and filled as they should be.

Main results:

- Theorem `Report.reachable_history`: every history leads to a reachable report.
- Theorem `Page.Fits.isOverflow_iff`: a page whose content fits is too long exactly if its header
  and footer alone are.
- Theorem `Report.history_invariant`: what holds of a report after every history.
-/

namespace Platen

namespace Report

/-! ## Operations -/

/-- What can be done to a report.  An operation on a page names the page by its index. -/
inductive Operation where
  | setHeader (texts : List String)
  | setFooter (texts : List String)
  | startPage (plain : Bool)
  | append (line : Line) (plain : Bool)
  | requestBreak
  | number
  | appendTo (index : Nat) (line : Line)
  | insertInto (index position : Nat) (line : Line)
  | removeFrom (index position : Nat)
  | numberPage (index : Nat)
  | expand (resolver : Resolver) (sources : List Source) (memory : Memory)

/-- The report with a page changed, if there is such a page and the change does not fail. -/
def edit (report : Report) (index : Nat) (change : Page → Option Page) : Report :=
  match report.pages[index]?.bind change with
  | some page => report.setPage index page
  | none => report

/-- The report after an operation, also if the operation failed. -/
def perform (report : Report) : Operation → Report
  | .setHeader texts => report.withHeader texts
  | .setFooter texts => report.withFooter texts
  | .startPage plain => report.newPage plain
  | .append line plain => (report.append line plain).2
  | .requestBreak => report.requestBreak
  | .number => report.numbered
  | .appendTo index line => report.edit index fun page => (page.append line).toOption
  | .insertInto index position line =>
    report.edit index fun page => ((page.insert line position).map Prod.fst).toOption
  | .removeFrom index position => report.edit index fun page => (page.remove position).map Prod.snd
  | .numberPage index => report.edit index fun page => some (page.numbered none)
  | .expand resolver sources memory => (report.expand resolver sources memory).report

/-- The report that a list of operations makes of an empty one. -/
def history (format : PageFormat) (operations : List Operation) : Report :=
  operations.foldl perform { format }

/-! ## Histories lead to reachable reports -/

/-- A change of a page leads to a reachable report if every page it can give does. -/
theorem reachable_edit {report : Report} {index : Nat} {change : Page → Option Page}
    (hreachable : report.Reachable)
    (hchange : ∀ page page', report.pages[index]? = some page → change page = some page' →
      (report.setPage index page').Reachable) : (report.edit index change).Reachable := by
  unfold edit
  split
  · rename_i page' hedited
    rcases Option.bind_eq_some_iff.mp hedited with ⟨page, hget, hpage⟩
    exact hchange page page' hget hpage
  · exact hreachable

/-- Every operation leads from a reachable report to a reachable one. -/
theorem Reachable.perform {report : Report} (hreachable : report.Reachable)
    (operation : Operation) : (report.perform operation).Reachable := by
  cases operation with
  | setHeader texts => exact hreachable.withHeader texts
  | setFooter texts => exact hreachable.withFooter texts
  | startPage plain => exact hreachable.newPage plain
  | append line plain => exact hreachable.append line plain
  | requestBreak => exact hreachable.requestBreak
  | number => exact hreachable.numbered
  | appendTo index line =>
      refine reachable_edit hreachable ?_
      intro page page' hget hpage
      cases happend : page.append line with
      | error e => simp [happend, Except.toOption] at hpage
      | ok result =>
          obtain rfl : result = page' := by simpa [happend, Except.toOption] using hpage
          exact hreachable.appendTo hget happend
  | insertInto index position line =>
      refine reachable_edit hreachable ?_
      intro page page' hget hpage
      cases hinsert : page.insert line position with
      | error e => simp [hinsert, Except.map, Except.toOption] at hpage
      | ok result =>
          rcases result with ⟨result, out⟩
          obtain rfl : result = page' := by
            simpa [hinsert, Except.map, Except.toOption] using hpage
          exact hreachable.insertInto hget hinsert
  | removeFrom index position =>
      refine reachable_edit hreachable ?_
      intro page page' hget hpage
      rcases Option.map_eq_some_iff.mp hpage with ⟨⟨line, result⟩, hremove, rfl⟩
      exact hreachable.removeFrom hget hremove
  | numberPage index =>
      refine reachable_edit hreachable ?_
      intro page page' hget hpage
      obtain rfl := Option.some.inj hpage
      exact hreachable.numberPage hget
  | expand resolver sources memory => exact hreachable.expandFirst resolver sources _ memory

/-- Every history leads to a reachable report. -/
theorem reachable_history (format : PageFormat) (operations : List Operation) :
    (history format operations).Reachable := by
  have hrun : ∀ report : Report, report.Reachable →
      (operations.foldl perform report).Reachable := by
    induction operations with
    | nil => exact fun report hreachable => hreachable
    | cons operation operations ih =>
        exact fun report hreachable => ih _ (hreachable.perform operation)
  exact hrun _ (.new format)

end Report

/-! ## The books of a report -/

namespace Page

/-- A page whose content fits is too long exactly if its header and footer alone are. -/
theorem Fits.isOverflow_iff {page : Page} (hfits : page.Fits) :
    page.isOverflow = true ↔
      ∃ length, page.pageLength = some length ∧
        length < page.header.length + page.footer.length := by
  cases hlength : page.pageLength with
  | none => simp [isOverflow, hlength]
  | some length =>
      have hle : page.content.length ≤ length - (page.header.length + page.footer.length) :=
        hfits _ (by simp [capacity, hlength])
      have hover : page.isOverflow = true ↔ length < page.size := by
        simp [isOverflow, hlength]
      rw [hover, size]
      simp only [Option.some.injEq, exists_eq_left']
      omega

/-- A page that is too long has no content. -/
theorem Fits.content_eq_nil {page : Page} (hfits : page.Fits) (hover : page.isOverflow = true) :
    page.content = [] := by
  rcases hfits.isOverflow_iff.mp hover with ⟨length, hlength, hlt⟩
  have hle : page.content.length ≤ length - (page.header.length + page.footer.length) :=
    hfits _ (by simp [capacity, hlength])
  exact List.length_eq_zero_iff.mp (by omega)

end Page

namespace Report

/-- The number of a page of a well-formed report is one more than its index. -/
theorem WellFormed.number_eq {report : Report} (hwell : report.WellFormed) {i : Nat} {page : Page}
    (hget : report.pages[i]? = some page) : page.number = i + 1 := by
  have hnumber := congrArg (·[i]?) hwell.numbers
  rcases List.getElem?_eq_some_iff.mp hget with ⟨hlt, -⟩
  simp only [List.getElem?_map, hget, Option.map_some, List.getElem?_range' hlt,
    Option.some.injEq] at hnumber
  omega

/-- The current page of a well-formed report is its last one, if it has pages. -/
theorem WellFormed.currentPage?_eq {report : Report} (hwell : report.WellFormed) :
    report.currentPage? = report.pages.getLast? := by
  rw [currentPage?, hwell.current, List.getLast?_eq_getElem?]
  split
  · rename_i hnone
    simp [List.length_eq_zero_iff.mp hnone]
  · rfl

/-- After every history, also one with failed operations, the pages are numbered from one, have the
page length of the report and no more content than fits; the last page number is the number of
pages, and the last page is the current one.  A page is too long only if its header and footer are,
and then it has no content. -/
theorem history_invariant (format : PageFormat) (operations : List Operation) :
    let report := history format operations
    report.lastPageNumber = report.pages.length ∧
    report.current = (if report.pages.length = 0 then none else some (report.pages.length - 1)) ∧
    report.currentPage? = report.pages.getLast? ∧
    ∀ (i : Nat) (page : Page), report.pages[i]? = some page →
      page.number = i + 1 ∧
      page.pageLength = report.format.pageLength ∧
      (∀ capacity, page.capacity = some capacity → page.content.length ≤ capacity) ∧
      (page.isOverflow = true ↔ ∃ length, page.pageLength = some length ∧
        length < page.header.length + page.footer.length) ∧
      (page.isOverflow = true → page.content = []) := by
  intro report
  have hwell := (reachable_history format operations).wellFormed
  refine ⟨hwell.last, hwell.current, hwell.currentPage?_eq, ?_⟩
  intro i page hget
  have hsound := hwell.sound page (List.mem_of_getElem? hget)
  exact ⟨hwell.number_eq hget, hsound.pageLength_eq, hsound.fits, hsound.fits.isOverflow_iff,
    hsound.fits.content_eq_nil⟩

end Report

end Platen
