import Mathlib.Algebra.GroupWithZero.Nat
import Mathlib.Data.List.Forall2
import Platen.Proofs.Histories
import Platen.Proofs.Isolation
import Platen.Proofs.PrinterStyles

/-!
# Positions

Directives can ask for the number of the page, of the line on the page and of the line in the
report.  A line carries its last two numbers with it, so they are out of date as soon as lines are
put in front of it.  Before the lines are rendered all of them are numbered anew, and what a
directive is told is where the line stands in print.

Main results:

- Theorems `Page.lines_numbered` and `Report.getElem?_numberPages`: which number each line gets.
- Theorem `Report.unnumbered_numbered`: numbering changes nothing but the numbers.
- Theorem `Job.renderPages_calls`: rendering a report gives each line, with its position, to its
  directives.
- Theorem `Job.fill_positions`: the positions of all lines of a filled report.
-/

namespace Platen

/-! ## Numbers of lines -/

namespace Line

/-- A line without its numbers. -/
def unnumbered (line : Line) : Line :=
  { line with number := none, globalNumber := none }

/-- Numbering a line changes nothing but its numbers. -/
theorem unnumbered_numbered (line : Line) (index : Nat) (firstGlobal : Option Nat) :
    (line.numbered index firstGlobal).unnumbered = line.unnumbered :=
  rfl

/-- The position of a numbered line does not depend on the numbers that it had before. -/
theorem position_numbered (line : Line) (index firstGlobal page : Nat) :
    (line.numbered index (some firstGlobal)).position page =
      { page, line := index + 1, globalLine := firstGlobal + index } :=
  rfl

end Line

namespace Page

theorem numberFrom_append (index : Nat) (firstGlobal : Option Nat) (lines rest : List Line) :
    numberFrom index firstGlobal (lines ++ rest) =
      numberFrom index firstGlobal lines ++
        numberFrom (index + lines.length) firstGlobal rest := by
  induction lines generalizing index with
  | nil => rfl
  | cons line lines ih =>
      have hindex : index + 1 + lines.length = index + (line :: lines).length := by
        rw [List.length_cons]
        omega
      rw [List.cons_append, numberFrom, numberFrom, ih, hindex]
      rfl

/-- Every line gets the number of its place among the lines. -/
theorem getElem?_numberFrom (index : Nat) (firstGlobal : Option Nat) (lines : List Line) (j : Nat) :
    (numberFrom index firstGlobal lines)[j]? =
      lines[j]?.map (·.numbered (index + j) firstGlobal) := by
  induction lines generalizing index j with
  | nil => rfl
  | cons line lines ih =>
      cases j with
      | zero => rfl
      | succ j =>
          rw [numberFrom, List.getElem?_cons_succ, List.getElem?_cons_succ, ih]
          rw [Nat.add_right_comm]
          rfl

/-- The lines of a page are numbered through, from the header over the content to the footer. -/
theorem lines_numbered (page : Page) (firstGlobal : Option Nat) :
    (page.numbered firstGlobal).lines = numberFrom 0 firstGlobal page.lines := by
  rw [lines, lines, numberFrom_append, numberFrom_append, List.length_append, Nat.zero_add,
    Nat.zero_add]
  rfl

theorem length_lines (page : Page) : page.lines.length = page.size := by
  rw [lines, List.length_append, List.length_append, size]

/-- A page whose lines have no numbers. -/
def unnumbered (page : Page) : Page :=
  { page with
    header := page.header.map Line.unnumbered
    content := page.content.map Line.unnumbered
    footer := page.footer.map Line.unnumbered }

theorem map_unnumbered_numberFrom (index : Nat) (firstGlobal : Option Nat) (lines : List Line) :
    (numberFrom index firstGlobal lines).map Line.unnumbered = lines.map Line.unnumbered := by
  induction lines generalizing index with
  | nil => rfl
  | cons line lines ih =>
      rw [numberFrom, List.map_cons, List.map_cons, ih, Line.unnumbered_numbered]

theorem unnumbered_numbered (page : Page) (firstGlobal : Option Nat) :
    (page.numbered firstGlobal).unnumbered = page.unnumbered := by
  simp only [unnumbered, numbered, map_unnumbered_numberFrom]

/-- The numbers in the report of lines that are numbered from a number on. -/
theorem globalLines_numberFrom (index firstGlobal page : Nat) (lines : List Line) :
    (numberFrom index (some firstGlobal) lines).map (fun line => (line.position page).globalLine) =
      List.range' (firstGlobal + index) lines.length := by
  induction lines generalizing index with
  | nil => rfl
  | cons line lines ih =>
      rw [numberFrom, List.map_cons, ih, List.length_cons, List.range'_succ]
      rfl

end Page

namespace Report

/-- The position of line `j` of page `i`, both counted from zero, in print. -/
def positionOf (report : Report) (i j : Nat) : Position where
  page := i + 1
  line := j + 1
  globalLine := ((report.pages.take i).map Page.size).sum + j + 1

/-- Every page is numbered on from the number of lines before it. -/
theorem getElem?_numberPages (next : Nat) (pages : List Page) (i : Nat) :
    (numberPages next pages)[i]? =
      pages[i]?.map (·.numbered (some (next + ((pages.take i).map Page.size).sum))) := by
  induction pages generalizing next i with
  | nil => rfl
  | cons page pages ih =>
      cases i with
      | zero => rfl
      | succ i =>
          rw [numberPages, List.getElem?_cons_succ, List.getElem?_cons_succ, ih,
            List.take_succ_cons, List.map_cons, List.sum_cons, Nat.add_assoc]

/-- Numbering adds no line to a page and takes none away. -/
theorem sizes_numberPages (next : Nat) (pages : List Page) :
    (numberPages next pages).map Page.size = pages.map Page.size := by
  induction pages generalizing next with
  | nil => rfl
  | cons page pages ih =>
      have hsize : (page.numbered (some next)).size = page.size := by
        rw [← Page.length_lines, Page.lines_numbered, Page.length_numberFrom, Page.length_lines]
      rw [numberPages, List.map_cons, List.map_cons, ih, hsize]

/-- The lines of a report are numbered from one without a gap. -/
theorem globalLines_numberPages (next : Nat) (pages : List Page) :
    ((numberPages next pages).flatMap fun page =>
        page.lines.map fun line => (line.position page.number).globalLine) =
      List.range' next (pages.flatMap Page.lines).length := by
  induction pages generalizing next with
  | nil => rfl
  | cons page pages ih =>
      rw [numberPages, List.flatMap_cons, ih, Page.lines_numbered, Page.globalLines_numberFrom,
        List.flatMap_cons, List.length_append, Nat.add_zero, ← Page.length_lines,
        List.range'_append_1]

/-- A report whose lines have no numbers. -/
def unnumbered (report : Report) : Report :=
  { report with pages := report.pages.map Page.unnumbered }

/-- Numbering the lines of a report changes nothing but the numbers. -/
theorem unnumbered_numbered (report : Report) : report.numbered.unnumbered = report.unnumbered := by
  have hpages : ∀ (next : Nat) (pages : List Page),
      (numberPages next pages).map Page.unnumbered = pages.map Page.unnumbered := by
    intro next pages
    induction pages generalizing next with
    | nil => rfl
    | cons page pages ih =>
        rw [numberPages, List.map_cons, List.map_cons, ih, Page.unnumbered_numbered]
  rw [unnumbered, unnumbered, numbered, hpages]

end Report

/-! ## Rendering the lines -/

/-- Of two lists that are related element by element, the second has an element where the first
has one. -/
theorem exists_getElem?_of_forall₂ {α β : Type} {R : α → β → Prop} {xs : List α} {ys : List β}
    (hrelated : List.Forall₂ R xs ys) {i : Nat} {x : α} (hx : xs[i]? = some x) :
    ∃ y, ys[i]? = some y ∧ R x y := by
  induction hrelated generalizing i with
  | nil => cases hx
  | cons hfirst _ ih =>
      cases i with
      | zero =>
          cases hx
          exact ⟨_, rfl, hfirst⟩
      | succ i => exact ih hx

namespace Job

variable {job : Job} {sources : List Source}

/-- Whether a line of a page gives a text and a position to its directives: the text is that of the
line with its placeholders rendered. -/
def Calls (job : Job) (sources : List Source) (page : Nat) (line : Line)
    (call : String × Position) : Prop :=
  ((job.resolver.renderText line.text sources).run.run []).1 = .ok call.1 ∧
    call.2 = line.position page

/-- The positions of calls are those of the lines. -/
theorem positions_of_calls {page : Nat} {lines : List Line} {calls : List (String × Position)}
    (hcalls : List.Forall₂ (job.Calls sources page) lines calls) :
    calls.map Prod.snd = lines.map (·.position page) := by
  induction hcalls with
  | nil => rfl
  | cons hcall _ ih => rw [List.map_cons, List.map_cons, ih, hcall.2]

/-- The lines of a page go to their directives one after the other. -/
theorem renderLines_calls {page : Nat} {styles styles' : Styles} {lines : List Line}
    {texts : List String} {memory after : Memory} (hsound : memory.Sound)
    (hrender : (job.renderLines sources page styles lines).run.run memory =
      (.ok (texts, styles'), after)) :
    after.Sound ∧ ∃ calls, List.Forall₂ (job.Calls sources page) lines calls ∧
      Styles.applyAll job.device styles calls = (texts, styles') := by
  induction lines generalizing styles texts memory with
  | nil =>
      cases hrender
      exact ⟨hsound, [], .nil, rfl⟩
  | cons line lines ih =>
      rcases run_bind_ok hrender with ⟨⟨out, middle⟩, memory', hline, hrest⟩
      rcases run_bind_ok hrest with ⟨⟨outs, last⟩, memory'', hlines, hresult⟩
      rcases run_bind_ok hline with ⟨text, memory''', htext, happly⟩
      cases hresult
      rcases Prod.mk.inj happly with ⟨hshown, rfl⟩
      have happlied : styles.apply text (line.position page) job.device = (out, middle) :=
        Except.ok.inj hshown
      -- the text of the line would be the same if nothing were remembered
      rcases job.resolver.transparent_renderText line.text sources memory hsound with
        ⟨hfresh, hkept⟩
      rw [htext] at hfresh hkept
      rcases ih hkept hlines with ⟨hafter, calls, hcalls, hall⟩
      refine ⟨hafter, (text, line.position page) :: calls, .cons ⟨hfresh.symm, rfl⟩ hcalls, ?_⟩
      simp only [Styles.applyAll, happlied, hall]

/-- What the lines of pages give to their directives, page by page. -/
def PageCalls (job : Job) (sources : List Source) (pages : List Page)
    (calls : List (List (String × Position))) : Prop :=
  List.Forall₂ (fun page calls => List.Forall₂ (job.Calls sources page.number) page.lines calls)
    pages calls

namespace PageCalls

variable {pages : List Page} {calls : List (List (String × Position))}

/-- There is one call for each line. -/
theorem lengths (hcalls : job.PageCalls sources pages calls) :
    calls.map List.length = pages.map Page.size := by
  induction hcalls with
  | nil => rfl
  | cons hpage _ ih => rw [List.map_cons, List.map_cons, ih, ← hpage.length_eq, Page.length_lines]

/-- The positions of all calls are those of the lines. -/
theorem globalLines (hcalls : job.PageCalls sources pages calls) :
    (calls.flatten.map fun call => call.2.globalLine) =
      pages.flatMap fun page =>
        page.lines.map fun line => (line.position page.number).globalLine := by
  induction hcalls with
  | nil => rfl
  | cons hpage _ ih =>
      have hglobal := congrArg (List.map Position.globalLine) (positions_of_calls hpage)
      rw [List.map_map, List.map_map] at hglobal
      rw [List.flatten_cons, List.map_append, List.flatMap_cons, ih]
      exact congrArg (· ++ _) hglobal

/-- The call for a line. -/
theorem getElem? (hcalls : job.PageCalls sources pages calls) {i j : Nat} {page : Page}
    {line : Line} (hpage : pages[i]? = some page) (hline : page.lines[j]? = some line) :
    ∃ call, calls[i]?.bind (·[j]?) = some call ∧ job.Calls sources page.number line call := by
  rcases exists_getElem?_of_forall₂ hcalls hpage with ⟨those, hthose, hlines⟩
  rcases exists_getElem?_of_forall₂ hlines hline with ⟨call, hget, hcall⟩
  exact ⟨call, by rw [hthose, Option.bind_some, hget], hcall⟩

end PageCalls

/-- The lines of a report go to their directives page by page. -/
theorem renderPages_calls {styles : Styles} {pages : List Page} {rendered : List (List String)}
    {memory after : Memory} (hsound : memory.Sound)
    (hrender : (job.renderPages sources styles pages).run.run memory = (.ok rendered, after)) :
    ∃ calls, job.PageCalls sources pages calls ∧
      rendered.map List.length = calls.map List.length ∧
      rendered.flatten = (Styles.applyAll job.device styles calls.flatten).1 := by
  induction pages generalizing styles rendered memory with
  | nil =>
      cases hrender
      exact ⟨[], .nil, rfl, rfl⟩
  | cons page pages ih =>
      rcases run_bind_ok hrender with ⟨⟨texts, styles'⟩, memory', hpage, hrest⟩
      rcases run_bind_ok hrest with ⟨later, last, hlater, hresult⟩
      cases hresult
      rcases renderLines_calls hsound hpage with ⟨hsound', first, hfirst, hall⟩
      rcases ih hsound' hlater with ⟨calls, hcalls, hlengths, hflatten⟩
      have hlength : texts.length = first.length := by
        have hsame := Styles.length_applyAll job.device styles first
        rwa [hall] at hsame
      refine ⟨first :: calls, .cons hfirst hcalls, ?_, ?_⟩
      · rw [List.map_cons, List.map_cons, hlengths, hlength]
      · rw [List.flatten_cons, List.flatten_cons, Styles.applyAll_append, hall, hflatten]

/-- The report of which a fill prints the lines: its markers are expanded, and its lines still have
the numbers that they happen to have. -/
def expanded (job : Job) (report : Report) (sources : List Source) : Report :=
  if report.hasMarkers then
    (report.expand job.resolver (activeSources sources) []).report
  else report

/-- What is printed is the expanded report with all its lines numbered. -/
theorem eq_numbered_of_working {report done : Report} {memory : Memory}
    (hworking : job.working report sources = (.ok done, memory)) :
    done = (job.expanded report sources).numbered := by
  unfold working at hworking
  unfold expanded
  split at hworking
  · rename_i hmarkers
    rw [if_pos hmarkers]
    rcases Prod.mk.inj hworking with ⟨hresult, -⟩
    cases houtcome : (report.expand job.resolver (activeSources sources) []).outcome with
    | error e =>
        rw [houtcome] at hresult
        cases hresult
    | ok _ =>
        rw [houtcome] at hresult
        cases hresult
        rfl
  · rename_i hnone
    rw [if_neg hnone]
    cases hworking
    rfl

theorem reachable_expanded {report : Report} (hreachable : report.Reachable) :
    (job.expanded report sources).Reachable := by
  unfold expanded
  split
  · exact hreachable.expandFirst _ _ _ _
  · exact hreachable

/-- The positions of the lines of a filled report.

The report that is printed is the expanded one, whose pages have stayed the same but for the numbers
of their lines.  Every line, its placeholders rendered, goes to the directives with its position:
the number of its page, its number on this page from the header to the footer, and one more than the
number of lines before it in print.  The numbers in print are those from one up to the number of
lines, none of them missing or used twice.  Numbers that lines had before do not show. -/
theorem fill_positions {job : Job} {report : Report} {sources : List Source} {out : String}
    (hreachable : report.Reachable) (hfill : job.fill report sources = .ok out) :
    let expanded := job.expanded report sources
    (job.working report sources).1 = .ok expanded.numbered ∧
    expanded.numbered.unnumbered = expanded.unnumbered ∧
    ∃ (calls : List (List (String × Position))) (pages : List (List String)),
      out = frame job.device report.format pages ∧
      pages.flatten = (Styles.applyAll job.device {} calls.flatten).1 ∧
      pages.map List.length = expanded.pages.map Page.size ∧
      calls.map List.length = expanded.pages.map Page.size ∧
      (∀ i j page line, expanded.pages[i]? = some page → page.lines[j]? = some line →
        ∃ text, ((job.resolver.renderText line.text (activeSources sources)).run.run []).1 =
            .ok text ∧
          calls[i]?.bind (·[j]?) = some (text, expanded.positionOf i j)) ∧
      (calls.flatten.map fun call => call.2.globalLine) = List.range' 1 expanded.lineCount := by
  intro expanded
  rcases eq_frame_of_fill hfill with ⟨done, memory, after, pages, hworking, hrender, hframe⟩
  obtain rfl := eq_numbered_of_working hworking
  have hsound : memory.Sound := by
    have hremembered := job.sound_working report sources
    rwa [hworking] at hremembered
  rcases renderPages_calls hsound hrender with ⟨calls, hcalls, hlengths, hflatten⟩
  have hsizes : calls.map List.length = expanded.pages.map Page.size := by
    rw [hcalls.lengths]
    exact Report.sizes_numberPages 1 expanded.pages
  refine ⟨by rw [hworking], expanded.unnumbered_numbered, calls, pages, hframe, hflatten,
    hlengths.trans hsizes, hsizes, ?_, ?_⟩
  · intro i j page line hpage hline
    have hnumber : page.number = i + 1 :=
      (reachable_expanded hreachable).wellFormed.number_eq hpage
    have hpage' := Report.getElem?_numberPages 1 expanded.pages i
    rw [hpage, Option.map_some] at hpage'
    have hline' := Page.getElem?_numberFrom 0
      (some (1 + ((expanded.pages.take i).map Page.size).sum)) page.lines j
    rw [hline, Option.map_some, ← Page.lines_numbered] at hline'
    rcases hcalls.getElem? hpage' hline' with ⟨⟨text, position⟩, hget, htext, hposition⟩
    refine ⟨text, htext, ?_⟩
    have hplace : position = expanded.positionOf i j := by
      refine hposition.trans ?_
      have hindex : 0 + j = j := Nat.zero_add j
      simp only [Line.position_numbered, Report.positionOf, hindex, Position.mk.injEq, true_and]
      exact ⟨hnumber, by omega⟩
    rw [hget, hplace]
  · rw [hcalls.globalLines]
    exact Report.globalLines_numberPages 1 expanded.pages

/-- A report of two pages with two lines each that ask for their numbers.  The first page was
numbered before there was a second one, and the last line comes with the numbers of another
place. -/
def staleNumbers : Report :=
  let question := "%\x7bLINE_NO\x7d/%\x7bGLOBAL_LINE_NO\x7d"
  let first := (((Report.bounded 2).withHeader [question]).append (Line.ofText question) false).2
  let last : Line := { content := .text question, number := some 7, globalNumber := some 7 }
  (first.numbered.append last false).2

theorem fill_staleNumbers :
    plainJob.fill staleNumbers [] = .ok "1/1\n2/2\x0c1/3\n2/4\x0c" ∧
      ∃ calls : List (List (String × Position)),
        calls.map List.length = [2, 2] ∧
        (∃ text, calls[1]?.bind (·[1]?) = some (text, { page := 2, line := 2, globalLine := 4 })) ∧
        (calls.flatten.map fun call => call.2.globalLine) = [1, 2, 3, 4] := by
  have hreachable : staleNumbers.Reachable :=
    .append _ _ (.numbered (.append _ _ (.withHeader _ (.new { pageLength := some 2 }))))
  have hfill : plainJob.fill staleNumbers [] = .ok "1/1\n2/2\x0c1/3\n2/4\x0c" := by rfl
  rcases fill_positions hreachable hfill with
    ⟨-, -, calls, pages, -, -, -, hsizes, hcalls, hglobal⟩
  refine ⟨hfill, calls, hsizes, ?_, hglobal⟩
  rcases hcalls 1 1 _ _ rfl rfl with ⟨text, -, hget⟩
  exact ⟨text, hget⟩

end Job

end Platen
