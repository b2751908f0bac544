import Platen.Proofs.Capacity
import Platen.Report.Splice

/-!
# Splicing as a batch reflow

Lines are spliced into a report one at a time, and every line that finds no room is moved on from
page to page by itself.  This module describes the outcome in one go: the page of the splice is
filled again from all its lines, what finds no room is carried to the next page, and what is left
after the last page is cut into new pages.

Main results:

- Theorems `contents_reflow` and `contents_poured`: the reflow keeps every line and the order of the
  lines.
- Theorem `newPages_spec`: the new pages have the header and footer of the report, all but the last
  are full and none is empty.
- Theorem `relocate_poured`: moving one evicted line on is the reflow with one more carried line.
- Theorems `splice_eq_reflowed` and `splice_ok_iff`: splicing is the reflow; it fails exactly if
  something is left after the last page and new pages have no room.
-/

namespace Platen.Report

/-! ## Carrying lines over pages -/

/-- The pages after carried lines have been put on top of the first one, what that pushes off on top
of the next, and so on. -/
def reflow (carry : List Line) : List Page → List Page
  | [] => []
  | page :: rest =>
      page.refill (carry ++ page.content) :: reflow (page.spill (carry ++ page.content)) rest

/-- The lines that are left after the last page when lines are carried over pages. -/
def overflow (carry : List Line) : List Page → List Line
  | [] => carry
  | page :: rest => overflow (page.spill (carry ++ page.content)) rest

/-- Lines that are carried through pages add no page. -/
@[simp]
theorem length_reflow (carry : List Line) (pages : List Page) :
    (reflow carry pages).length = pages.length := by
  induction pages generalizing carry with
  | nil => rfl
  | cons page rest ih => simp [reflow, ih]

/-- Pages that fit stay as they are when nothing is carried. -/
theorem reflow_nil {pages : List Page} (hfits : ∀ page ∈ pages, page.Fits) :
    reflow [] pages = pages ∧ overflow [] pages = [] := by
  induction pages with
  | nil => exact ⟨rfl, rfl⟩
  | cons page rest ih =>
      have hpage : page.Fits := hfits page List.mem_cons_self
      have hrest := ih fun q hq => hfits q (List.mem_cons_of_mem page hq)
      simp only [reflow, overflow, List.nil_append, hpage.refill_content, hpage.spill_content]
      exact ⟨by rw [hrest.1], hrest.2⟩

/-- Carrying lines over pages keeps every line and the order of the lines. -/
theorem contents_reflow (carry : List Line) (pages : List Page) :
    (reflow carry pages).flatMap Page.content ++ overflow carry pages =
      carry ++ pages.flatMap Page.content := by
  induction pages generalizing carry with
  | nil => simp [reflow, overflow]
  | cons page rest ih =>
      simp only [reflow, overflow, List.flatMap_cons, List.append_assoc]
      rw [ih, ← List.append_assoc, Page.content_refill_append_spill, List.append_assoc]

/-- One more line on top of pages over which lines were carried: it is as if it had been carried in
front of the others.  The line that is handed on comes before those left over earlier. -/
theorem cascade_reflow (line : Line) (carry : List Line) (pages : List Page) :
    ∃ out : Option Line,
      cascade line (reflow carry pages) = .ok (reflow (line :: carry) pages, out) ∧
      out.toList ++ overflow carry pages = overflow (line :: carry) pages := by
  induction pages generalizing line carry with
  | nil => exact ⟨some line, rfl, rfl⟩
  | cons page rest ih =>
      rcases page.insert_refill [] line (carry ++ page.content) (fun _ _ => Nat.zero_le _) with
        ⟨evicted, hinsert, hspill⟩
      simp only [List.nil_append, List.length_nil, Nat.add_zero] at hinsert hspill
      simp only [reflow, overflow, cascade, Page.header_refill, hinsert, List.cons_append]
      cases evicted with
      | none =>
          rw [← hspill]
          exact ⟨none, rfl, rfl⟩
      | some evicted =>
          rcases ih evicted (page.spill (carry ++ page.content)) with ⟨out, hcascade, hout⟩
          rw [← hspill]
          simp only [hcascade]
          exact ⟨out, rfl, hout⟩

/-- A cascade over two runs of pages: what the first run hands on goes to the second. -/
theorem cascade_append (line : Line) (pages rest : List Page) :
    cascade line (pages ++ rest) =
      (cascade line pages).bind fun (pages', out) =>
        match out with
        | none => .ok (pages' ++ rest, none)
        | some evicted =>
            (cascade evicted rest).map fun (rest', out) => (pages' ++ rest', out) := by
  induction pages generalizing line with
  | nil =>
      simp only [List.nil_append, cascade, Except.bind]
      cases cascade line rest <;> rfl
  | cons page pages ih =>
      simp only [cascade, List.cons_append]
      cases page.insert line page.header.length with
      | error e => rfl
      | ok inserted =>
          rcases inserted with ⟨page', evicted⟩
          cases evicted with
          | none => rfl
          | some evicted =>
              simp only [ih]
              cases cascade evicted pages with
              | error e => rfl
              | ok later =>
                  rcases later with ⟨pages', out⟩
                  cases out with
                  | none => rfl
                  | some last =>
                      simp only [Except.bind]
                      cases cascade last rest <;> rfl

/-! ## New pages -/

/-- The content lines of a report in the order of its pages. -/
def contents (report : Report) : List Line :=
  report.pages.flatMap Page.content

/-- A page with the header and footer of the report and given content. -/
def seeded (report : Report) (number : Nat) (content : List Line) : Page :=
  { report.nextPage false with number, content }

/-- Pages with the header and footer of the report, numbered on from a given number. -/
def freshPages (report : Report) (number : Nat) (contents : List (List Line)) : List Page :=
  contents.mapIdx fun i content => report.seeded (number + i) content

/-- The new pages that lines fill, each of them as far as it can hold them. -/
def newPages (report : Report) (lines : List Line) : List Page :=
  report.freshPages (report.lastPageNumber + 1) (chunks (report.nextPage false).capacity lines)

@[simp]
theorem freshPages_nil (report : Report) (number : Nat) : report.freshPages number [] = [] :=
  rfl

/-- The first new page has the number given, and the others are numbered on from it. -/
theorem freshPages_cons (report : Report) (number : Nat) (content : List Line)
    (contents : List (List Line)) :
    report.freshPages number (content :: contents) =
      report.seeded number content :: report.freshPages (number + 1) contents := by
  simp only [freshPages, List.mapIdx_cons, Nat.add_zero, List.cons.injEq, true_and]
  congr 1
  funext i content
  rw [Nat.add_right_comm, Nat.add_assoc]

/-- There are as many new pages as contents. -/
@[simp]
theorem length_freshPages (report : Report) (number : Nat) (contents : List (List Line)) :
    (report.freshPages number contents).length = contents.length := by
  simp [freshPages]

/-- Every new page holds its content under its number. -/
theorem getElem?_freshPages (report : Report) (number : Nat) (contents : List (List Line))
    (i : Nat) :
    (report.freshPages number contents)[i]? =
      contents[i]?.map fun content => report.seeded (number + i) content := by
  rw [freshPages, List.getElem?_mapIdx]

@[simp]
theorem newPages_nil (report : Report) : report.newPages [] = [] := by
  simp [newPages]

/-- The content of fresh pages is what they were made for. -/
theorem contents_freshPages (report : Report) (number : Nat) (contents : List (List Line)) :
    (report.freshPages number contents).flatMap Page.content = contents.flatten := by
  induction contents generalizing number with
  | nil => rfl
  | cons content contents ih =>
      rw [freshPages_cons, List.flatMap_cons, ih, List.flatten_cons]
      rfl

/-- If new pages have room at all, they hold all the lines they are made for. -/
theorem contents_newPages {report : Report} (hroom : (report.nextPage false).capacity ≠ some 0)
    (lines : List Line) : (report.newPages lines).flatMap Page.content = lines := by
  rw [newPages, contents_freshPages, flatten_chunks hroom]

/-- The first of the fresh pages that lines fill is a fresh page filled with all of them. -/
theorem freshPages_chunks {report : Report}
    (hroom : (report.nextPage false).capacity ≠ some 0) (number : Nat) {lines : List Line}
    (hlines : lines ≠ []) :
    report.freshPages number (chunks (report.nextPage false).capacity lines) =
      (report.seeded number []).refill lines ::
        report.freshPages (number + 1)
          (chunks (report.nextPage false).capacity ((report.seeded number []).spill lines)) := by
  rw [chunks_eq hroom hlines, freshPages_cons]
  rfl

/-- New pages are numbered on where the ones before them end. -/
theorem freshPages_append (report : Report) (number : Nat) (contents contents' : List (List Line)) :
    report.freshPages number (contents ++ contents') =
      report.freshPages number contents ++
        report.freshPages (number + contents.length) contents' := by
  induction contents generalizing number with
  | nil => rfl
  | cons content contents ih =>
      rw [List.cons_append, freshPages_cons, freshPages_cons, ih, List.cons_append,
        List.length_cons, Nat.add_assoc, Nat.add_comm 1]

/-- Every fresh page was made for one of the contents. -/
theorem mem_freshPages {report : Report} {number : Nat} {contents : List (List Line)} {page : Page}
    (hpage : page ∈ report.freshPages number contents) :
    ∃ content ∈ contents, ∃ n, page = report.seeded n content := by
  induction contents generalizing number with
  | nil => simp at hpage
  | cons content contents ih =>
      rw [freshPages_cons, List.mem_cons] at hpage
      rcases hpage with rfl | hlater
      · exact ⟨content, List.mem_cons_self, number, rfl⟩
      · rcases ih hlater with ⟨other, hother, n, hn⟩
        exact ⟨other, List.mem_cons_of_mem content hother, n, hn⟩

/-- Without the last content there is one new page less. -/
theorem dropLast_freshPages (report : Report) (number : Nat) (contents : List (List Line)) :
    (report.freshPages number contents).dropLast = report.freshPages number contents.dropLast := by
  induction contents generalizing number with
  | nil => rfl
  | cons content contents ih =>
      cases contents with
      | nil => rfl
      | cons next contents =>
          rw [List.dropLast_cons_cons, freshPages_cons, freshPages_cons, List.dropLast_cons_cons,
            ← freshPages_cons, ih, ← freshPages_cons]

/-- The new pages have the header and footer of the report, none is empty, and all but the last are
full. -/
theorem newPages_spec {report : Report} {lines : List Line}
    (hroom : lines = [] ∨ (report.nextPage false).capacity ≠ some 0) :
    (∀ page ∈ report.newPages lines,
      page.header = report.header.map Line.ofText ∧ page.footer = report.footer.map Line.ofText ∧
        page.content ≠ []) ∧
    ∀ page ∈ (report.newPages lines).dropLast, page.capacity = some page.content.length := by
  rcases hroom with rfl | hroom
  · simp
  · constructor
    · intro page hpage
      rcases mem_freshPages hpage with ⟨content, hcontent, n, rfl⟩
      exact ⟨rfl, rfl, (chunk_bounds hroom lines content hcontent).1⟩
    · intro page hpage
      rw [newPages, dropLast_freshPages] at hpage
      rcases mem_freshPages hpage with ⟨content, hcontent, n, rfl⟩
      show (report.nextPage false).capacity = some content.length
      cases hcapacity : (report.nextPage false).capacity with
      | none =>
          by_cases hlines : lines = []
          · simp [hlines] at hcontent
          · rw [hcapacity, chunks_eq (by simp) hlines] at hcontent
            simp [beyond] at hcontent
      | some n =>
          have hpos : 0 < n := by
            rw [hcapacity] at hroom
            exact Nat.pos_of_ne_zero fun h => hroom (by rw [h])
          rw [hcapacity] at hcontent
          rw [length_of_mem_dropLast_chunks hpos lines content hcontent]

/-- A page in the middle of fresh pages was made for a content in the middle of theirs. -/
theorem freshPages_split {report : Report} {number : Nat} {contents : List (List Line)}
    {before later : List Page} {page : Page}
    (hpages : report.freshPages number contents = before ++ page :: later) :
    ∃ front content back, contents = front ++ content :: back ∧
      before = report.freshPages number front ∧
      page = report.seeded (number + front.length) content ∧
      later = report.freshPages (number + front.length + 1) back := by
  induction before generalizing number contents with
  | nil =>
      cases contents with
      | nil => simp at hpages
      | cons content back =>
          rw [freshPages_cons, List.nil_append, List.cons.injEq] at hpages
          rcases hpages with ⟨hpage, hlater⟩
          exact ⟨[], content, back, rfl, rfl, hpage.symm, hlater.symm⟩
  | cons first before ih =>
      cases contents with
      | nil => simp at hpages
      | cons content contents =>
          rw [freshPages_cons, List.cons_append, List.cons.injEq] at hpages
          rcases hpages with ⟨hfirst, hrest⟩
          rcases ih hrest with ⟨front, middle, back, rfl, rfl, hpage, hlater⟩
          have hnumber : number + 1 + front.length = number + (content :: front).length := by
            rw [List.length_cons]
            omega
          rw [hnumber] at hpage hlater
          refine ⟨content :: front, middle, back, rfl, ?_, hpage, hlater⟩
          rw [freshPages_cons, hfirst]

/-- Lines carried over fresh pages: they hold what was carried and then their own lines, and what is
left fills more fresh pages. -/
theorem reflow_freshPages {report : Report}
    (hroom : (report.nextPage false).capacity ≠ some 0) (carry : List Line) (number : Nat)
    (lines : List Line) :
    let pages := report.freshPages number (chunks (report.nextPage false).capacity lines)
    reflow carry pages ++ report.freshPages (number + pages.length)
        (chunks (report.nextPage false).capacity (overflow carry pages)) =
      report.freshPages number (chunks (report.nextPage false).capacity (carry ++ lines)) := by
  induction lines using chunk_induction hroom generalizing carry number with
  | nil => simp [reflow, overflow]
  | chunk lines hlines ih =>
      have hne : carry ++ lines ≠ [] := fun hnil => hlines (List.append_eq_nil_iff.mp hnil).2
      rcases cut_carry (report.nextPage false).capacity carry lines with ⟨hwithin, hbeyond⟩
      have hrest := ih (beyond (report.nextPage false).capacity
        (carry ++ within (report.nextPage false).capacity lines)) (number + 1)
      rw [hbeyond] at hrest
      rw [freshPages_chunks hroom number hlines, freshPages_chunks hroom number hne]
      simp only [reflow, overflow, List.length_cons, List.cons_append, List.cons.injEq]
      refine ⟨?_, ?_⟩
      · rw [Page.refill, Page.refill, Page.refill]
        exact congrArg (report.seeded number) hwithin
      · rw [← Nat.add_assoc, Nat.add_right_comm]
        exact hrest

/-- One more line on top of fresh pages that hold a list of lines: they hold the longer list, except
for the line that is handed on, which opens one more page. -/
theorem cascade_freshPages {report : Report}
    (hroom : (report.nextPage false).capacity ≠ some 0) (line : Line) (number : Nat)
    (lines : List Line) :
    ∃ (pages : List Page) (out : Option Line),
      cascade line
          (report.freshPages number (chunks (report.nextPage false).capacity lines)) =
        .ok (pages, out) ∧
      pages ++ out.toList.map (fun last =>
          report.seeded
            (number + (chunks (report.nextPage false).capacity lines).length) [last]) =
        report.freshPages number (chunks (report.nextPage false).capacity (line :: lines)) := by
  induction lines using chunk_induction hroom generalizing line number with
  | nil =>
      refine ⟨[], some line, by simp [cascade], ?_⟩
      rw [chunks_singleton hroom, chunks_nil, freshPages_cons]
      rfl
  | chunk lines hlines ih =>
      rcases (report.seeded number []).insert_refill [] line lines (fun _ _ => Nat.zero_le _) with
        ⟨evicted, hinsert, hspill⟩
      simp only [List.nil_append, List.length_nil, Nat.add_zero] at hinsert hspill
      rw [freshPages_chunks hroom number hlines,
        freshPages_chunks hroom number (List.cons_ne_nil line lines), ← hspill]
      simp only [cascade, Page.header_refill, hinsert]
      cases evicted with
      | none => exact ⟨_, none, rfl, by simp⟩
      | some evicted =>
          rcases ih evicted (number + 1) with ⟨pages, out, hcascade, hpages⟩
          refine ⟨(report.seeded number []).refill (line :: lines) :: pages, out, ?_, ?_⟩
          · simp only [show (report.seeded number []).spill lines =
              beyond (report.nextPage false).capacity lines from rfl, hcascade]
          · rw [chunks_eq hroom hlines, List.length_cons, List.cons_append, Nat.add_comm _ 1,
              ← Nat.add_assoc, hpages]
            rfl

/-- A cascade keeps the number of pages. -/
theorem length_of_cascade {line : Line} {pages pages' : List Page} {out : Option Line}
    (hcascade : cascade line pages = .ok (pages', out)) : pages'.length = pages.length := by
  induction pages generalizing line pages' with
  | nil =>
      cases hcascade
      rfl
  | cons page pages ih =>
      unfold cascade at hcascade
      split at hcascade
      · contradiction
      · cases hcascade
        rfl
      · split at hcascade
        · contradiction
        · rename_i hlater
          cases hcascade
          simp [ih hlater]

/-- The report with one more page that holds a single line. -/
def withPage (report : Report) (line : Line) : Report :=
  { report with
    lastPageNumber := report.lastPageNumber + 1
    pages := report.pages ++ [report.seeded (report.lastPageNumber + 1) [line]]
    current := some report.pages.length }

/-- A line that is left over stands alone on a new page, if new pages have room. -/
theorem overflowToNewPage_eq {report : Report}
    (hroom : (report.nextPage false).capacity ≠ some 0) (line : Line) :
    report.overflowToNewPage line = (.ok (), report.withPage line) := by
  have hfits : (report.nextPage false).Fits := Page.fits_of_content_nil rfl
  have hinsert := Page.insert_eq hfits line (Nat.zero_le _)
  have hone : Admits (report.nextPage false).capacity [line].length := by
    intro n hn
    have hpos : n ≠ 0 := fun h => hroom (by rw [hn, h])
    exact Nat.pos_of_ne_zero hpos
  have hrefill : (report.nextPage false).refill ((report.nextPage false).content.insertIdx 0 line) =
      report.seeded (report.lastPageNumber + 1) [line] := by
    show (report.nextPage false).refill [line] = _
    rw [Page.refill, within_of_admits hone]
    rfl
  rw [hrefill, Nat.add_zero] at hinsert
  simp only [overflowToNewPage, if_neg hroom, hinsert]
  simp [newPage, setPage, withPage]

/-! ## Moving lines on -/

/-- The report that begins with finished pages and goes on with pages over which lines are carried;
what is left after the last page is cut into new pages. -/
def poured (report : Report) (front : List Page) (carry : List Line) (later : List Page) :
    Report :=
  let fresh := report.newPages (overflow carry later)
  { report with
    pages := front ++ (reflow carry later ++ fresh)
    lastPageNumber := report.lastPageNumber + fresh.length
    current :=
      if fresh.length = 0 then report.current
      else some (front.length + later.length + fresh.length - 1) }

/-- The content of the report after lines were carried over its later pages. -/
theorem contents_poured {report : Report} {carry : List Line} {later : List Page}
    (hroom : overflow carry later = [] ∨ (report.nextPage false).capacity ≠ some 0)
    (front : List Page) :
    (report.poured front carry later).contents =
      front.flatMap Page.content ++ (carry ++ later.flatMap Page.content) := by
  have hnew : (report.newPages (overflow carry later)).flatMap Page.content =
      overflow carry later := by
    rcases hroom with hnone | hroom
    · simp [hnone]
    · exact contents_newPages hroom _
  simp only [contents, poured, List.flatMap_append, hnew]
  rw [contents_reflow]

/-- One more line on top of pages over which lines were carried and of the new pages after them. -/
theorem cascade_poured {report : Report} {line : Line} {carry : List Line} {later : List Page}
    (hroom : overflow (line :: carry) later = [] ∨ (report.nextPage false).capacity ≠ some 0) :
    ∃ (pages : List Page) (out : Option Line),
      cascade line (reflow carry later ++ report.newPages (overflow carry later)) =
        .ok (pages, out) ∧
      pages ++ out.toList.map (fun last =>
          report.seeded (report.lastPageNumber +
            (report.newPages (overflow carry later)).length + 1) [last]) =
        reflow (line :: carry) later ++ report.newPages (overflow (line :: carry) later) := by
  rcases cascade_reflow line carry later with ⟨evicted, hcascade, hout⟩
  rw [cascade_append, hcascade]
  cases evicted with
  | none =>
      rw [← hout]
      exact ⟨_, none, rfl, by simp⟩
  | some evicted =>
      have hcapacity : (report.nextPage false).capacity ≠ some 0 := by
        rcases hroom with hnone | hcapacity
        · simp [← hout] at hnone
        · exact hcapacity
      rcases cascade_freshPages hcapacity evicted
        (report.lastPageNumber + 1) (overflow carry later) with ⟨pages, out, hfresh, hpages⟩
      refine ⟨reflow (line :: carry) later ++ pages, out, ?_, ?_⟩
      · simp only [Except.bind, newPages, hfresh, Except.map]
      · rw [← hout, List.append_assoc]
        simp only [newPages, Option.toList_some, List.singleton_append, ← hpages,
          length_freshPages]
        rw [Nat.add_right_comm]

/-- Moving an evicted line on is the reflow with one more carried line. -/
theorem relocate_poured {report : Report} {front : List Page} {line : Line} {carry : List Line}
    {later : List Page} {index : Nat} (hindex : index + 1 = front.length)
    (hroom : overflow (line :: carry) later = [] ∨ (report.nextPage false).capacity ≠ some 0) :
    (report.poured front carry later).relocate index line =
      (.ok (), report.poured front (line :: carry) later) := by
  rcases cascade_poured hroom with ⟨pages, out, hcascade, hpages⟩
  have hkept := length_of_cascade hcascade
  have hlength := congrArg List.length hpages
  simp only [List.length_append, length_reflow, List.length_map, hkept] at hlength
  cases out with
  | none =>
      simp only [Option.toList_none, List.map_nil, List.append_nil, List.length_nil]
        at hpages hlength
      have hcount : (report.newPages (overflow (line :: carry) later)).length =
          (report.newPages (overflow carry later)).length := by
        omega
      simp only [relocate, poured, hindex, List.drop_left, List.take_left, hcascade, hcount, hpages]
  | some last =>
      simp only [Option.toList_some, List.map_cons, List.map_nil, List.length_singleton]
        at hpages hlength
      have hcount : (report.newPages (overflow (line :: carry) later)).length =
          (report.newPages (overflow carry later)).length + 1 := by
        omega
      have hcapacity : (report.nextPage false).capacity ≠ some 0 := by
        rcases hroom with hnone | hcapacity
        · simp [hnone] at hcount
        · exact hcapacity
      simp only [relocate, poured, hindex, List.drop_left, List.take_left, hcascade]
      rw [overflowToNewPage_eq (by exact hcapacity)]
      have hindex : front.length + later.length +
          ((report.newPages (overflow carry later)).length + 1) - 1 =
          front.length + (later.length + (report.newPages (overflow carry later)).length) := by
        omega
      simp only [withPage, hcount, ← hpages, List.append_assoc, List.length_append, hkept,
        length_reflow]
      rw [if_neg (Nat.succ_ne_zero _), hindex]
      rfl

/-- Moving an evicted line on fails if it is the first that is left over and new pages have no
room. -/
theorem relocate_poured_error {report : Report} {front : List Page} {line : Line}
    {carry : List Line} {later : List Page} {index : Nat} (hindex : index + 1 = front.length)
    (hnone : overflow carry later = []) (hsome : overflow (line :: carry) later ≠ [])
    (hroom : (report.nextPage false).capacity = some 0) :
    ((report.poured front carry later).relocate index line).1 =
      .error (.insufficientSpace (report.lastPageNumber + 1) .pageWithoutContent) := by
  rcases cascade_reflow line carry later with ⟨out, hcascade, hout⟩
  cases out with
  | none => simp [← hout, hnone] at hsome
  | some last =>
      simp only [relocate, poured, hnone, newPages_nil, List.append_nil, hindex, List.drop_left,
        hcascade, overflowToNewPage]
      rw [if_pos (by exact hroom)]
      rfl

/-! ## Splicing -/

/-- The page before the lines that are carried on stays in its place. -/
theorem getElem?_poured (report : Report) (before : List Page) (page : Page) (carry : List Line)
    (later : List Page) :
    (report.poured (before ++ [page]) carry later).pages[before.length]? = some page := by
  simp [poured]

/-- It can be replaced before or after these lines are carried on. -/
theorem setPage_poured (report : Report) (before : List Page) (page page' : Page)
    (carry : List Line) (later : List Page) :
    (report.poured (before ++ [page]) carry later).setPage before.length page' =
      report.poured (before ++ [page']) carry later := by
  simp [setPage, poured]

/-- A report whose later pages fit is the reflow without carried lines. -/
theorem poured_nil {report : Report} {front later : List Page}
    (hpages : report.pages = front ++ later) (hfits : ∀ page ∈ later, page.Fits) :
    report.poured front [] later = report := by
  rcases reflow_nil hfits with ⟨hreflow, hoverflow⟩
  simp only [poured, hreflow, hoverflow, newPages_nil, List.append_nil, ← hpages,
    List.length_nil, Nat.add_zero, if_true]

/-- The report in which the content of a page was replaced by a list of lines and what finds no room
was carried on. -/
def reflowed (report : Report) (before : List Page) (page : Page) (later : List Page)
    (lines : List Line) : Report :=
  report.poured (before ++ [page.refill lines]) (page.spill lines) later

/-- The lines that find no room on a page and the pages after it. -/
def surplus (page : Page) (later : List Page) (lines : List Line) : List Line :=
  overflow (page.spill lines) later

/-- More lines leave more over. -/
theorem surplus_cons {page : Page} {later : List Page} {above : List Line} (line : Line)
    (below : List Line) (hadmits : Admits page.capacity above.length) :
    ∃ out : Option Line,
      out.toList ++ surplus page later (above ++ below) =
        surplus page later (above ++ line :: below) := by
  rcases page.insert_refill above line below hadmits with ⟨evicted, -, hspill⟩
  rw [surplus, surplus, ← hspill]
  cases evicted with
  | none => exact ⟨none, rfl⟩
  | some evicted =>
      rcases cascade_reflow evicted (page.spill (above ++ below)) later with ⟨out, -, hout⟩
      exact ⟨out, hout⟩

section

variable {report : Report} {before : List Page} {page : Page} {later : List Page}
  {above : List Line}

/-- Placing one more line in front of those already placed is the reflow of the longer content. -/
theorem place_reflowed (line : Line) (below : List Line)
    (hadmits : Admits page.capacity above.length)
    (hroom : surplus page later (above ++ line :: below) = [] ∨
      (report.nextPage false).capacity ≠ some 0) :
    (report.reflowed before page later (above ++ below)).place before.length above.length line =
      (.ok (), report.reflowed before page later (above ++ line :: below)) := by
  rcases page.insert_refill above line below hadmits with ⟨evicted, hinsert, hspill⟩
  simp only [place, reflowed, getElem?_poured, Page.header_refill, hinsert]
  cases evicted with
  | none =>
      simp only [setPage_poured, ← hspill]
      rfl
  | some evicted =>
      simp only [setPage_poured, ← hspill]
      rw [surplus, ← hspill] at hroom
      exact relocate_poured (by simp) hroom

/-- Placing the first line that leaves something over fails if new pages have no room. -/
theorem place_reflowed_error (line : Line) (below : List Line)
    (hadmits : Admits page.capacity above.length)
    (hnone : surplus page later (above ++ below) = [])
    (hsome : surplus page later (above ++ line :: below) ≠ [])
    (hroom : (report.nextPage false).capacity = some 0) :
    ((report.reflowed before page later (above ++ below)).place
        before.length above.length line).1 =
      .error (.insufficientSpace (report.lastPageNumber + 1) .pageWithoutContent) := by
  rcases page.insert_refill above line below hadmits with ⟨evicted, hinsert, hspill⟩
  simp only [place, reflowed, getElem?_poured, Page.header_refill, hinsert]
  rw [surplus, ← hspill] at hsome
  cases evicted with
  | none => exact absurd hnone hsome
  | some evicted =>
      simp only [setPage_poured]
      exact relocate_poured_error (by simp) hnone hsome hroom

/-- Placing lines one run after the other. -/
theorem placeAll_append (report : Report) (index position : Nat) (lines rest : List Line) :
    report.placeAll index position (lines ++ rest) =
      match report.placeAll index position lines with
      | (.error e, report) => (.error e, report)
      | (.ok (), report) => report.placeAll index position rest := by
  induction lines generalizing report with
  | nil => rfl
  | cons line lines ih =>
      simp only [List.cons_append, placeAll]
      split <;> simp_all

/-- Splicing lines in front of the content below a position of a page is the reflow of the page. -/
theorem splice_eq_reflowed (hpages : report.pages = before ++ page :: later)
    (hlater : ∀ page ∈ later, page.Fits) {below : List Line}
    (hcontent : page.content = above ++ below) (hfits : page.Fits) (lines : List Line)
    (hroom : surplus page later (above ++ (lines ++ below)) = [] ∨
      (report.nextPage false).capacity ≠ some 0) :
    report.splice before.length above.length lines =
      (.ok (), report.reflowed before page later (above ++ (lines ++ below))) := by
  have hadmits : Admits page.capacity above.length :=
    Admits.mono (by simp [hcontent]) hfits
  -- the last line is placed first, so the tail of the list is in place when its head comes
  induction lines with
  | nil =>
      rw [List.nil_append, ← hcontent, reflowed, hfits.refill_content, hfits.spill_content,
        poured_nil (by simp [hpages]) hlater]
      rfl
  | cons line lines ih =>
      rcases @surplus_cons page later above line (lines ++ below) hadmits with ⟨out, hout⟩
      have hrest : surplus page later (above ++ (lines ++ below)) = [] ∨
          (report.nextPage false).capacity ≠ some 0 := by
        refine hroom.imp_left fun hnone => ?_
        rw [List.cons_append, ← hout] at hnone
        exact (List.append_eq_nil_iff.mp hnone).2
      have hsplice := ih hrest
      rw [splice] at hsplice
      rw [splice, List.reverse_cons, placeAll_append, hsplice]
      simp only [placeAll]
      rw [place_reflowed line (lines ++ below) hadmits hroom]
      rfl

/-- Splicing fails if lines are left over and new pages have no room. -/
theorem splice_eq_error (hpages : report.pages = before ++ page :: later)
    (hlater : ∀ page ∈ later, page.Fits) {below : List Line}
    (hcontent : page.content = above ++ below) (hfits : page.Fits) (lines : List Line)
    (hsome : surplus page later (above ++ (lines ++ below)) ≠ [])
    (hroom : (report.nextPage false).capacity = some 0) :
    (report.splice before.length above.length lines).1 =
      .error (.insufficientSpace (report.lastPageNumber + 1) .pageWithoutContent) := by
  have hadmits : Admits page.capacity above.length :=
    Admits.mono (by simp [hcontent]) hfits
  induction lines with
  | nil =>
      rw [List.nil_append, ← hcontent, surplus, hfits.spill_content,
        (reflow_nil hlater).2] at hsome
      exact absurd rfl hsome
  | cons line lines ih =>
      rw [splice, List.reverse_cons, placeAll_append]
      by_cases hrest : surplus page later (above ++ (lines ++ below)) = []
      · have hsplice := splice_eq_reflowed hpages hlater hcontent hfits lines (.inl hrest)
        rw [splice] at hsplice
        have hplace := @place_reflowed_error report before page later above line
          (lines ++ below) hadmits hrest hsome hroom
        simp only [hsplice, placeAll]
        split
        · rename_i herror
          rw [herror] at hplace
          exact hplace
        · rename_i hok
          simp [hok] at hplace
      · have herror := ih hrest
        rw [splice] at herror
        split
        · rename_i hfailed
          rw [hfailed] at herror
          exact herror
        · rename_i hok
          simp [hok] at herror

/-- Splicing succeeds exactly if nothing is left after the last page or new pages have room. -/
theorem splice_ok_iff (hpages : report.pages = before ++ page :: later)
    (hlater : ∀ page ∈ later, page.Fits) {below : List Line}
    (hcontent : page.content = above ++ below) (hfits : page.Fits) (lines : List Line) :
    (report.splice before.length above.length lines).1 = .ok () ↔
      surplus page later (above ++ (lines ++ below)) = [] ∨
        (report.nextPage false).capacity ≠ some 0 := by
  constructor
  · intro hok
    by_contra hnone
    rcases not_or.mp hnone with ⟨hsome, hroom⟩
    have herror := splice_eq_error hpages hlater hcontent hfits lines hsome (not_not.mp hroom)
    rw [hok] at herror
    contradiction
  · intro hroom
    rw [splice_eq_reflowed hpages hlater hcontent hfits lines hroom]

end

end Platen.Report
