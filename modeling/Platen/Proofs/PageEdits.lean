import Mathlib.Data.List.Perm.Basic
import Platen.Proofs.Pagination
import Platen.Proofs.Reachable

/-!
# Edits of a page

A page is edited by appending lines, inserting them at a position and removing them.  Positions are
counted from the first header line, while the content of the page is stored by itself and is cut at
a capacity that header and footer may leave empty.  This module shows that a page is nevertheless a
list with a bound: what an edit puts in or takes out is exactly what it says, and what finds no room
is handed back.

Main results:

- Theorem `Page.insert_eq_error_iff`: the positions that are refused.
- Theorem `Page.content_of_insert`: an insertion into the content, and when it hands a line back.
- Theorem `Page.edit_cases`: what one edit does.
- Theorem `Page.edit_perm`: one edit loses no line.
- Theorem `Page.edits_conserve`: what each edit does to a page after any edits, and that no line is
  lost over all of them.
-/

namespace Platen.Page

open scoped List

/-! ## Edits -/

/-- A page without content. -/
def begun (number : Nat) (pageLength : Option Nat) (header footer : List Line) : Page :=
  { number, pageLength, header, footer }

/-- A change of the content of a page. -/
inductive Edit where
  | append (line : Line)
  | insert (line : Line) (position : Nat)
  | remove (index : Nat)
  deriving DecidableEq, Repr

/-- The line that an edit puts on a page. -/
def Edit.line? : Edit → Option Line
  | append line | insert line _ => some line
  | remove _ => none

/-- What an edit hands back, or why it is refused, and the page after it. -/
def edit (page : Page) : Edit → Except DocumentError (Option Line) × Page
  | .append line =>
    match page.append line with
    | .error e => (.error e, page)
    | .ok after => (.ok none, after)
  | .insert line position =>
    match page.insert line position with
    | .error e => (.error e, page)
    | .ok (after, evicted) => (.ok evicted, after)
  | .remove index =>
    match page.remove index with
    | none => (.ok none, page)
    | some (line, after) => (.ok (some line), after)

/-- A page with the lines that edits have put on it and those that they have handed back. -/
structure Ledger where
  page : Page
  taken : List Line := []
  returned : List Line := []
  deriving DecidableEq, Repr

/-- The ledger after one more edit.  Nothing is entered for an edit that is refused. -/
def Ledger.enter (ledger : Ledger) (edit : Edit) : Ledger :=
  match ledger.page.edit edit with
  | (.error _, page) => { ledger with page }
  | (.ok back, page) =>
    { page
      taken := ledger.taken ++ edit.line?.toList
      returned := ledger.returned ++ back.toList }

/-- The ledger of a page after edits. -/
def ledger (page : Page) (edits : List Edit) : Ledger :=
  edits.foldl Ledger.enter { page }

/-! ## What one edit does -/

variable {start page : Page}

/-- A line is refused at the end of a page that is as long as it may be, or longer. -/
theorem append_eq_error_iff {line : Line} {e : DocumentError} :
    page.append line = .error e ↔
      (∃ length, page.pageLength = some length ∧ length ≤ page.size) ∧
        e = .pageFull page.number := by
  have hfull : page.pageLength.any (· ≤ page.size) = true ↔
      ∃ length, page.pageLength = some length ∧ length ≤ page.size := by
    cases page.pageLength <;> simp
  unfold append
  split
  · rename_i hrefused
    simp only [Except.error.injEq, hfull.mp hrefused, true_and, eq_comm]
  · rename_i hopen
    simp only [reduceCtorEq, false_iff, not_and]
    intro hlong
    exact absurd (hfull.mpr hlong) hopen

/-- A line that is not refused stands at the end of the content. -/
theorem eq_of_append {line : Line} {after : Page} (happend : page.append line = .ok after) :
    after = { page with content := page.content ++ [line] } := by
  unfold append at happend
  split at happend
  · contradiction
  · exact (Except.ok.inj happend).symm

/-- A position is refused before the first content line and behind the place after the last one. -/
theorem insert_eq_error_iff {line : Line} {position : Nat} {e : DocumentError} :
    page.insert line position = .error e ↔
      (position < page.header.length ∨ page.header.length + page.content.length < position) ∧
        e = .positionOutOfRange page.number position := by
  unfold insert
  simp only [Bool.or_eq_true, decide_eq_true_eq]
  split
  · rename_i hrange
    simp only [Except.error.injEq, hrange, true_and, eq_comm]
  · rename_i hrange
    split <;> simp [hrange]

/-- A line that is inserted stands before a content line or behind the last one. -/
theorem range_of_insert {line : Line} {position : Nat} {after : Page} {evicted : Option Line}
    (hinsert : page.insert line position = .ok (after, evicted)) :
    page.header.length ≤ position ∧ position ≤ page.header.length + page.content.length := by
  by_contra hout
  have hrefused : page.insert line position = .error (.positionOutOfRange page.number position) :=
    insert_eq_error_iff.mpr ⟨by omega, rfl⟩
  rw [hrefused] at hinsert
  contradiction

/-- A line that is inserted into the content moves the lines after it on.  The last line is handed
back exactly if the content was as long as the capacity. -/
theorem content_of_insert (hfits : page.Fits) {line : Line} {position : Nat} {after : Page}
    {evicted : Option Line} (hinsert : page.insert line position = .ok (after, evicted)) :
    after.content ++ evicted.toList =
        page.content.insertIdx (position - page.header.length) line ∧
      (evicted.isSome = true ↔ page.capacity = some page.content.length) := by
  rcases range_of_insert hinsert with ⟨hlow, hhigh⟩
  obtain ⟨index, rfl⟩ : ∃ index, position = page.header.length + index :=
    Nat.exists_eq_add_of_le hlow
  have hindex : index ≤ page.content.length := by omega
  have hlength : (page.content.insertIdx index line).length = page.content.length + 1 :=
    List.length_insertIdx_of_le_length hindex line
  have hone : (page.spill (page.content.insertIdx index line)).length ≤ 1 :=
    length_beyond_le_one hfits hlength
  rw [insert_eq hfits line hindex] at hinsert
  cases hinsert
  rw [Nat.add_sub_cancel_left]
  constructor
  · rw [← List.take_one, List.take_of_length_le hone]
    exact content_refill_append_spill page _
  · have hsome : (page.spill (page.content.insertIdx index line)).head?.isSome = true ↔
        page.spill (page.content.insertIdx index line) ≠ [] := by
      simp
    rw [hsome, spill, Ne, beyond_eq_nil_iff, hlength]
    constructor
    · intro hfull
      by_contra hopen
      exact hfull (hfits.admits_succ hopen)
    · intro hfull hadmits
      have hle := hadmits _ hfull
      omega

/-- Removing takes the indexed line out of the content, or nothing if there is no such line. -/
theorem edit_remove (page : Page) (index : Nat) :
    page.edit (.remove index) =
      (.ok page.content[index]?, { page with content := page.content.eraseIdx index }) := by
  cases hget : page.content[index]? with
  | none =>
      have hshort : page.content.length ≤ index := List.getElem?_eq_none_iff.mp hget
      simp only [edit, remove, hget, Option.map_none, List.eraseIdx_of_length_le hshort]
  | some line => simp only [edit, remove, hget, Option.map_some]

/-- An edit is refused and changes nothing, or it does what its kind of edit does. -/
theorem edit_cases (page : Page) (edit : Edit) :
    (∃ e, page.edit edit = (.error e, page)) ∨
    (∃ line after, edit = .append line ∧ page.append line = .ok after ∧
      page.edit edit = (.ok none, after)) ∨
    (∃ line position after evicted, edit = .insert line position ∧
      page.insert line position = .ok (after, evicted) ∧
      page.edit edit = (.ok evicted, after)) ∨
    ∃ index, edit = .remove index ∧ page.edit edit =
      (.ok page.content[index]?, { page with content := page.content.eraseIdx index }) := by
  cases edit with
  | append line =>
      cases happend : page.append line with
      | error e => exact .inl ⟨e, by simp only [Page.edit, happend]⟩
      | ok after =>
          exact .inr (.inl ⟨line, after, rfl, happend, by simp only [Page.edit, happend]⟩)
  | insert line position =>
      cases hinsert : page.insert line position with
      | error e => exact .inl ⟨e, by simp only [Page.edit, hinsert]⟩
      | ok result =>
          rcases result with ⟨after, evicted⟩
          exact .inr (.inr (.inl
            ⟨line, position, after, evicted, rfl, hinsert, by simp only [Page.edit, hinsert]⟩))
  | remove index => exact .inr (.inr (.inr ⟨index, rfl, edit_remove page index⟩))

/-- A refused edit leaves the page as it was. -/
theorem eq_of_edit_error {edit : Edit} {after : Page} {e : DocumentError}
    (hrefused : page.edit edit = (.error e, after)) : after = page := by
  rcases page.edit_cases edit with ⟨e', hedit⟩ | ⟨line, after', -, -, hedit⟩ |
    ⟨line, position, after', evicted, -, -, hedit⟩ | ⟨index, -, hedit⟩
  all_goals
    rw [hedit] at hrefused
    cases hrefused
  rfl

/-- An edit changes the content of a page and nothing else. -/
theorem sameFrame_edit (page : Page) (edit : Edit) : page.SameFrame (page.edit edit).2 := by
  rcases page.edit_cases edit with ⟨e, hedit⟩ | ⟨line, after, -, happend, hedit⟩ |
    ⟨line, position, after, evicted, -, hinsert, hedit⟩ | ⟨index, -, hedit⟩
  all_goals rw [hedit]
  · rfl
  · exact sameFrame_append happend
  · exact sameFrame_insert hinsert
  · rfl

/-- An edit keeps the page within its capacity. -/
theorem Fits.edit (hfits : page.Fits) (edit : Edit) : (page.edit edit).2.Fits := by
  rcases page.edit_cases edit with ⟨e, hedit⟩ | ⟨line, after, -, happend, hedit⟩ |
    ⟨line, position, after, evicted, -, hinsert, hedit⟩ | ⟨index, -, hedit⟩
  all_goals rw [hedit]
  · exact hfits
  · exact Fits.append happend
  · exact hfits.insert hinsert
  · exact Admits.mono (List.length_eraseIdx_le page.content index) hfits

/-- The indexed line and the lines left when it is removed are the lines there were. -/
theorem eraseIdx_perm (content : List Line) (index : Nat) :
    content.Perm (content.eraseIdx index ++ content[index]?.toList) := by
  cases hget : content[index]? with
  | none =>
      rw [List.eraseIdx_of_length_le (List.getElem?_eq_none_iff.mp hget), Option.toList_none,
        List.append_nil]
  | some line =>
      rcases List.getElem?_eq_some_iff.mp hget with ⟨hlt, rfl⟩
      exact (List.getElem_cons_eraseIdx_perm hlt).symm.trans
        (List.perm_append_singleton _ _).symm

/-- The lines of the content and the one that an edit puts in are those of the content after it and
the one that it hands back. -/
theorem edit_perm (hfits : page.Fits) {edit : Edit} {back : Option Line} {after : Page}
    (hdone : page.edit edit = (.ok back, after)) :
    (edit.line?.toList ++ page.content).Perm (after.content ++ back.toList) := by
  rcases page.edit_cases edit with ⟨e, hedit⟩ | ⟨line, after', rfl, happend, hedit⟩ |
    ⟨line, position, after', evicted, rfl, hinsert, hedit⟩ | ⟨index, rfl, hedit⟩
  all_goals
    rw [hedit] at hdone
    cases hdone
  · rw [eq_of_append happend, Option.toList_none, List.append_nil]
    exact List.perm_append_comm
  · rw [(content_of_insert hfits hinsert).1]
    have hindex : position - page.header.length ≤ page.content.length := by
      have hhigh := (range_of_insert hinsert).2
      omega
    exact (List.perm_insertIdx line page.content hindex).symm
  · exact eraseIdx_perm page.content index

/-! ## What all edits do -/

theorem SameFrame.trans {after : Page} (hfirst : start.SameFrame page)
    (hsecond : page.SameFrame after) : start.SameFrame after := by
  unfold SameFrame at hfirst hsecond ⊢
  rw [hsecond, hfirst]

/-- What holds of the ledger of a page after any edits. -/
structure Ledger.Balanced (start : Page) (ledger : Ledger) : Prop where
  sameFrame : start.SameFrame ledger.page
  fits : ledger.page.Fits
  perm : (ledger.taken ++ start.content).Perm (ledger.page.content ++ ledger.returned)

/-- A balanced ledger is balanced after one more edit. -/
theorem Ledger.Balanced.enter {ledger : Ledger} (hbalanced : ledger.Balanced start)
    (edit : Edit) : (ledger.enter edit).Balanced start := by
  have hframe := hbalanced.sameFrame.trans (sameFrame_edit ledger.page edit)
  have hfits := hbalanced.fits.edit edit
  unfold Ledger.enter
  split
  · rename_i page hedit
    rw [hedit] at hframe hfits
    cases eq_of_edit_error hedit
    exact ⟨hframe, hfits, hbalanced.perm⟩
  · rename_i back page hedit
    rw [hedit] at hframe hfits
    refine ⟨hframe, hfits, ?_⟩
    have hstep := edit_perm hbalanced.fits hedit
    calc ledger.taken ++ edit.line?.toList ++ start.content
        _ ~ edit.line?.toList ++ (ledger.taken ++ start.content) := by
          rw [← List.append_assoc]
          exact List.perm_append_comm.append_right _
        _ ~ edit.line?.toList ++ (ledger.page.content ++ ledger.returned) :=
          hbalanced.perm.append_left _
        _ ~ page.content ++ back.toList ++ ledger.returned := by
          rw [← List.append_assoc]
          exact hstep.append_right _
        _ ~ page.content ++ (ledger.returned ++ back.toList) := by
          rw [List.append_assoc]
          exact List.perm_append_comm.append_left _

/-- The ledger of a page whose content fits is balanced after any edits. -/
theorem Fits.balanced_ledger (hfits : page.Fits) (edits : List Edit) :
    (page.ledger edits).Balanced page := by
  have hrun : ∀ ledger : Ledger, ledger.Balanced page →
      (edits.foldl Ledger.enter ledger).Balanced page := by
    induction edits with
    | nil => exact fun ledger hbalanced => hbalanced
    | cons edit edits ih => exact fun ledger hbalanced => ih _ (hbalanced.enter edit)
  exact hrun { page } ⟨rfl, hfits, by simp⟩

/-- A page that is edited is a list with a bound.

After any edits a line is refused at the end exactly if header, content and footer are as long as
the page, and an insertion exactly if its position lies outside the content.  An insertion shifts
the lines behind it, and hands the last one back exactly if the content was as long as the capacity.
Removing takes out the indexed line or nothing.  A refused edit changes nothing, and no edit changes
anything but the content.  The lines that were put on the page are those in its content and those
that were handed back, with the same multiplicities. -/
theorem edits_conserve (number : Nat) (pageLength : Option Nat) (header footer : List Line)
    (edits : List Edit) :
    let ledger := (begun number pageLength header footer).ledger edits
    let page := ledger.page
    (page.number = number ∧ page.pageLength = pageLength ∧ page.header = header ∧
      page.footer = footer) ∧
    (∀ line e, page.append line = .error e ↔
      (∃ length, pageLength = some length ∧
        length ≤ header.length + page.content.length + footer.length) ∧ e = .pageFull number) ∧
    (∀ line after, page.append line = .ok after →
      after = { page with content := page.content ++ [line] }) ∧
    (∀ line position e, page.insert line position = .error e ↔
      (position < header.length ∨ header.length + page.content.length < position) ∧
        e = .positionOutOfRange number position) ∧
    (∀ line position after evicted, page.insert line position = .ok (after, evicted) →
      after = { page with content := after.content } ∧
      after.content ++ evicted.toList =
        page.content.insertIdx (position - header.length) line ∧
      (evicted.isSome = true ↔ page.capacity = some page.content.length)) ∧
    (∀ index, page.edit (.remove index) =
      (.ok page.content[index]?, { page with content := page.content.eraseIdx index })) ∧
    (∀ edit e after, page.edit edit = (.error e, after) → after = page) ∧
    ledger.taken.Perm (page.content ++ ledger.returned) := by
  intro ledger page
  have hbegun : (begun number pageLength header footer).Fits := fits_of_content_nil rfl
  have hbalanced : ledger.Balanced (begun number pageLength header footer) :=
    hbegun.balanced_ledger edits
  have hframe : page.number = number ∧ page.pageLength = pageLength ∧ page.header = header ∧
      page.footer = footer := by
    have hsame := hbalanced.sameFrame
    unfold SameFrame at hsame
    exact ⟨congrArg Page.number hsame, congrArg Page.pageLength hsame,
      congrArg Page.header hsame, congrArg Page.footer hsame⟩
  refine ⟨hframe, ?_, ?_, ?_, ?_, edit_remove page, ?_, ?_⟩
  · intro line e
    rw [append_eq_error_iff, size, hframe.1, hframe.2.1, hframe.2.2.1, hframe.2.2.2]
  · intro line after
    exact eq_of_append
  · intro line position e
    rw [insert_eq_error_iff, hframe.1, hframe.2.2.1]
  · intro line position after evicted hinsert
    rw [← hframe.2.2.1]
    exact ⟨sameFrame_insert hinsert, content_of_insert hbalanced.fits hinsert⟩
  · intro edit e after
    exact eq_of_edit_error
  · have hperm := hbalanced.perm
    rwa [begun, List.append_nil] at hperm

/-- A page that its header fills takes every inserted line and hands it back. -/
example : ((begun 1 (some 2) [Line.ofText "a", Line.ofText "b"] []).edit
    (.insert (Line.ofText "x") 2)) =
      (.ok (some (Line.ofText "x")), begun 1 (some 2) [Line.ofText "a", Line.ofText "b"] []) := by
  rfl

end Platen.Page
