import Platen.Proofs.Chunks
import Platen.Report.Page

/-!
# Pages and their capacity

The content of a page is cut at the capacity of the page.  This module states what appending,
inserting and removing do to a page whose content does not exceed its capacity.

Main results:

- Theorem `Page.insert_eq`: an insertion puts the line into the content and cuts it at the capacity;
  what stands beyond is handed on.
- Theorem `Page.insert_refill`: inserting into a page that was filled with the first lines of a list
  fills it with the first lines of the longer list.
- Theorems `Page.Fits.append`, `Page.Fits.insert` and `Page.Fits.remove`: the content never exceeds
  the capacity.
-/

namespace Platen.Page

/-- The content of a page does not exceed its capacity. -/
def Fits (page : Page) : Prop :=
  Admits page.capacity page.content.length

/-- The page with other lines as its content, as many of them as it can hold. -/
def refill (page : Page) (lines : List Line) : Page :=
  { page with content := within page.capacity lines }

/-- The lines that find no room when a page is filled with them. -/
def spill (page : Page) (lines : List Line) : List Line :=
  beyond page.capacity lines

@[simp]
theorem header_refill (page : Page) (lines : List Line) :
    (page.refill lines).header = page.header :=
  rfl

@[simp]
theorem content_refill (page : Page) (lines : List Line) :
    (page.refill lines).content = within page.capacity lines :=
  rfl

/-- Filling a page loses no line. -/
@[simp]
theorem content_refill_append_spill (page : Page) (lines : List Line) :
    (page.refill lines).content ++ page.spill lines = lines :=
  within_append_beyond page.capacity lines

/-- A filled page fits. -/
theorem fits_refill (page : Page) (lines : List Line) : (page.refill lines).Fits :=
  admits_length_within page.capacity lines

/-- Filling a page that fits with its own content changes nothing. -/
theorem Fits.refill_content {page : Page} (hfits : page.Fits) :
    page.refill page.content = page := by
  simp only [refill, within_of_admits hfits]

theorem Fits.spill_content {page : Page} (hfits : page.Fits) : page.spill page.content = [] :=
  beyond_eq_nil_iff.mpr hfits

/-- A page with content is over its length exactly when some of the content finds no room. -/
theorem isOverflow_iff (page : Page) (hne : page.content ≠ []) :
    page.isOverflow = true ↔ page.spill page.content ≠ [] := by
  have hpos : 0 < page.content.length := List.length_pos_iff.mpr hne
  cases hlength : page.pageLength with
  | none => simp [isOverflow, spill, capacity, hlength, beyond]
  | some length =>
      have hover : page.isOverflow = true ↔ length < page.size := by
        simp [isOverflow, hlength]
      rw [hover]
      simp only [spill, capacity, hlength, beyond, size, Option.map_some, ne_eq,
        List.drop_eq_nil_iff, Nat.not_le]
      omega

/-- An insertion puts the line into the content and cuts it at the capacity. -/
theorem insert_eq {page : Page} (hfits : page.Fits) (line : Line) {position : Nat}
    (hposition : position ≤ page.content.length) :
    page.insert line (page.header.length + position) =
      .ok (page.refill (page.content.insertIdx position line),
        (page.spill (page.content.insertIdx position line)).head?) := by
  have hrange : ¬(page.header.length + position < page.header.length ∨
      page.header.length + page.content.length < page.header.length + position) := by
    omega
  have hlength : (page.content.insertIdx position line).length = page.content.length + 1 :=
    List.length_insertIdx_of_le_length hposition line
  have hne : page.content.insertIdx position line ≠ [] := by
    intro hnil
    simp [hnil] at hlength
  have hover := isOverflow_iff { page with content := page.content.insertIdx position line } hne
  simp only [insert, Nat.add_sub_cancel_left, Bool.or_eq_true, decide_eq_true_eq]
  rw [if_neg hrange]
  split
  · rename_i hoverflow
    have hsome : page.spill (page.content.insertIdx position line) ≠ [] := hover.mp hoverflow
    have hone : (page.spill (page.content.insertIdx position line)).length = 1 := by
      have hle := length_beyond_le_one hfits hlength
      have hpos := List.length_pos_iff.mpr hsome
      exact Nat.le_antisymm hle hpos
    rcases dropLast_of_length_beyond hone with ⟨hkept, hlast⟩
    rw [hkept, hlast]
    rfl
  · rename_i hoverflow
    have hnone : page.spill (page.content.insertIdx position line) = [] := by
      by_contra hsome
      exact hoverflow (hover.mpr hsome)
    rw [hnone, refill, within_of_admits (beyond_eq_nil_iff.mp hnone)]
    rfl

/-- Inserting into a page that was filled with the first lines of a list fills it with the first
lines of the longer list; the line that is handed on comes before those that found no room. -/
theorem insert_refill (page : Page) (before : List Line) (line : Line) (after : List Line)
    (hadmits : Admits page.capacity before.length) :
    ∃ evicted : Option Line,
      (page.refill (before ++ after)).insert line (page.header.length + before.length) =
        .ok (page.refill (before ++ line :: after), evicted) ∧
      evicted.toList ++ page.spill (before ++ after) = page.spill (before ++ line :: after) := by
  let grown := (within page.capacity (before ++ after)).insertIdx before.length line
  have hposition : before.length ≤ (page.refill (before ++ after)).content.length := by
    rw [content_refill, within_append_of_admits after hadmits, List.length_append]
    omega
  rcases insert_at_limit line after hadmits with ⟨hwithin, hbeyond⟩
  have hinsert := insert_eq (fits_refill page (before ++ after)) line hposition
  have hlength : grown.length = (within page.capacity (before ++ after)).length + 1 :=
    List.length_insertIdx_of_le_length hposition line
  have hone : (beyond page.capacity grown).length ≤ 1 :=
    length_beyond_le_one (admits_length_within page.capacity (before ++ after)) hlength
  refine ⟨(beyond page.capacity grown).head?, ?_, ?_⟩
  · rw [header_refill] at hinsert
    rw [hinsert]
    show Except.ok ({ page with content := within page.capacity grown },
      (beyond page.capacity grown).head?) = _
    rw [hwithin]
    rfl
  · rw [← List.take_one, List.take_of_length_le hone]
    exact hbeyond

/-! ## What keeps a page within its capacity -/

/-- A page without content fits. -/
theorem fits_of_content_nil {page : Page} (hnil : page.content = []) : page.Fits := by
  intro n _
  simp [hnil]

/-- A line is appended only where there is room for it. -/
theorem Fits.append {page result : Page} {line : Line}
    (happend : page.append line = .ok result) : result.Fits := by
  unfold Page.append at happend
  split at happend
  · contradiction
  · rename_i hroom
    cases happend
    intro n hn
    cases hlength : page.pageLength with
    | none => simp [capacity, hlength] at hn
    | some length =>
        have hlt : page.size < length := by
          simpa [hlength] using hroom
        simp only [capacity, hlength, Option.map_some, Option.some.injEq] at hn
        simp only [size] at hlt
        simp only [List.length_append, List.length_singleton]
        omega

/-- An insertion keeps the page within its capacity. -/
theorem Fits.insert {page result : Page} {line : Line} {position : Nat} {evicted : Option Line}
    (hfits : page.Fits) (hinsert : page.insert line position = .ok (result, evicted)) :
    result.Fits := by
  by_cases hrange : page.header.length ≤ position ∧
      position ≤ page.header.length + page.content.length
  · rcases Nat.exists_eq_add_of_le hrange.1 with ⟨offset, rfl⟩
    rw [insert_eq hfits line (by omega)] at hinsert
    cases hinsert
    exact fits_refill page _
  · have hout : position < page.header.length ∨
        page.header.length + page.content.length < position := by
      omega
    simp [Page.insert, hout] at hinsert

/-- Removing a line keeps the page within its capacity. -/
theorem Fits.remove {page result : Page} {index : Nat} {line : Line}
    (hfits : page.Fits) (hremove : page.remove index = some (line, result)) : result.Fits := by
  simp only [Page.remove, Option.map_eq_some_iff, Prod.mk.injEq] at hremove
  rcases hremove with ⟨_, _, _, rfl⟩
  exact Admits.mono (List.length_eraseIdx_le page.content index) hfits

/-- Numbering the lines of a page does not change how many there are. -/
theorem length_numberFrom (index : Nat) (firstGlobal : Option Nat) (lines : List Line) :
    (numberFrom index firstGlobal lines).length = lines.length := by
  induction lines generalizing index with
  | nil => rfl
  | cons line rest ih => simp [numberFrom, ih]

/-- Numbering keeps a page within its capacity. -/
theorem Fits.numbered {page : Page} (hfits : page.Fits) (firstGlobal : Option Nat) :
    (page.numbered firstGlobal).Fits := by
  intro n hn
  simp only [capacity, Page.numbered, length_numberFrom] at hn ⊢
  exact hfits n hn

end Platen.Page
