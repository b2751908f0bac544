import Platen.Proofs.Marker
import Platen.Proofs.Pagination

/-!
# The blocks of a section

A section is laid out in a report of its own, below as many empty lines as stand before its marker.
This module says what comes out: the rows fall into chunks, the first of them shortened by the lines
before the marker, and every chunk stands between the header and the footer of the section.

Main results:

- Theorem `Section.shortage?_eq_none_iff`: a section has room exactly when its first row would stand
  above its footer.
- Theorem `Section.layout_eq`: a section with room is laid out as its blocks, one after the other.
- Theorem `Section.layout_spec`: when a layout is refused, and which lines it has otherwise.
-/

namespace Platen.Section

/-! ## Blocks -/

/-- The number of rows on a page of the section that starts at the top. -/
def rowLimit (header footer : List String) (slot : Slot) : Option Nat :=
  slot.budget.map (· - (header.length + footer.length))

/-- The number of rows on the first page of the section. -/
def firstLimit (header footer : List String) (slot : Slot) : Option Nat :=
  (rowLimit header footer slot).map (· - slot.offset)

/-- The rows of a section, page by page. -/
def rowChunks (header footer rows : List String) (slot : Slot) : List (List String) :=
  within (firstLimit header footer slot) rows ::
    chunks (rowLimit header footer slot) (beyond (firstLimit header footer slot) rows)

/-- Rows between the header and footer of the section. -/
def framed (header footer rows : List String) : List Line :=
  (header ++ rows ++ footer).map Line.ofText

/-- The lines of a section, page by page. -/
def blocks (header footer rows : List String) (slot : Slot) : List (List Line) :=
  (rowChunks header footer rows slot).map (framed header footer)

/-- The blocks of a section are static. -/
theorem static_of_mem_blocks {header footer rows : List String} {slot : Slot} {block : List Line}
    (hblock : block ∈ blocks header footer rows slot) : Static block := by
  rcases List.mem_map.mp hblock with ⟨chunk, -, rfl⟩
  exact static_map_ofText _

/-- A section has room exactly when its first row would stand above its footer. -/
theorem shortage?_eq_none_iff {header footer : List String} {slot : Slot} :
    shortage? header footer slot = none ↔
      ∀ budget, slot.budget = some budget →
        header.length + slot.offset + footer.length < budget := by
  unfold shortage?
  cases slot.budget with
  | none => simp
  | some budget =>
      simp only [Option.some.injEq, forall_eq']
      split
      · simp
        omega
      · simp
        omega

/-! ## Layout -/

section

variable {header footer : List String} {slot : Slot}

/-- A new page of the sheet holds as many lines as there are rows between header and footer. -/
theorem capacity_sheet (header footer : List String) (slot : Slot) :
    ((sheet header footer slot).nextPage false).capacity = rowLimit header footer slot := by
  simp [sheet, Report.nextPage, Page.capacity, rowLimit]

/-- With room for the section, there is room for a row beside the lines before the marker. -/
theorem admits_offset (hroom : shortage? header footer slot = none) :
    Admits (rowLimit header footer slot) (slot.offset + 1) := by
  intro n hn
  rcases Option.map_eq_some_iff.mp hn with ⟨budget, hbudget, rfl⟩
  have hlt := shortage?_eq_none_iff.mp hroom budget hbudget
  omega

theorem rowLimit_ne_zero (hroom : shortage? header footer slot = none) :
    rowLimit header footer slot ≠ some 0 := by
  intro hzero
  have hle := admits_offset hroom 0 hzero
  omega

/-- Each row stands in one of the chunks, and their order stays. -/
theorem flatten_rowChunks (hroom : shortage? header footer slot = none) (rows : List String) :
    (rowChunks header footer rows slot).flatten = rows := by
  rw [rowChunks, List.flatten_cons, flatten_chunks (rowLimit_ne_zero hroom), within_append_beyond]

/-- The sheet with its first page grows at that page. -/
theorem growing_sheet (hroom : shortage? header footer slot = none) :
    ((sheet header footer slot).newPage false).Growing []
      ((sheet header footer slot).nextPage false) where
  pages_eq := rfl
  current_eq := rfl
  no_break := rfl
  fits := Page.fits_of_content_nil rfl
  room := by
    rw [capacity_sheet]
    exact rowLimit_ne_zero hroom
  new_room := by
    show ((sheet header footer slot).nextPage false).capacity ≠ some 0
    rw [capacity_sheet]
    exact rowLimit_ne_zero hroom

/-- The lines of fresh pages of the sheet are framed chunks. -/
theorem lines_freshPages_sheet (number : Nat) (contents : List (List String)) :
    ((sheet header footer slot).freshPages number (contents.map (List.map Line.ofText))).flatMap
        Page.lines =
      (contents.map (framed header footer)).flatten := by
  induction contents generalizing number with
  | nil => rfl
  | cons content contents ih =>
      rw [List.map_cons, Report.freshPages_cons, List.flatMap_cons, ih, List.map_cons,
        List.flatten_cons]
      simp [Page.lines, Report.seeded, Report.nextPage, sheet, framed]

/-- The number of empty lines that the layout puts before the section. -/
def spacers (slot : Slot) : Nat :=
  if slot.budget.isSome then slot.offset else 0

/-- The empty lines take their places from the first page of the section. -/
theorem rowLimit_sub_spacers (header footer : List String) (slot : Slot) :
    (rowLimit header footer slot).map (· - spacers slot) = firstLimit header footer slot := by
  cases hbudget : slot.budget <;> simp [rowLimit, firstLimit, spacers, hbudget]

/-- The pages of the sheet, read without the empty lines, are the blocks of the section. -/
theorem flatten_sheet (hroom : shortage? header footer slot = none) (rows : List String) :
    flatten (spacers slot)
        (((sheet header footer slot).newPage false).reflowed []
          ((sheet header footer slot).nextPage false) []
          (List.replicate (spacers slot) Line.blank ++ rows.map Line.ofText)).pages =
      (blocks header footer rows slot).flatten := by
  have hadmits : Admits (rowLimit header footer slot)
      (List.replicate (spacers slot) Line.blank).length := by
    refine Admits.mono ?_ (admits_offset hroom)
    rw [List.length_replicate, spacers]
    split <;> omega
  have hcontent : within (rowLimit header footer slot)
      (List.replicate (spacers slot) Line.blank ++ rows.map Line.ofText) =
      List.replicate (spacers slot) Line.blank ++
        (within (firstLimit header footer slot) rows).map Line.ofText := by
    rw [within_append_of_admits _ hadmits, List.length_replicate, rowLimit_sub_spacers, within_map]
  have hspill : beyond (rowLimit header footer slot)
      (List.replicate (spacers slot) Line.blank ++ rows.map Line.ofText) =
      (beyond (firstLimit header footer slot) rows).map Line.ofText := by
    rw [beyond_append_of_admits _ hadmits, List.length_replicate, rowLimit_sub_spacers, beyond_map]
  have hfirst : ((sheet header footer slot).nextPage false).header ++
      (within (firstLimit header footer slot) rows).map Line.ofText ++
      ((sheet header footer slot).nextPage false).footer =
      framed header footer (within (firstLimit header footer slot) rows) := by
    simp [Report.nextPage, sheet, framed]
  simp only [Report.reflowed, Report.poured, Report.reflow, Report.overflow, Page.refill,
    Page.spill, capacity_sheet, hcontent, hspill, List.nil_append, List.singleton_append, flatten]
  rw [List.drop_left' (List.length_replicate ..), hfirst, blocks, rowChunks, List.map_cons,
    List.flatten_cons]
  congr 1
  have hchunks := chunks_map Line.ofText (rowLimit_ne_zero hroom)
    (beyond (firstLimit header footer slot) rows)
  rw [← lines_freshPages_sheet ((sheet header footer slot).lastPageNumber + 1 + 1), ← hchunks,
    ← capacity_sheet header footer slot]
  rfl

/-- A section with room is laid out as its blocks, one after the other. -/
theorem layout_eq (hroom : shortage? header footer slot = none) (rows : List String) :
    layout header footer rows slot = .ok (blocks header footer rows slot).flatten := by
  have hgrowing := growing_sheet hroom
  have hblanks := Report.appendAll_eq_reflowed hgrowing
    (List.replicate (spacers slot) Line.blank)
  have hlines := Report.appendAll_eq_reflowed hgrowing
    (List.replicate (spacers slot) Line.blank ++ rows.map Line.ofText)
  rw [Report.appendAll_append, hblanks] at hlines
  simp only [layout, hroom, Report.appendBlanks_eq_appendAll, Report.appendTexts_eq_appendAll]
  rw [show (if slot.budget.isSome then slot.offset else 0) = spacers slot from rfl, hblanks]
  simp only [hlines]
  exact congrArg Except.ok (flatten_sheet hroom rows)

/-- Laying out a section fails exactly if it has no room, and for this reason. -/
theorem layout_eq_error_iff {e : FillError} (rows : List String) :
    layout header footer rows slot = .error e ↔ shortage? header footer slot = some e := by
  cases hshort : shortage? header footer slot with
  | none => simp [layout_eq hshort]
  | some cause => simp [layout, hshort]

end

/-! ## Rows page by page -/

section

variable {header footer : List String} {slot : Slot} {budget : Nat}

/-- On limited pages the header of a section must not reach its footer. -/
theorem shortage?_eq (hbudget : slot.budget = some budget) :
    shortage? header footer slot =
      if budget - footer.length ≤ header.length + slot.offset then
        some (.insufficientSpace slot.page
          (.sectionBelowFooter (header.length + slot.offset) (budget - footer.length)))
      else none := by
  simp [shortage?, hbudget]

/-- Without a limit there is a single block. -/
theorem blocks_of_unlimited (hbudget : slot.budget = none) (rows : List String) :
    blocks header footer rows slot = [framed header footer rows] := by
  simp [blocks, rowChunks, firstLimit, rowLimit, hbudget, within, beyond]

/-- On limited pages the first chunk has the rows that fit below the lines before the marker, and
every further one the next rows that fit between a header and a footer. -/
theorem rowChunks_eq (hbudget : slot.budget = some budget)
    (hlimit : 0 < budget - (header.length + footer.length)) (rows : List String) :
    let limit := budget - (header.length + footer.length)
    let room := limit - slot.offset
    rowChunks header footer rows slot = rows.take room ::
      (List.range ((rows.length - room + limit - 1) / limit)).map
        fun i => (rows.drop (room + i * limit)).take limit := by
  intro limit room
  have hchunks := chunks_eq_map_range hlimit (rows.drop room)
  simp only [List.length_drop, List.drop_drop] at hchunks
  simp only [rowChunks, firstLimit, rowLimit, hbudget, Option.map_some, within, beyond]
  exact congrArg _ hchunks

/-- Every page of a section after the first one has rows. -/
theorem ne_nil_of_mem_tail_rowChunks (hroom : shortage? header footer slot = none)
    (rows : List String) : ∀ chunk ∈ (rowChunks header footer rows slot).tail, chunk ≠ [] := by
  intro chunk hchunk
  exact (chunk_bounds (rowLimit_ne_zero hroom) _ chunk hchunk).1

/-- A block holds no empty line: each of its lines is a text. -/
theorem blank_notMem_framed (rows : List String) : Line.blank ∉ framed header footer rows := by
  intro hmem
  rcases List.mem_map.mp hmem with ⟨s, -, hs⟩
  cases hs

end

/-- The layout of a section.  Without a limit it is one block.  With a limit it fails exactly if the
header would reach the footer, whether there are rows or not; otherwise the first page takes the
rows that fit below the lines before the marker and every further page the next ones, each between a
header and a footer of its own.  No row is lost, doubled or moved, no empty line is left over, and
only a section without rows has a page without rows. -/
theorem layout_spec (header footer rows : List String) (slot : Slot) :
    (slot.budget = none → layout header footer rows slot = .ok (framed header footer rows)) ∧
    ∀ budget, slot.budget = some budget →
      let start := header.length + slot.offset
      let footerStart := budget - footer.length
      let limit := budget - (header.length + footer.length)
      let room := limit - slot.offset
      (layout header footer rows slot =
          .error (.insufficientSpace slot.page (.sectionBelowFooter start footerStart)) ↔
        footerStart ≤ start) ∧
      (start < footerStart → ∃ (first : List String) (further : List (List String)),
        layout header footer rows slot = .ok ((first :: further).flatMap (framed header footer)) ∧
        first = rows.take room ∧
        further = (List.range ((rows.length - room + limit - 1) / limit)).map
          (fun i => (rows.drop (room + i * limit)).take limit) ∧
        (first :: further).flatten = rows ∧
        (first = [] → rows = []) ∧ (∀ chunk ∈ further, chunk ≠ []) ∧
        Line.blank ∉ (first :: further).flatMap (framed header footer)) := by
  refine ⟨fun hbudget => ?_, fun budget hbudget => ⟨?_, fun hlt => ?_⟩⟩
  · have hroom : shortage? header footer slot = none := by
      simp [shortage?, hbudget]
    rw [layout_eq hroom, blocks_of_unlimited hbudget, List.flatten_singleton]
  · rw [layout_eq_error_iff, shortage?_eq hbudget]
    simp
  · have hroom : shortage? header footer slot = none := by
      rw [shortage?_eq hbudget, if_neg (Nat.not_le.mpr hlt)]
    have hchunks := @rowChunks_eq header footer slot budget hbudget (by omega) rows
    have hlayout := layout_eq hroom rows
    have hflatten := flatten_rowChunks hroom rows
    have hfurther := ne_nil_of_mem_tail_rowChunks hroom rows
    rw [blocks, ← List.flatMap_def] at hlayout
    rw [hchunks] at hlayout hflatten hfurther
    refine ⟨_, _, hlayout, rfl, rfl, hflatten, ?_, hfurther, ?_⟩
    · intro hnone
      rw [List.take_eq_nil_iff] at hnone
      exact hnone.resolve_left (by omega)
    · intro hmem
      rcases List.mem_flatMap.mp hmem with ⟨chunk, -, hblank⟩
      exact blank_notMem_framed chunk hblank

/-- Seven rows on pages of five lines, below one line that stands before the marker. -/
theorem layout_sevenRows :
    layout ["top"] ["end"] ["1", "2", "3", "4", "5", "6", "7"]
        { page := 1, offset := 1, budget := some 5 } =
      .ok ([["1", "2"], ["3", "4", "5"], ["6", "7"]].flatMap (framed ["top"] ["end"])) := by
  have hspec := layout_spec ["top"] ["end"] ["1", "2", "3", "4", "5", "6", "7"]
    { page := 1, offset := 1, budget := some 5 }
  rcases (hspec.2 5 rfl).2 (by decide) with ⟨first, further, hlayout, rfl, rfl, -⟩
  exact hlayout

end Platen.Section
