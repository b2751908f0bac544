import Mathlib.Algebra.BigOperators.Group.List.Basic
import Platen.Proofs.Draining
import Platen.Proofs.RowBlocks

/-!
# The lengths of table lines

A table is as wide as its columns together, and by one character wider with a border.  The border
stands in the columns: it takes one character from each, so that a column of width one has none left
for its cells.  The texts of such a column are printed whole, and they alone make a line longer than
the table is wide.

Main results:

- Theorem `Table.length_line`: a line is as long as the table is wide, and by as much longer as
  its cells are wider than their columns.
- Theorem `WrapBuffer.length_add`: what a cell shows of a wrapped text.
- Theorem `Table.lines_rectangular`: the lengths of the rule, the headings and all lines of the
  rows, and when all of them are the same.
-/

namespace Platen

namespace WrapBuffer

/-! ## Pieces -/

/-- What fits in a cell, or the whole text if the cell has no width. -/
theorem length_add (buffer : WrapBuffer) (column : Nat) (text : String) (width : Nat) :
    (buffer.add column text width).1.length = if width = 0 then text.length else width := by
  unfold add
  simp only
  split
  · rename_i hfits
    simp only [Bool.or_eq_true, decide_eq_true_eq, String.length_toList] at hfits
    by_cases hwidth : width = 0
    · simp [fill, Text.blanks, hwidth]
    · have hle : text.length ≤ width := hfits.resolve_right hwidth
      simp only [fill, Text.blanks, String.length_ofList, List.length_append,
        String.length_toList, List.length_replicate, hwidth, if_false]
      omega
  · rename_i hlong
    simp only [Bool.or_eq_true, decide_eq_true_eq, not_or] at hlong
    rw [if_neg hlong.2, String.length_ofList, List.length_take]
    omega

end WrapBuffer

namespace Table

/-! ## The width of a table -/

/-- The number of characters across a table: the widths of its columns, and one more with a
border. -/
def lineWidth (table : Table) : Nat :=
  (table.columns.map Column.width).sum + table.edge.length

/-- The number of characters by which the text of a cell is wider than its column: a text is cut to
its cell, unless the cell has no width at all. -/
def overhang (table : Table) (column : Column) (text : String) : Nat :=
  if table.cellWidth column = 0 then text.length else 0

/-- The number of characters by which the cells of a line are wider than their columns. -/
def excess (table : Table) (texts : List String) : Nat :=
  (List.zipWith table.overhang table.columns texts).sum

variable {table : Table}

/-- A cell and the border before it take the declared width of the column. -/
theorem edge_add_cellWidth {column : Column} (hdeclared : 1 ≤ column.width) :
    table.edge.length + table.cellWidth column = column.width := by
  unfold edge cellWidth
  split
  · simp only [List.length_singleton]
    omega
  · simp

/-- Only a column of width one in a bordered table can be exceeded. -/
theorem overhang_eq_zero {column : Column} (hdeclared : 1 ≤ column.width)
    (hwide : table.border = true → 2 ≤ column.width) (text : String) :
    table.overhang column text = 0 := by
  have hpos : table.cellWidth column ≠ 0 := by
    unfold cellWidth
    split
    · rename_i hborder
      have := hwide hborder
      omega
    · omega
  simp [overhang, hpos]

theorem length_pad_cell (table : Table) (column : Column) (text : String)
    (alignment : Alignment) :
    (Text.pad text (table.cellWidth column) alignment).length =
      table.cellWidth column + table.overhang column text := by
  unfold Text.pad overhang
  by_cases hwidth : table.cellWidth column = 0
  · simp [hwidth]
  · simp [hwidth, Text.length_fitTo]

/-- A cell has the width of its column and what its text is wider. -/
theorem length_hold (table : Table) (index : Nat) (buffer : WrapBuffer) (column : Column)
    (cell : Cell) :
    (table.hold index buffer column cell).1.length =
      table.cellWidth column + table.overhang column cell.text := by
  unfold hold
  split
  · rw [WrapBuffer.length_add, overhang]
    split <;> omega
  · exact table.length_pad_cell column cell.text _

theorem length_joinCells (table : Table) (cells : List String) :
    (table.joinCells cells).length =
      ((cells.map String.length).map (table.edge.length + ·)).sum + table.edge.length := by
  unfold joinCells edge
  split
  · simp [String.length_join, Function.comp_def, show "|".length = 1 from rfl]
  · simp [String.length_join, Function.comp_def]

/-- The widths of cells and what their texts are wider, as they stand in a line. -/
theorem sum_cells {columns : List Column} (hdeclared : ∀ column ∈ columns, 1 ≤ column.width)
    {texts : List String} (hlength : columns.length = texts.length) :
    ((List.zipWith (fun column text => table.cellWidth column + table.overhang column text) columns
        texts).map (table.edge.length + ·)).sum =
      (columns.map Column.width).sum + (List.zipWith table.overhang columns texts).sum := by
  induction columns generalizing texts with
  | nil => simp
  | cons column columns ih =>
      rcases List.forall_mem_cons.mp hdeclared with ⟨hfirst, hrest⟩
      cases texts with
      | nil => simp at hlength
      | cons text texts =>
          have hcell := @edge_add_cellWidth table column hfirst
          have htail := ih hrest (Nat.succ.inj hlength)
          simp only [List.zipWith_cons_cons, List.map_cons, List.sum_cons, htail]
          omega

/-- A line is as long as the table is wide, and by as much longer as the texts of its cells are
wider than their columns. -/
theorem length_line (hdeclared : ∀ column ∈ table.columns, 1 ≤ column.width)
    {cells texts : List String} (hlength : table.columns.length = texts.length)
    (hcells : cells.map String.length = List.zipWith
      (fun column text => table.cellWidth column + table.overhang column text) table.columns texts) :
    (table.joinCells cells).length = table.lineWidth + table.excess texts := by
  rw [length_joinCells, hcells, sum_cells hdeclared hlength, lineWidth, excess]
  omega

/-- A line whose cells have the widths of their columns is as long as the table is wide. -/
theorem length_line_of_widths (hdeclared : ∀ column ∈ table.columns, 1 ≤ column.width)
    {cells : List String} (hcells : cells.map String.length = table.cellWidths) :
    (table.joinCells cells).length = table.lineWidth := by
  have hblank : table.excess (table.columns.map fun _ => "") = 0 := by
    rw [excess, List.zipWith_map_right, List.zipWith_self]
    simp [overhang]
  rw [← Nat.add_zero table.lineWidth, ← hblank]
  apply length_line hdeclared
  · rw [List.length_map]
  · rw [hcells, List.zipWith_map_right, List.zipWith_self, cellWidths]
    simp [overhang]

/-! ## Lines of rows -/

/-- Whether the lines of a row have the lengths that its cells give them: the first one exceeds the
table by what the texts are wider than their columns, and no further one does. -/
def HasLengths (table : Table) (cells : List Cell) : List String → Prop
  | [] => False
  | first :: further =>
    first.length = table.lineWidth + table.excess (cells.map Cell.text) ∧
      ∀ line ∈ further, line.length = table.lineWidth

variable {r : Resolver}

/-- If the cells of a row are computed, the columns resolve to cells, and what is shown of them has
the width of the columns and what the texts are wider. -/
theorem lengths_of_rowCells {sources : List Source} {columns : List Column} {index : Nat}
    {buffer last : WrapBuffer} {shown : List String} {memory after : Memory}
    (hsound : memory.Sound)
    (hrun : (table.rowCells r sources index buffer columns).run.run memory =
      (.ok (shown, last), after)) :
    ∃ cells, Resolves r sources columns cells ∧ after.Sound ∧
      shown.map String.length = List.zipWith
        (fun column text => table.cellWidth column + table.overhang column text) columns
        (cells.map Cell.text) := by
  induction columns generalizing index buffer last shown memory with
  | nil =>
      cases hrun
      exact ⟨[], .nil, hsound, rfl⟩
  | cons column columns ih =>
      rcases run_bind_ok hrun with ⟨cell, middle, hcell, hlater⟩
      have hheld : (table.rowCells r sources (index + 1) (table.hold index buffer column cell).2
          columns >>= fun rest => pure ((table.hold index buffer column cell).1 :: rest.1,
            rest.2)).run.run middle = (.ok (shown, last), after) := hlater
      rcases run_bind_ok hheld with ⟨⟨rest, end'⟩, final, hrest, hdone⟩
      cases hdone
      rcases r.transparent_cell column.text sources memory hsound with ⟨hfresh, hmiddle⟩
      rw [hcell] at hfresh hmiddle
      rcases ih hmiddle hrest with ⟨cells, hcells, hafter, hlengths⟩
      refine ⟨cell :: cells, .cons hfresh.symm hcells, hafter, ?_⟩
      rw [List.map_cons, List.map_cons, List.zipWith_cons_cons, hlengths, length_hold]

/-- If the lines of rows are computed, all columns resolve to cells, and the lines of each row have
the lengths that its cells give them. -/
theorem lengths_of_rowLinesFrom (hdeclared : ∀ column ∈ table.columns, 1 ≤ column.width)
    {rows : List Value} {buffer : WrapBuffer} {lines : List String} {memory after : Memory}
    (hsound : memory.Sound)
    (hrun : (table.rowLinesFrom r buffer rows).run.run memory = (.ok lines, after)) :
    ∃ (cells : List (List Cell)) (blocks : List (List String)),
      List.Forall₂ (fun row => Resolves r [Source.ofRow row] table.columns) rows cells ∧
      lines = blocks.flatten ∧ List.Forall₂ table.HasLengths cells blocks := by
  induction rows generalizing buffer lines memory with
  | nil =>
      cases hrun
      exact ⟨[], [], .nil, rfl, .nil⟩
  | cons row rows ih =>
      rcases run_bind_ok hrun with ⟨⟨shown, waiting⟩, middle, hcells, hlater⟩
      rcases run_bind_ok hlater with ⟨rest, final, hrest, hdone⟩
      cases hdone
      rcases lengths_of_rowCells hsound hcells with ⟨first, hfirst, hmiddle, hlengths⟩
      rcases ih hmiddle hrest with ⟨cells, blocks, hresolve, rfl, hblocks⟩
      refine ⟨first :: cells, (table.joinCells shown ::
        (waiting.flush table.cellWidths).1.map table.joinCells) :: blocks, .cons hfirst hresolve,
        rfl, .cons ⟨?_, ?_⟩ hblocks⟩
      · exact length_line hdeclared (by rw [List.length_map, hfirst.length_eq]) hlengths
      · intro line hline
        rcases List.mem_map.mp hline with ⟨pieces, hpieces, rfl⟩
        exact length_line_of_widths hdeclared (WrapBuffer.map_length_of_mem_flush hpieces)

/-- The lines of rows are as long as the table is wide exactly if no text is wider than its column.
-/
theorem lengths_eq_iff {cells : List (List Cell)} {blocks : List (List String)}
    (hblocks : List.Forall₂ table.HasLengths cells blocks) :
    (∀ line ∈ blocks.flatten, line.length = table.lineWidth) ↔
      ∀ row ∈ cells, table.excess (row.map Cell.text) = 0 := by
  induction hblocks with
  | nil => simp
  | @cons row block cells blocks hblock hblocks ih =>
      cases block with
      | nil => exact hblock.elim
      | cons first further =>
          rcases hblock with ⟨hfirst, hfurther⟩
          rw [List.flatten_cons, List.forall_mem_append, ih, List.forall_mem_cons,
            List.forall_mem_cons]
          constructor
          · rintro ⟨⟨hlength, -⟩, hrest⟩
            exact ⟨by omega, hrest⟩
          · rintro ⟨hnone, hrest⟩
            exact ⟨⟨by omega, hfurther⟩, hrest⟩

/-! ## All lines of a table -/

/-- The rule is as long as the table is wide. -/
theorem length_rule (hdeclared : ∀ column ∈ table.columns, 1 ≤ column.width)
    (hborder : table.border = true) : table.rule.length = table.lineWidth := by
  have hedge : table.edge.length = 1 := by
    simp [edge, hborder]
  have hcolumns : table.columns.map (fun column => table.cellWidth column + 1) =
      table.columns.map Column.width := by
    refine List.map_congr_left fun column hcolumn => ?_
    have hcell := @edge_add_cellWidth table column (hdeclared column hcolumn)
    omega
  rw [lineWidth, hedge, ← hcolumns, rule]
  simp [String.length_join, Function.comp_def, show "+".length = 1 from rfl]
  omega

theorem length_captionRow (hdeclared : ∀ column ∈ table.columns, 1 ≤ column.width) :
    table.captionRow.length =
      table.lineWidth + table.excess (table.columns.map Column.heading) := by
  apply length_line hdeclared
  · rw [List.length_map]
  · rw [List.zipWith_map_right, List.zipWith_self, List.map_map]
    exact List.map_congr_left fun column _ => table.length_pad_cell column column.heading .left

theorem excess_eq_zero (hdeclared : ∀ column ∈ table.columns, 1 ≤ column.width)
    (hwide : table.border = true → ∀ column ∈ table.columns, 2 ≤ column.width)
    (texts : List String) : table.excess texts = 0 := by
  rw [excess]
  apply List.sum_eq_zero
  intro n hn
  rcases List.mem_iff_getElem.mp hn with ⟨i, hi, rfl⟩
  rw [List.getElem_zipWith]
  have hcolumn := List.getElem_mem (l := table.columns) (n := i) (by simp at hi; omega)
  exact overhang_eq_zero (hdeclared _ hcolumn) (fun hborder => hwide hborder _ hcolumn) _

/-- The lines of a table with declared widths.  The rule is as long as the table is wide.  The
headings, and the first line of each row, are longer by the texts of the columns that the border
leaves no room for; all further lines are as long as the table is wide.  So all lines have one
length exactly if these texts are empty, and always if the border leaves room in every column. -/
theorem lines_rectangular (table : Table)
    (hdeclared : ∀ column ∈ table.columns, 1 ≤ column.width) {r : Resolver} {rows : List Value}
    {lines : List String} {memory after : Memory} (hsound : memory.Sound)
    (hrun : (table.rowLines r rows).run.run memory = (.ok lines, after)) :
    (table.border = true → table.rule.length = table.lineWidth) ∧
    table.captionRow.length =
      table.lineWidth + table.excess (table.columns.map Column.heading) ∧
    ((table.border = true → ∀ column ∈ table.columns, 2 ≤ column.width) →
      ∀ line ∈ table.captionRow :: lines, line.length = table.lineWidth) ∧
    ∃ (cells : List (List Cell)) (blocks : List (List String)),
      List.Forall₂ (fun row => Resolves r [Source.ofRow row] table.columns) rows cells ∧
      lines = blocks.flatten ∧ List.Forall₂ table.HasLengths cells blocks ∧
      ((∀ line ∈ table.captionRow :: lines, line.length = table.lineWidth) ↔
        table.excess (table.columns.map Column.heading) = 0 ∧
          ∀ row ∈ cells, table.excess (row.map Cell.text) = 0) := by
  rcases lengths_of_rowLinesFrom hdeclared hsound hrun with
    ⟨cells, blocks, hcells, rfl, hblocks⟩
  have hcaption := length_captionRow hdeclared
  have hiff : (∀ line ∈ table.captionRow :: blocks.flatten, line.length = table.lineWidth) ↔
      table.excess (table.columns.map Column.heading) = 0 ∧
        ∀ row ∈ cells, table.excess (row.map Cell.text) = 0 := by
    rw [List.forall_mem_cons, lengths_eq_iff hblocks, hcaption, Nat.add_eq_left]
  refine ⟨length_rule hdeclared, hcaption, fun hwide => ?_, cells, blocks, hcells, rfl, hblocks,
    hiff⟩
  exact hiff.mpr ⟨excess_eq_zero hdeclared hwide _, fun _ _ => excess_eq_zero hdeclared hwide _⟩

/-- A bordered table whose first column has only room for the border. -/
def narrowTable : Table :=
  { source := "items"
    columns := [{ text := "a", width := 1 }, { text := "b", width := 3, wrap := true }]
    border := true }

/-- The table is five characters wide, and its rule is as long.  The first line of a row is longer
by the three characters of the first cell, the headings by one. -/
theorem lines_narrowTable :
    ((narrowTable.rowLines .scriptless
        [.map [("a", .text "xyz"), ("b", .text "abcd")]]).run.run []).1 =
        .ok ["|xyz|ab|", "||cd|"] ∧
      narrowTable.rule.length = 5 ∧ narrowTable.captionRow.length = 5 + 1 ∧
      ∃ cells blocks, ["|xyz|ab|", "||cd|"] = List.flatten blocks ∧
        List.Forall₂ narrowTable.HasLengths [cells] blocks := by
  have hdeclared : ∀ column ∈ narrowTable.columns, 1 ≤ column.width := by decide
  have hrun : (narrowTable.rowLines .scriptless
      [.map [("a", .text "xyz"), ("b", .text "abcd")]]).run.run [] =
        (.ok ["|xyz|ab|", "||cd|"], _) := rfl
  rcases narrowTable.lines_rectangular hdeclared Memory.sound_nil hrun with
    ⟨hrule, hcaption, -, cells, blocks, hcells, hlines, hblocks, -⟩
  refine ⟨by rw [hrun], hrule rfl, hcaption, ?_⟩
  cases hcells with
  | cons _ hnone =>
      cases hnone
      exact ⟨_, blocks, hlines, hblocks⟩

/-- Not all lines of this table have one length. -/
theorem narrowTable_not_rectangular :
    (∀ column ∈ narrowTable.columns, 1 ≤ column.width) ∧
      ∃ (lines : List String) (after : Memory),
        (narrowTable.rowLines .scriptless
            [.map [("a", .text "xyz"), ("b", .text "abcd")]]).run.run [] = (.ok lines, after) ∧
          ¬ ∀ line ∈ narrowTable.rule :: lines, line.length = narrowTable.lineWidth :=
  ⟨by decide, ["|xyz|ab|", "||cd|"], _, rfl, by decide⟩

end Table

end Platen
