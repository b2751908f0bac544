import Mathlib.Algebra.Order.Floor.Div
import Mathlib.Data.List.Forall2
import Mathlib.Data.List.GetD
import Platen.Proofs.Memory
import Platen.Proofs.WaitingText

/-!
# The lines of table rows

Each row of a table is printed as a block of lines.  Cells of wrapped columns go on from line to
line, all other cells stand in the first one.  The buffer in which text waits is empty again at the
end of each block, so that a block depends on its own row alone.

Main results:

- Theorem `Table.isBlock_block`: cutting the lines of a block at the columns gives the text of each
  wrapped cell back, and every other cell in the first line.
- Theorem `Table.rowLines_eq_blocks`: the lines of rows are their blocks, one after the other.
-/

namespace Platen

namespace Table

/-! ## Blocks -/

/-- The characters of a cell in line `k` of its block. -/
def piece (table : Table) (k : Nat) (column : Column) (cell : Cell) : List Char :=
  let width := table.cellWidth column
  if column.wrap then WrapBuffer.fill width ((cell.text.toList.drop (k * width)).take width)
  else if k = 0 then Text.fitTo width (column.cellAlignment cell) cell.text.toList
  else Text.blanks width

/-- The number of lines that a cell needs after the first one. -/
def further (table : Table) (column : Column) (cell : Cell) : Nat :=
  if column.wrap then cell.text.toList.length ⌈/⌉ table.cellWidth column - 1 else 0

/-- The number of lines of the block of a row. -/
def height (table : Table) (cells : List Cell) : Nat :=
  1 + (List.zipWith table.further table.columns cells).foldr max 0

/-- The characters of all cells in line `k` of a block. -/
def pieces (table : Table) (cells : List Cell) (k : Nat) : List (List Char) :=
  List.zipWith (table.piece k) table.columns cells

/-- The block of a row. -/
def block (table : Table) (cells : List Cell) : List String :=
  (List.range (table.height cells)).map fun k =>
    table.joinCells ((table.pieces cells k).map String.ofList)

/-- The first line of a block holds the first pieces, and the further ones those that follow. -/
theorem block_eq (table : Table) (cells : List Cell) :
    table.block cells = table.joinCells ((table.pieces cells 0).map String.ofList) ::
      (List.range ((List.zipWith table.further table.columns cells).foldr max 0)).map fun k =>
        table.joinCells ((table.pieces cells (k + 1)).map String.ofList) := by
  rw [block, height, Nat.add_comm, List.range_succ_eq_map, List.map_cons, List.map_map]
  rfl

theorem length_piece (table : Table) (k : Nat) (column : Column) (cell : Cell) :
    (table.piece k column cell).length = table.cellWidth column := by
  unfold piece
  simp only
  split
  · exact WrapBuffer.length_fill_take _ _
  · split
    · exact Text.length_fitTo _ _ _
    · simp [Text.blanks]

/-! ## Rows as they are computed -/

/-- The text of a cell that waits when its first line is printed. -/
def leftover (table : Table) (column : Column) (cell : Cell) : List Char :=
  if column.wrap then cell.text.toList.drop (table.cellWidth column) else []

/-- Whether the columns resolve to cells. -/
def Resolves (r : Resolver) (sources : List Source) (columns : List Column) (cells : List Cell) :
    Prop :=
  List.Forall₂ (fun column cell => ((r.cell column.text sources).run.run []).1 = .ok cell)
    columns cells

variable {table : Table} {r : Resolver}

/-- What a cell shows in the first line of its row, and the buffer with the rest of its text. -/
def hold (table : Table) (index : Nat) (buffer : WrapBuffer) (column : Column) (cell : Cell) :
    String × WrapBuffer :=
  if column.wrap then buffer.add index cell.text (table.cellWidth column)
  else (Text.pad cell.text (table.cellWidth column) (column.cellAlignment cell), buffer)

/-- A cell shows its first piece, and the rest of its text waits. -/
theorem hold_eq {column : Column} (hwidth : 1 ≤ table.cellWidth column) (cell : Cell)
    {index : Nat} {buffer : WrapBuffer} (hnone : buffer.pending index = []) :
    (table.hold index buffer column cell).1 = String.ofList (table.piece 0 column cell) ∧
      (table.hold index buffer column cell).2.pending =
        Function.update buffer.pending index (table.leftover column cell) := by
  unfold hold piece leftover
  by_cases hwrap : column.wrap = true
  · simp only [hwrap, if_true, Nat.zero_mul, List.drop_zero]
    exact WrapBuffer.add_eq hwidth buffer index cell.text
  · simp only [hwrap, Text.pad, if_neg (Nat.ne_of_gt hwidth)]
    exact ⟨rfl, (hnone ▸ Function.update_eq_self index buffer.pending).symm⟩

theorem tidy_hold {buffer : WrapBuffer} (htidy : buffer.Tidy) (index : Nat) (column : Column)
    (cell : Cell) : (table.hold index buffer column cell).2.Tidy := by
  unfold hold
  split
  · exact htidy.add _ _ _
  · exact htidy

/-- A row is computed cell by cell. -/
theorem run_rowCells_cons {sources : List Source} {column : Column} {columns : List Column}
    {cell : Cell} {shown : List String} {index : Nat} {buffer last : WrapBuffer}
    {memory middle after : Memory}
    (hcell : (r.cell column.text sources).run.run memory = (.ok cell, middle))
    (hrest : (table.rowCells r sources (index + 1) (table.hold index buffer column cell).2
      columns).run.run middle = (.ok (shown, last), after)) :
    (table.rowCells r sources index buffer (column :: columns)).run.run memory =
      (.ok ((table.hold index buffer column cell).1 :: shown, last), after) := by
  rw [rowCells, run_bind, hcell]
  show (table.rowCells r sources (index + 1) (table.hold index buffer column cell).2 columns >>=
    _).run.run middle = _
  rw [run_bind, hrest]
  rfl

/-- The cells of a row show their first pieces, and the rest of their text waits. -/
theorem run_rowCells {sources : List Source} {columns : List Column} {cells : List Cell}
    (hcells : Resolves r sources columns cells)
    (hwidths : ∀ column ∈ columns, 1 ≤ table.cellWidth column) {index : Nat} {buffer : WrapBuffer}
    (htidy : buffer.Tidy) (hnone : ∀ i, buffer.pending (index + i) = []) {memory : Memory}
    (hsound : memory.Sound) :
    ∃ (last : WrapBuffer) (after : Memory),
      (table.rowCells r sources index buffer columns).run.run memory =
        (.ok ((List.zipWith (table.piece 0) columns cells).map String.ofList, last), after) ∧
      after.Sound ∧ last.Tidy ∧
      (∀ i, last.pending (index + i) = (List.zipWith table.leftover columns cells).getD i []) ∧
      ∀ i < index, last.pending i = buffer.pending i := by
  induction hcells generalizing index buffer memory with
  | nil => exact ⟨buffer, memory, rfl, hsound, htidy, hnone, fun _ _ => rfl⟩
  | @cons column cell columns cells hcell hcells ih =>
      rcases List.forall_mem_cons.mp hwidths with ⟨hwidth, hwidths⟩
      rcases (r.transparent_cell column.text sources).run_eq hcell hsound with
        ⟨middle, hrun, hmiddle⟩
      have hfirst : buffer.pending index = [] := hnone 0
      rcases hold_eq hwidth cell hfirst with ⟨hshown, hpending⟩
      have hlater : ∀ i, (table.hold index buffer column cell).2.pending (index + 1 + i) = [] := by
        intro i
        rw [hpending, Function.update_of_ne (by omega), Nat.add_assoc]
        exact hnone (1 + i)
      rcases ih hwidths (tidy_hold htidy index column cell) hlater hmiddle with
        ⟨last, after, hrest, hafter, hlast, hwaiting, hbefore⟩
      refine ⟨last, after, ?_, hafter, hlast, ?_, ?_⟩
      · rw [run_rowCells_cons hrun hrest, hshown]
        rfl
      · intro i
        cases i with
        | zero =>
            rw [Nat.add_zero, hbefore index (Nat.lt_succ_self index), hpending,
              Function.update_self]
            rfl
        | succ i =>
            rw [← Nat.add_assoc, Nat.add_right_comm, hwaiting i]
            rfl
      · intro i hi
        rw [hbefore i (by omega), hpending, Function.update_of_ne (by omega)]

/-- A cell needs so many further lines that what waits fits into them. -/
theorem further_le_iff {column : Column} (hwidth : 1 ≤ table.cellWidth column) (cell : Cell)
    (m : Nat) : table.further column cell ≤ m ↔
      (table.leftover column cell).length ≤ m * table.cellWidth column := by
  unfold further leftover
  by_cases hwrap : column.wrap = true
  · rw [if_pos hwrap, if_pos hwrap, Nat.sub_le_iff_le_add, ceilDiv_le_iff_le_mul hwidth,
      List.length_drop, Nat.mul_comm, Nat.add_one_mul]
    omega
  · rw [if_neg hwrap, if_neg hwrap]
    exact iff_of_true (Nat.zero_le m) (Nat.zero_le _)

/-- A row needs so many further lines that all that waits fits into them. -/
theorem height_le_iff {columns : List Column}
    (hwidths : ∀ column ∈ columns, 1 ≤ table.cellWidth column) (cells : List Cell) (m : Nat) :
    (List.zipWith table.further columns cells).foldr max 0 ≤ m ↔
      ∀ i, ((List.zipWith table.leftover columns cells).getD i []).length ≤
        m * (columns.map table.cellWidth).getD i 0 := by
  induction columns generalizing cells with
  | nil => simp
  | cons column columns ih =>
      rcases List.forall_mem_cons.mp hwidths with ⟨hwidth, hwidths⟩
      cases cells with
      | nil => simp
      | cons cell cells =>
          rw [List.zipWith_cons_cons, List.foldr_cons, Nat.max_le, further_le_iff hwidth,
            ih hwidths]
          constructor
          · rintro ⟨hfirst, hrest⟩ i
            cases i with
            | zero => exact hfirst
            | succ i => exact hrest i
          · exact fun hall => ⟨hall 0, fun i => hall (i + 1)⟩

/-- The further rows of the buffer are the further lines of the block. -/
theorem pieces_eq {columns : List Column} {cells : List Cell} {waiting : Nat → List Char}
    (hlength : columns.length = cells.length)
    (hwaiting : ∀ i, waiting i = (List.zipWith table.leftover columns cells).getD i []) (k : Nat) :
    WrapBuffer.pieces (columns.map table.cellWidth) waiting k =
      (List.zipWith (table.piece (k + 1)) columns cells).map String.ofList := by
  apply List.ext_getElem
  · simp [WrapBuffer.pieces, hlength]
  · intro i hi hi'
    have hcolumn : i < columns.length := by simpa [WrapBuffer.pieces] using hi
    have hcell : i < cells.length := hlength ▸ hcolumn
    simp only [WrapBuffer.pieces, List.getElem_mapIdx, List.getElem_map, List.getElem_zipWith,
      hwaiting]
    rw [List.getD_eq_getElem _ _ (by simpa using ⟨hcolumn, hcell⟩), List.getElem_zipWith]
    unfold leftover piece
    simp only
    split
    · rw [List.drop_drop, Nat.add_one_mul, Nat.add_comm]
    · simp [WrapBuffer.fill]

/-- The lines of rows are their blocks, one after the other. -/
theorem run_rowLinesFrom (hwidths : ∀ column ∈ table.columns, 1 ≤ table.cellWidth column)
    {rows : List Value} {cells : List (List Cell)}
    (hcells : List.Forall₂ (fun row => Resolves r [Source.ofRow row] table.columns) rows cells)
    {memory : Memory} (hsound : memory.Sound) :
    ∃ after : Memory, (table.rowLinesFrom r [] rows).run.run memory =
      (.ok (cells.flatMap table.block), after) := by
  induction hcells generalizing memory with
  | nil => exact ⟨memory, rfl⟩
  | @cons row first rows cells hrow hrows ih =>
      have hempty : ∀ i, WrapBuffer.pending [] (0 + i) = [] := fun _ => rfl
      rcases run_rowCells hrow hwidths WrapBuffer.tidy_nil hempty hsound with
        ⟨buffer, middle, hrun, hmiddle, htidy, hwaiting, -⟩
      simp only [Nat.zero_add] at hwaiting
      have hdrains : buffer.Drains table.cellWidths
          ((List.zipWith table.further table.columns first).foldr max 0) := by
        intro m
        rw [height_le_iff hwidths]
        simp only [hwaiting, cellWidths]
      have hfurther : ((List.range ((List.zipWith table.further table.columns first).foldr
          max 0)).map (WrapBuffer.pieces table.cellWidths buffer.pending)).map table.joinCells =
          (table.block first).tail := by
        rw [block_eq, List.tail_cons, List.map_map]
        exact List.map_congr_left fun k _ =>
          congrArg table.joinCells (pieces_eq hrow.length_eq hwaiting k)
      rcases ih hmiddle with ⟨after, hrest⟩
      refine ⟨after, ?_⟩
      rw [rowLinesFrom, run_bind, hrun]
      simp only [WrapBuffer.flush_eq htidy hdrains, hfurther]
      rw [run_bind, hrest, List.flatMap_cons, block_eq]
      rfl

/-! ## Cutting lines at the columns -/

/-- What separates the cells of a line. -/
def edge (table : Table) : List Char :=
  if table.border then ['|'] else []

/-- The place in a line at which a column begins. -/
def columnStart (table : Table) (i : Nat) : Nat :=
  ((table.cellWidths.take i).map (table.edge.length + ·)).sum + table.edge.length

/-- The characters of a line that belong to a column. -/
def slice (table : Table) (i : Nat) (line : String) : List Char :=
  (line.toList.drop (table.columnStart i)).take (table.cellWidths.getD i 0)

theorem toList_joinCells (table : Table) (parts : List (List Char)) :
    (table.joinCells (parts.map String.ofList)).toList =
      (parts.map (table.edge ++ ·)).flatten ++ table.edge := by
  unfold joinCells edge
  split
  · simp [String.toList_join, List.flatMap_def, Function.comp_def]
  · simp [String.toList_join, List.flatMap_def, Function.comp_def]

/-- Cutting a line at its columns gives its cells back. -/
theorem slice_joinCells {parts : List (List Char)}
    (hwidths : parts.map List.length = table.cellWidths) {i : Nat} (hi : i < parts.length) :
    table.slice i (table.joinCells (parts.map String.ofList)) = parts[i] := by
  have hsplit : parts = parts.take i ++ parts[i] :: parts.drop (i + 1) := by
    rw [← List.drop_eq_getElem_cons hi, List.take_append_drop]
  have hline : (table.joinCells (parts.map String.ofList)).toList =
      (((parts.take i).map (table.edge ++ ·)).flatten ++ table.edge) ++
        (parts[i] ++ (((parts.drop (i + 1)).map (table.edge ++ ·)).flatten ++ table.edge)) := by
    rw [toList_joinCells]
    conv_lhs => rw [hsplit]
    simp only [List.map_append, List.map_cons, List.flatten_append, List.flatten_cons,
      List.append_assoc]
  have hstart : (((parts.take i).map (table.edge ++ ·)).flatten ++ table.edge).length =
      table.columnStart i := by
    simp [columnStart, ← hwidths, List.length_flatten, Function.comp_def]
  have hwidth : parts[i].length = table.cellWidths.getD i 0 := by
    simp [← hwidths, List.getElem?_eq_getElem hi]
  rw [slice, hline, List.drop_left' hstart, List.take_left' hwidth]

/-- How a block of lines shows the cells of a row. -/
structure IsBlock (table : Table) (cells : List Cell) (lines : List String) : Prop where
  /-- One line, and as many further ones as the longest text of a wrapped column needs. -/
  height : lines.length = 1 + (List.zipWith (fun column cell =>
    if column.wrap then cell.text.toList.length ⌈/⌉ table.cellWidth column - 1 else 0)
    table.columns cells).foldr max 0
  /-- A line consists of its columns, each of its full width. -/
  cut : ∀ line ∈ lines,
    let slices := (List.range table.columns.length).map fun i => table.slice i line
    line = table.joinCells (slices.map String.ofList) ∧
      slices.map List.length = table.columns.map table.cellWidth
  /-- The lines of a wrapped column together show the text of the cell, followed by spaces. -/
  wrapped : ∀ (i : Nat) (column : Column) (cell : Cell), table.columns[i]? = some column →
    cells[i]? = some cell → column.wrap = true →
    ∃ n, lines.flatMap (table.slice i) = cell.text.toList ++ List.replicate n ' '
  /-- The first line of any other column shows the cell padded or cut to the width, and all
  further ones are blank. -/
  plain : ∀ (i : Nat) (column : Column) (cell : Cell), table.columns[i]? = some column →
    cells[i]? = some cell → column.wrap = false →
    let alignment := (cell.alignment.or column.alignment).getD
      (if cell.numeric then .right else .left)
    lines.map (table.slice i) =
      (Text.pad cell.text (table.cellWidth column) alignment).toList ::
        List.replicate (lines.length - 1) (List.replicate (table.cellWidth column) ' ')

variable {cells : List Cell}

theorem map_length_pieces (hlength : table.columns.length = cells.length) (k : Nat) :
    (table.pieces cells k).map List.length = table.cellWidths := by
  apply List.ext_getElem
  · simp [pieces, cellWidths, hlength]
  · intro i hi hi'
    simp [pieces, cellWidths, length_piece]

/-- Cutting a line of a block gives its pieces back. -/
theorem map_slice_line (hlength : table.columns.length = cells.length) (k : Nat) :
    ((List.range table.columns.length).map fun i =>
      table.slice i (table.joinCells ((table.pieces cells k).map String.ofList))) =
      table.pieces cells k := by
  apply List.ext_getElem
  · simp [pieces, hlength]
  · intro i hi hi'
    rw [List.getElem_map, List.getElem_range]
    exact slice_joinCells (map_length_pieces hlength k) hi'

/-- Cutting a block at a column gives the pieces of the cell of that column. -/
theorem map_slice_block (hlength : table.columns.length = cells.length) {i : Nat}
    {column : Column} {cell : Cell} (hcolumn : table.columns[i]? = some column)
    (hcell : cells[i]? = some cell) :
    (table.block cells).map (table.slice i) =
      (List.range (table.height cells)).map fun k => table.piece k column cell := by
  rcases List.getElem?_eq_some_iff.mp hcolumn with ⟨hi, rfl⟩
  rcases List.getElem?_eq_some_iff.mp hcell with ⟨hi', rfl⟩
  rw [block, List.map_map]
  refine List.map_congr_left fun k _ => ?_
  have hlt : i < (table.pieces cells k).length := by simpa [pieces] using ⟨hi, hi'⟩
  rw [Function.comp_apply, slice_joinCells (map_length_pieces hlength k) hlt]
  simp [pieces]

/-- The lines of a block hold all the text of a wrapped cell. -/
theorem length_le_height (hwidths : ∀ column ∈ table.columns, 1 ≤ table.cellWidth column) {i : Nat}
    {column : Column} {cell : Cell} (hcolumn : table.columns[i]? = some column)
    (hcell : cells[i]? = some cell) (hwrap : column.wrap = true) :
    cell.text.toList.length ≤ table.height cells * table.cellWidth column := by
  have hfits := (height_le_iff hwidths cells _).mp (Nat.le_refl _) i
  simp only [List.getD_eq_getElem?_getD, List.getElem?_zipWith, List.getElem?_map, hcolumn, hcell,
    Option.map_some, Option.getD_some, leftover, hwrap, if_true, List.length_drop] at hfits
  rw [height, Nat.add_mul, Nat.one_mul]
  omega

/-- Cutting the lines of a block at the columns gives the cells of its row back. -/
theorem isBlock_block (hwidths : ∀ column ∈ table.columns, 1 ≤ table.cellWidth column)
    (hlength : table.columns.length = cells.length) : table.IsBlock cells (table.block cells) where
  height := by
    rw [block, List.length_map, List.length_range]
    rfl
  cut := by
    intro line hline
    rcases List.mem_map.mp hline with ⟨k, -, rfl⟩
    simp only [map_slice_line hlength]
    exact ⟨trivial, map_length_pieces hlength k⟩
  wrapped := by
    intro i column cell hcolumn hcell hwrap
    have hfits := length_le_height hwidths hcolumn hcell hwrap
    refine ⟨table.height cells * table.cellWidth column - cell.text.toList.length, ?_⟩
    rw [List.flatMap_def, map_slice_block hlength hcolumn hcell, ← List.flatMap_def]
    simp only [piece, hwrap, if_true]
    rw [WrapBuffer.flatMap_fill, List.take_of_length_le hfits]
  plain := by
    intro i column cell hcolumn hcell hwrap alignment
    have hwidth := hwidths column (List.mem_of_getElem? hcolumn)
    rw [map_slice_block hlength hcolumn hcell, block, List.length_map, List.length_range, height,
      Nat.add_sub_cancel_left, Nat.add_comm, List.range_succ_eq_map, List.map_cons, List.map_map]
    congr 1
    · simp only [piece, hwrap, Text.pad, if_neg (Nat.ne_of_gt hwidth), String.toList_ofList]
      rfl
    · refine List.eq_replicate_iff.mpr ⟨by simp, fun slice hslice => ?_⟩
      rcases List.mem_map.mp hslice with ⟨k, -, rfl⟩
      simp [piece, hwrap, Text.blanks]

/-- The lines of the rows of a table are blocks, one a row and in their order.  The block of a row
depends on the cells of this row alone, and shows all their text. -/
theorem rowLines_eq_blocks (table : Table)
    (hwidths : ∀ column ∈ table.columns, 1 ≤ table.cellWidth column) {r : Resolver}
    {rows : List Value} {cells : List (List Cell)}
    (hcells : List.Forall₂ (fun row => Resolves r [Source.ofRow row] table.columns) rows cells)
    {memory : Memory} (hsound : memory.Sound) :
    ∃ after : Memory,
      (table.rowLines r rows).run.run memory = (.ok (cells.flatMap table.block), after) ∧
      ∀ rowCells ∈ cells, table.IsBlock rowCells (table.block rowCells) := by
  have hlengths : ∀ rowCells ∈ cells, table.columns.length = rowCells.length := by
    induction hcells with
    | nil => simp
    | cons hrow _ ih => exact List.forall_mem_cons.mpr ⟨hrow.length_eq, ih⟩
  rcases run_rowLinesFrom hwidths hcells hsound with ⟨after, hrun⟩
  exact ⟨after, hrun, fun rowCells hmem => isBlock_block hwidths (hlengths rowCells hmem)⟩

/-- A bordered table with a wrapped column of three characters and another one of two. -/
def wrappedTable : Table :=
  { source := "items"
    columns := [{ text := "a", width := 4, wrap := true }, { text := "b", width := 3 }]
    border := true }

/-- A row that needs a further line, and one that does not. -/
theorem rowLines_wrappedTable :
    ((wrappedTable.rowLines .scriptless
      [.map [("a", .text "abcde"), ("b", .int 7)],
        .map [("a", .text "xy"), ("b", .int 10)]]).run.run []).1 =
      .ok ["|abc| 7|", "|de |  |", "|xy |10|"] := by
  have hwidths : ∀ column ∈ wrappedTable.columns, 1 ≤ wrappedTable.cellWidth column := by decide
  have hfirst : Resolves .scriptless [Source.ofRow (.map [("a", .text "abcde"), ("b", .int 7)])]
      wrappedTable.columns
      [{ text := "abcde", numeric := false, alignment := none },
        { text := "7", numeric := true, alignment := none }] :=
    .cons rfl (.cons rfl .nil)
  have hsecond : Resolves .scriptless [Source.ofRow (.map [("a", .text "xy"), ("b", .int 10)])]
      wrappedTable.columns
      [{ text := "xy", numeric := false, alignment := none },
        { text := "10", numeric := true, alignment := none }] :=
    .cons rfl (.cons rfl .nil)
  rcases rowLines_eq_blocks wrappedTable hwidths (.cons hfirst (.cons hsecond .nil))
    Memory.sound_nil with ⟨after, hrun, -⟩
  rw [hrun]
  rfl

end Table

end Platen
