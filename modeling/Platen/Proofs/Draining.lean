import Mathlib.Algebra.Order.Floor.Div
import Mathlib.Data.List.GetD
import Mathlib.GroupTheory.GroupAction.Ring
import Platen.Proofs.WaitingText

/-!
# Flushing whatever waits

A flush gives out rows as long as they take something.  The columns need not be those for which text
was added: text may wait for columns that have no width or that no row has, and such text is
dropped.  What a flush gives out is described here for every buffer that adding, consuming and
flushing lead to.

Main results:

- Theorem `WrapBuffer.flushLoop_iff`: the loop that hands out rows ends, and a flush is its outcome.
- Theorem `WrapBuffer.map_length_of_mem_flush`: the pieces of a further row have the widths of the
  columns.
- Theorem `WrapBuffer.remaining_row_of_done`: a row that finds nothing for its columns takes
  nothing.
- Theorem `WrapBuffer.Proper.flush_eq`: the rows of a flush are the pieces of the columns with a
  width.
- Theorem `WrapBuffer.flush_drains`: what a flush gives out after any history.
-/

namespace Platen.WrapBuffer

variable {buffer : WrapBuffer} {widths : List Nat}

/-! ## The loop -/

/-- A run of the loop behind a flush, with the rows that it hands out and the buffer at its end.
Each constructor is one way to leave the loop or to go on. -/
inductive FlushLoop (widths : List Nat) : WrapBuffer → List (List String) → WrapBuffer → Prop
  /-- Nothing waits. -/
  | empty : FlushLoop widths [] [] []
  /-- A row takes nothing, so what waits is dropped. -/
  | stuck {buffer : WrapBuffer} : buffer ≠ [] →
      (buffer.row 0 widths).2.remaining = buffer.remaining → FlushLoop widths buffer [] []
  /-- A row takes something and is handed out. -/
  | next {buffer last : WrapBuffer} {rows : List (List String)} : buffer ≠ [] →
      (buffer.row 0 widths).2.remaining ≠ buffer.remaining →
      FlushLoop widths (buffer.row 0 widths).2 rows last →
      FlushLoop widths buffer ((buffer.row 0 widths).1 :: rows) last

/-- The loop ends from every buffer, since each row that is handed out leaves fewer characters. -/
theorem flushLoop_flush (buffer : WrapBuffer) (widths : List Nat) :
    FlushLoop widths buffer (buffer.flush widths).1 (buffer.flush widths).2 := by
  induction hn : buffer.remaining using Nat.strong_induction_on generalizing buffer with
  | _ n ih =>
      have hle := (buffer.remaining_row 0 widths).1
      rw [flush_eq_loop]
      split
      · rename_i hempty
        rw [List.isEmpty_iff.mp hempty]
        exact .empty
      · rename_i hwaiting
        rw [List.isEmpty_iff] at hwaiting
        split
        · rename_i hstuck
          exact .stuck hwaiting hstuck
        · rename_i hless
          exact .next hwaiting hless (ih _ (by omega) _ rfl)

/-- A flush is the outcome of its loop, and there is no other. -/
theorem flushLoop_iff {rows : List (List String)} {last : WrapBuffer} :
    FlushLoop widths buffer rows last ↔ buffer.flush widths = (rows, last) := by
  constructor
  · intro hloop
    induction hloop with
    | empty => rfl
    | stuck hwaiting hstuck =>
        rw [flush_eq_loop, if_neg (mt List.isEmpty_iff.mp hwaiting), if_pos hstuck]
    | next hwaiting hless _ ih =>
        rw [flush_eq_loop, if_neg (mt List.isEmpty_iff.mp hwaiting), if_neg hless, ih]
  · intro hflush
    have hloop := flushLoop_flush buffer widths
    rwa [hflush] at hloop

/-- The pieces of a further row have the widths of the columns. -/
theorem map_length_row (buffer : WrapBuffer) (column : Nat) (widths : List Nat) :
    (buffer.row column widths).1.map String.length = widths := by
  rw [(buffer.row_eq column widths).1]
  apply List.ext_getElem
  · simp
  · intro i hi hi'
    simp only [List.getElem_map, List.getElem_mapIdx, String.length_ofList]
    exact length_fill_take _ _

/-- So have the pieces of all rows that the loop hands out. -/
theorem FlushLoop.map_length {rows : List (List String)} {last : WrapBuffer}
    (hloop : FlushLoop widths buffer rows last) :
    ∀ row ∈ rows, row.map String.length = widths := by
  induction hloop with
  | empty => exact List.forall_mem_nil _
  | stuck => exact List.forall_mem_nil _
  | next _ _ _ ih => exact List.forall_mem_cons.mpr ⟨map_length_row _ 0 widths, ih⟩

/-- The loop leaves nothing behind. -/
theorem FlushLoop.last_eq_nil {rows : List (List String)} {last : WrapBuffer}
    (hloop : FlushLoop widths buffer rows last) : last = [] := by
  induction hloop with
  | empty => rfl
  | stuck => rfl
  | next _ _ _ ih => exact ih

/-- The pieces of all rows of a flush have the widths of the columns, whatever waits. -/
theorem map_length_of_mem_flush {pieces : List String}
    (hmem : pieces ∈ (buffer.flush widths).1) : pieces.map String.length = widths :=
  (flushLoop_flush buffer widths).map_length pieces hmem

/-! ## Buffers that hold each column once -/

/-- Whether a buffer holds each column at most once. -/
def Distinct (buffer : WrapBuffer) : Prop :=
  (buffer.map Prod.fst).Nodup

/-- Clearing a column without text changes nothing. -/
theorem clear_of_notMem {column : Nat} (hnone : column ∉ buffer.map Prod.fst) :
    buffer.clear column = buffer := by
  refine List.filter_eq_self.mpr fun entry hentry => decide_eq_true ?_
  rintro rfl
  exact hnone (List.mem_map_of_mem hentry)

/-- A column that was cleared has no text. -/
theorem notMem_clear (buffer : WrapBuffer) (column : Nat) :
    column ∉ (buffer.clear column).map Prod.fst := by
  simp [clear]

namespace Distinct

/-- Clearing a column keeps the columns distinct. -/
theorem clear (hdistinct : buffer.Distinct) (column : Nat) : (buffer.clear column).Distinct :=
  hdistinct.sublist (List.filter_sublist.map _)

/-- Putting a text into a column keeps the columns distinct. -/
theorem put (hdistinct : buffer.Distinct) (column : Nat) (cs : List Char) :
    (buffer.put column cs).Distinct :=
  List.nodup_cons.mpr ⟨buffer.notMem_clear column, hdistinct.clear column⟩

/-- Adding a text keeps the columns distinct. -/
theorem add (hdistinct : buffer.Distinct) (column : Nat) (text : String) (width : Nat) :
    (buffer.add column text width).2.Distinct := by
  unfold WrapBuffer.add
  simp only
  split
  · exact hdistinct.clear column
  · exact hdistinct.put column _

/-- Consuming a piece keeps the columns distinct. -/
theorem consume (hdistinct : buffer.Distinct) (column width : Nat) :
    (buffer.consume column width).2.Distinct := by
  unfold WrapBuffer.consume
  split
  · exact hdistinct
  · simp only
    split
    · exact hdistinct.clear column
    · exact hdistinct.put column _

/-- Taking a row keeps the columns distinct. -/
theorem row (hdistinct : buffer.Distinct) (first : Nat) (widths : List Nat) :
    (buffer.row first widths).2.Distinct := by
  induction widths generalizing buffer first with
  | nil => exact hdistinct
  | cons width widths ih => exact ih (hdistinct.consume first width) (first + 1)

/-- Clearing a column takes exactly the text that waits for it. -/
theorem remaining_clear_add (hdistinct : buffer.Distinct) (column : Nat) :
    (buffer.clear column).remaining + (buffer.pending column).length = buffer.remaining := by
  induction buffer with
  | nil => rfl
  | cons entry rest ih =>
      rcases List.nodup_cons.mp hdistinct with ⟨hnew, hrest⟩
      rw [clear_cons, pending_cons, remaining_cons]
      split
      · rename_i heq
        rw [clear_of_notMem (heq ▸ hnew), Nat.add_comm]
      · rw [remaining_cons, Nat.add_assoc, ih hrest]

/-- A piece takes exactly its characters. -/
theorem remaining_consume_add (hdistinct : buffer.Distinct) (column width : Nat) :
    (buffer.consume column width).2.remaining + ((buffer.pending column).take width).length =
      buffer.remaining := by
  have hclear := hdistinct.remaining_clear_add column
  unfold WrapBuffer.consume
  cases hlookup : buffer.lookup column with
  | none =>
      have hnone : buffer.pending column = [] := by simp [pending, hlookup]
      simp [hnone]
  | some cs =>
      have hcs : buffer.pending column = cs := by simp [pending, hlookup]
      rw [hcs] at hclear ⊢
      simp only
      split
      · rename_i hempty
        rw [List.take_of_length_le (List.drop_eq_nil_iff.mp (List.isEmpty_iff.mp hempty))]
        exact hclear
      · rw [remaining_put, List.length_take, List.length_drop]
        omega

end Distinct

/-- A row takes nothing if nothing waits for its columns with a width. -/
theorem remaining_row_of_done (hdistinct : buffer.Distinct) {first : Nat}
    (hdone : ∀ column, 0 < rowWidth first widths column → buffer.pending column = []) :
    (buffer.row first widths).2.remaining = buffer.remaining := by
  induction widths generalizing buffer first with
  | nil => rfl
  | cons width widths ih =>
      have htaken : (buffer.pending first).take width = [] := by
        cases width with
        | zero => rfl
        | succ width =>
            rw [hdone first (by rw [rowWidth_cons, if_pos rfl]; omega), List.take_nil]
      have hpiece := hdistinct.remaining_consume_add first width
      rw [htaken, List.length_nil, Nat.add_zero] at hpiece
      rw [← hpiece]
      refine ih (hdistinct.consume first width) fun column hwidth => ?_
      have hne : column ≠ first := by
        rintro rfl
        rw [rowWidth, if_neg (by omega)] at hwidth
        omega
      rw [(buffer.consume_eq first width).2, Function.update_of_ne hne]
      exact hdone column (by rwa [rowWidth_cons, if_neg hne])

/-! ## Histories -/

/-- Whether a buffer holds each column at most once, and no text without characters. -/
structure Proper (buffer : WrapBuffer) : Prop where
  tidy : buffer.Tidy
  distinct : buffer.Distinct

/-- What can be done with a buffer. -/
inductive Operation where
  | add (column : Nat) (text : String) (width : Nat)
  | consume (column width : Nat)
  | flush (widths : List Nat)
  deriving DecidableEq, Repr

/-- The buffer after an operation. -/
def perform (buffer : WrapBuffer) : Operation → WrapBuffer
  | .add column text width => (buffer.add column text width).2
  | .consume column width => (buffer.consume column width).2
  | .flush widths => (buffer.flush widths).2

/-- The buffer after operations on a new one. -/
def history (operations : List Operation) : WrapBuffer :=
  operations.foldl perform []

namespace Proper

/-- An empty buffer is proper. -/
theorem nil : Proper [] where
  tidy := tidy_nil
  distinct := List.nodup_nil

/-- Clearing a column keeps a buffer proper. -/
theorem clear (hproper : buffer.Proper) (column : Nat) : (buffer.clear column).Proper where
  tidy := hproper.tidy.clear column
  distinct := hproper.distinct.clear column

/-- Taking a row keeps a buffer proper. -/
theorem row (hproper : buffer.Proper) (first : Nat) (widths : List Nat) :
    (buffer.row first widths).2.Proper where
  tidy := hproper.tidy.row first widths
  distinct := hproper.distinct.row first widths

/-- Every operation keeps a buffer proper. -/
theorem perform (hproper : buffer.Proper) (operation : Operation) :
    (buffer.perform operation).Proper := by
  cases operation with
  | add column text width =>
      exact ⟨hproper.tidy.add column text width, hproper.distinct.add column text width⟩
  | consume column width =>
      exact ⟨hproper.tidy.consume column width, hproper.distinct.consume column width⟩
  | flush widths =>
      rw [WrapBuffer.perform, (flushLoop_flush buffer widths).last_eq_nil]
      exact nil

end Proper

/-- Operations keep a buffer proper, whatever it holds when they begin. -/
theorem Proper.foldl (hproper : buffer.Proper) (operations : List Operation) :
    (operations.foldl WrapBuffer.perform buffer).Proper := by
  induction operations generalizing buffer with
  | nil => exact hproper
  | cons operation operations ih => exact ih (hproper.perform operation)

/-- Whatever was done to it before, a buffer is proper. -/
theorem proper_history (operations : List Operation) : (history operations).Proper :=
  Proper.nil.foldl operations

/-! ## What a flush gives out -/

/-- A flush gives out no row if nothing waits for the columns with a width. -/
theorem flush_of_done (hproper : buffer.Proper)
    (hdone : ∀ column, 0 < widths.getD column 0 → buffer.pending column = []) :
    buffer.flush widths = ([], []) := by
  have htaken : (buffer.row 0 widths).2.remaining = buffer.remaining :=
    remaining_row_of_done hproper.distinct fun column hwidth =>
      hdone column (by simpa only [rowWidth, Nat.zero_le, if_true, Nat.sub_zero] using hwidth)
  rw [flush_eq_loop, if_pos htaken]
  split
  · rename_i hempty
    rw [List.isEmpty_iff.mp hempty]
  · rfl

/-- The number of rows that the texts of the columns with a width fill, the longest of them in its
own width. -/
def rowsNeeded (buffer : WrapBuffer) (widths : List Nat) : Nat :=
  (widths.mapIdx fun i width =>
    if 1 ≤ width then (buffer.pending i).length ⌈/⌉ width else 0).foldr max 0

/-- A maximum is bounded if all the numbers are. -/
theorem foldr_max_le_iff {ns : List Nat} {m : Nat} : ns.foldr max 0 ≤ m ↔ ∀ n ∈ ns, n ≤ m := by
  induction ns with
  | nil => simp
  | cons n ns ih => rw [List.foldr_cons, Nat.max_le, ih, List.forall_mem_cons]

/-- The number of rows that a buffer is said to need is the number that it needs. -/
theorem needs_rowsNeeded (buffer : WrapBuffer) (widths : List Nat) :
    buffer.Needs widths (buffer.rowsNeeded widths) := by
  intro m
  rw [rowsNeeded, foldr_max_le_iff]
  constructor
  · intro hall column hwidth
    have hlt : column < widths.length := by
      by_contra hge
      rw [List.getD_eq_default _ _ (by omega)] at hwidth
      omega
    rw [List.getD_eq_getElem _ _ hlt] at hwidth ⊢
    have hle := hall _ (List.mem_mapIdx.mpr ⟨column, hlt, rfl⟩)
    rwa [if_pos (by omega), ceilDiv_le_iff_le_mul hwidth, Nat.mul_comm] at hle
  · rintro hall n hn
    rcases List.mem_mapIdx.mp hn with ⟨column, hlt, rfl⟩
    split
    · rename_i hwidth
      rw [ceilDiv_le_iff_le_mul (by omega), Nat.mul_comm]
      have hle := hall column (by rwa [List.getD_eq_getElem _ _ hlt])
      rwa [List.getD_eq_getElem _ _ hlt] at hle
    · exact Nat.zero_le m

/-- The rows of a flush are the consecutive pieces of what waits for its columns. -/
theorem Proper.flush_eq (hproper : buffer.Proper) (widths : List Nat) :
    buffer.flush widths =
      ((List.range (buffer.rowsNeeded widths)).map (pieces widths buffer.pending), []) :=
  flush_of_needs (P := Proper) (fun _ hbuffer => hbuffer.row 0 widths)
    (fun _ hbuffer => flush_of_done hbuffer) hproper (buffer.needs_rowsNeeded widths)

/-- The pieces of a column over all rows are its text, filled with spaces. -/
theorem flatMap_getD_pieces {waiting : Nat → List Char} {i width n : Nat}
    (hi : widths[i]? = some width) (hfits : (waiting i).length ≤ n * width) :
    ((List.range n).map (pieces widths waiting)).flatMap (fun row => (row.getD i "").toList) =
      waiting i ++ List.replicate (n * width - (waiting i).length) ' ' := by
  have hpiece : ∀ k, ((pieces widths waiting k).getD i "").toList =
      fill width (((waiting i).drop (k * width)).take width) := by
    intro k
    simp [pieces, List.getD_eq_getElem?_getD, List.getElem?_mapIdx, hi]
  rw [List.flatMap_map]
  simp only [hpiece]
  rw [flatMap_fill, List.take_of_length_le hfits]

/-- Text of columns without a width makes no difference to the pieces. -/
theorem pieces_congr {waiting other : Nat → List Char}
    (hagree : ∀ column, 0 < widths.getD column 0 → waiting column = other column) (k : Nat) :
    pieces widths waiting k = pieces widths other k := by
  apply List.ext_getElem
  · simp [pieces]
  · intro i hi hi'
    have hlt : i < widths.length := by simpa [pieces] using hi
    simp only [pieces, List.getElem_mapIdx]
    by_cases hwidth : 0 < widths[i]
    · rw [hagree i (by rwa [List.getD_eq_getElem _ _ hlt])]
    · simp [Nat.eq_zero_of_not_pos hwidth]

/-- Nor does it to their number. -/
theorem rowsNeeded_congr {other : WrapBuffer}
    (hagree : ∀ column, 0 < widths.getD column 0 → buffer.pending column = other.pending column) :
    buffer.rowsNeeded widths = other.rowsNeeded widths := by
  refine congrArg (List.foldr max 0) (List.ext_getElem (by simp) ?_)
  intro i hi hi'
  have hlt : i < widths.length := by simpa using hi
  simp only [List.getElem_mapIdx]
  split
  · rename_i hwidth
    rw [hagree i (by rwa [List.getD_eq_getElem _ _ hlt])]
  · rfl

/-- What a flush gives out after any history of the buffer.  The loop behind it ends, in one way
only, and leaves nothing behind.  There are as many rows as the texts of the columns with a width
need, the longest of them in its own width.  Every row has one piece of exact width for each column,
and the pieces of a column with a width make up its text, followed by spaces.  Text of any other
column is dropped: the rows are those that are given out when that column is cleared before. -/
theorem flush_drains (operations : List Operation) (widths : List Nat) :
    let buffer := history operations
    ∃ rows, buffer.flush widths = (rows, []) ∧
      (∀ rows' last, FlushLoop widths buffer rows' last ↔ rows' = rows ∧ last = []) ∧
      rows.length = (widths.mapIdx fun i width =>
        if 1 ≤ width then (buffer.pending i).length ⌈/⌉ width else 0).foldr max 0 ∧
      (∀ row ∈ rows, row.map String.length = widths) ∧
      (∀ i width, widths[i]? = some width → 1 ≤ width → ∃ n,
        rows.flatMap (fun row => (row.getD i "").toList) =
          buffer.pending i ++ List.replicate n ' ') ∧
      ∀ column, widths.getD column 0 = 0 → (buffer.clear column).flush widths = (rows, []) := by
  intro buffer
  have hproper : buffer.Proper := proper_history operations
  have hflush := hproper.flush_eq widths
  refine ⟨_, hflush, ?_, ?_, ?_, ?_, ?_⟩
  · intro rows last
    rw [flushLoop_iff, hflush, Prod.mk.injEq]
    exact ⟨fun h => ⟨h.1.symm, h.2.symm⟩, fun h => ⟨h.1.symm, h.2.symm⟩⟩
  · rw [List.length_map, List.length_range]
    rfl
  · exact (flushLoop_iff.mpr hflush).map_length
  · intro i width hi hwidth
    have hgetD : widths.getD i 0 = width := by simp [hi]
    have hfits := (buffer.needs_rowsNeeded widths _).mp (Nat.le_refl _) i (by omega)
    rw [hgetD] at hfits
    exact ⟨_, flatMap_getD_pieces hi hfits⟩
  · intro column hnarrow
    have hagree : ∀ other, 0 < widths.getD other 0 →
        (buffer.clear column).pending other = buffer.pending other := by
      intro other hwidth
      rw [pending_clear, Function.update_of_ne]
      rintro rfl
      omega
    rw [(hproper.clear column).flush_eq, rowsNeeded_congr hagree]
    exact congrArg (·, []) (List.map_congr_left fun k _ => pieces_congr hagree k)

/-- The text of column 5, for which there is no width, adds no row. -/
example : (history [.add 0 "abcdefgh" 3, .add 5 "wxyz" 1]).flush [2] =
    ([["de"], ["fg"], ["h "]], []) := by
  decide

end Platen.WrapBuffer
