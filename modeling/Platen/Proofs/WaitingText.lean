import Mathlib.Logic.Function.Basic
import Platen.WrapBuffer

/-!
# Text that waits in columns

A wrap buffer is described by the text that waits for each column.  Handing out a piece takes the
first characters of that text, and a further row takes one piece from every column, so the rows that
are flushed are the consecutive pieces of the texts that waited at first.

Main results:

- Theorems `WrapBuffer.add_eq` and `WrapBuffer.consume_eq`: the piece that is handed out, and what
  waits then.
- Theorem `WrapBuffer.row_eq`: a further row takes a piece from every column.
- Theorem `WrapBuffer.flush_eq`: a flush hands out all text that waits, in as few rows as possible,
  and leaves nothing behind.
-/

namespace Platen.WrapBuffer

variable {buffer : WrapBuffer}

/-! ## What waits -/

/-- Whether a buffer holds no text without characters. -/
def Tidy (buffer : WrapBuffer) : Prop :=
  ∀ entry ∈ buffer, entry.2 ≠ []

/-- An empty buffer is tidy. -/
theorem tidy_nil : Tidy [] := by
  simp [Tidy]

/-- Clearing a column keeps a buffer tidy. -/
theorem Tidy.clear (htidy : buffer.Tidy) (column : Nat) : (buffer.clear column).Tidy :=
  fun entry hentry => htidy entry (List.mem_filter.mp hentry).1

/-- Putting a text that is not empty into a column keeps a buffer tidy. -/
theorem Tidy.put (htidy : buffer.Tidy) (column : Nat) {cs : List Char} (hcs : cs ≠ []) :
    (buffer.put column cs).Tidy :=
  List.forall_mem_cons.mpr ⟨hcs, htidy.clear column⟩

/-- The first entry of a column is what is pending in it. -/
theorem pending_cons (entry : Nat × List Char) (buffer : WrapBuffer) (column : Nat) :
    pending (entry :: buffer) column =
      if column = entry.1 then entry.2 else buffer.pending column := by
  unfold pending
  rw [List.lookup_cons]
  by_cases heq : column = entry.1
  · simp [heq]
  · simp [heq, beq_eq_false_iff_ne.mpr heq]

/-- Clearing a column removes its entries and no others. -/
theorem clear_cons (entry : Nat × List Char) (buffer : WrapBuffer) (column : Nat) :
    clear (entry :: buffer) column =
      if column = entry.1 then buffer.clear column else entry :: buffer.clear column := by
  by_cases heq : column = entry.1
  · simp [clear, heq]
  · simp [clear, heq, Ne.symm heq]

/-- What remains is counted entry by entry. -/
theorem remaining_cons (entry : Nat × List Char) (buffer : WrapBuffer) :
    remaining (entry :: buffer) = entry.2.length + buffer.remaining := by
  simp [remaining]

/-- Nothing waits for a column that was cleared, and for the others what waited before. -/
theorem pending_clear (buffer : WrapBuffer) (column : Nat) :
    (buffer.clear column).pending = Function.update buffer.pending column [] := by
  funext other
  rw [Function.update_apply]
  induction buffer with
  | nil => simp [clear, pending]
  | cons entry rest ih =>
      rw [clear_cons, pending_cons]
      by_cases heq : column = entry.1
      · rw [if_pos heq, ih]
        split
        · rfl
        · rw [if_neg (heq ▸ ‹other ≠ column›)]
      · rw [if_neg heq, pending_cons, ih]
        split
        · rw [if_neg (by omega)]
        · rfl

/-- Putting a text into a column replaces what is pending there and nowhere else. -/
theorem pending_put (buffer : WrapBuffer) (column : Nat) (cs : List Char) :
    (buffer.put column cs).pending = Function.update buffer.pending column cs := by
  funext other
  rw [put, pending_cons, pending_clear, Function.update_apply, Function.update_apply]
  simp only
  split <;> rfl

/-- A tidy buffer for which nothing waits is empty. -/
theorem Tidy.eq_nil (htidy : buffer.Tidy) (hnone : ∀ column, buffer.pending column = []) :
    buffer = [] := by
  cases buffer with
  | nil => rfl
  | cons entry rest =>
      have hfirst := hnone entry.1
      rw [pending_cons, if_pos rfl] at hfirst
      exact absurd hfirst (htidy entry List.mem_cons_self)

/-- A column that is cleared no longer counts. -/
theorem remaining_clear_add_le (buffer : WrapBuffer) (column : Nat) :
    (buffer.clear column).remaining + (buffer.pending column).length ≤ buffer.remaining := by
  induction buffer with
  | nil => exact Nat.le_refl _
  | cons entry rest ih =>
      rw [clear_cons, pending_cons, remaining_cons]
      split
      · omega
      · rw [remaining_cons]
        omega

/-- Putting a text into a column adds its length to what remains in the others. -/
theorem remaining_put (buffer : WrapBuffer) (column : Nat) (cs : List Char) :
    (buffer.put column cs).remaining = cs.length + (buffer.clear column).remaining :=
  remaining_cons (column, cs) (buffer.clear column)

/-! ## One piece -/

/-- A text that is long enough is not filled up. -/
theorem fill_of_le {width : Nat} {cs : List Char} (hfull : width ≤ cs.length) :
    fill width cs = cs := by
  simp [fill, Text.blanks, Nat.sub_eq_zero_of_le hfull]

/-- A piece that is filled up has the width asked for. -/
theorem length_fill_take (width : Nat) (cs : List Char) :
    (fill width (cs.take width)).length = width := by
  simp only [fill, Text.blanks, List.length_append, List.length_replicate, List.length_take]
  omega

/-- The pieces of a text, put together, are the text followed by spaces. -/
theorem flatMap_fill (width : Nat) (cs : List Char) (n : Nat) :
    (List.range n).flatMap (fun k => fill width ((cs.drop (k * width)).take width)) =
      cs.take (n * width) ++ List.replicate (n * width - cs.length) ' ' := by
  induction n with
  | zero => simp
  | succ n ih =>
      rw [List.range_succ, List.flatMap_append, ih, List.flatMap_singleton, fill,
        Nat.add_one_mul, List.take_add, Text.blanks, List.length_take, List.length_drop]
      by_cases hlong : n * width ≤ cs.length
      · rw [Nat.sub_eq_zero_of_le hlong, List.replicate_zero, List.append_nil, List.append_assoc]
        congr 3
        omega
      · have hnil : cs.drop (n * width) = [] := List.drop_eq_nil_of_le (by omega)
        rw [hnil, List.take_nil, List.append_nil, List.nil_append, List.append_assoc,
          List.replicate_append_replicate]
        congr 2
        omega

/-- What does not fit into a cell waits. -/
theorem add_eq {width : Nat} (hwidth : 1 ≤ width) (buffer : WrapBuffer) (column : Nat)
    (text : String) :
    (buffer.add column text width).1 = String.ofList (fill width (text.toList.take width)) ∧
      (buffer.add column text width).2.pending =
        Function.update buffer.pending column (text.toList.drop width) := by
  unfold add
  by_cases hfits : text.toList.length ≤ width
  · rw [if_pos (by simp [hfits]), List.take_of_length_le hfits, List.drop_eq_nil_of_le hfits]
    exact ⟨rfl, pending_clear buffer column⟩
  · rw [if_neg (by simp; omega)]
    refine ⟨?_, pending_put buffer column _⟩
    show String.ofList (text.toList.take width) = _
    rw [fill_of_le (by rw [List.length_take]; omega)]

/-- Adding a text keeps a buffer tidy. -/
theorem Tidy.add (htidy : buffer.Tidy) (column : Nat) (text : String) (width : Nat) :
    (buffer.add column text width).2.Tidy := by
  unfold WrapBuffer.add
  simp only
  split
  · exact htidy.clear column
  · rename_i hlong
    refine htidy.put column fun hnil => hlong ?_
    simp [List.drop_eq_nil_iff.mp hnil]

/-- A piece is taken from the text that waits. -/
theorem consume_eq (buffer : WrapBuffer) (column width : Nat) :
    (buffer.consume column width).1 =
        String.ofList (fill width ((buffer.pending column).take width)) ∧
      (buffer.consume column width).2.pending =
        Function.update buffer.pending column ((buffer.pending column).drop width) := by
  unfold consume
  cases hlookup : buffer.lookup column with
  | none =>
      have hnone : buffer.pending column = [] := by simp [pending, hlookup]
      rw [hnone]
      refine ⟨by simp [fill], ?_⟩
      rw [List.drop_nil, ← hnone, Function.update_eq_self]
  | some cs =>
      have hcs : buffer.pending column = cs := by simp [pending, hlookup]
      rw [hcs]
      refine ⟨rfl, ?_⟩
      simp only
      split
      · rename_i hempty
        rw [List.isEmpty_iff.mp hempty]
        exact pending_clear buffer column
      · exact pending_put buffer column _

/-- Consuming a piece keeps a buffer tidy. -/
theorem Tidy.consume (htidy : buffer.Tidy) (column width : Nat) :
    (buffer.consume column width).2.Tidy := by
  unfold WrapBuffer.consume
  split
  · exact htidy
  · simp only
    split
    · exact htidy.clear column
    · rename_i hrest
      exact htidy.put column fun hnil => hrest (by simp [hnil])

/-- A piece reduces what remains by its characters, at least. -/
theorem remaining_consume_add_le (buffer : WrapBuffer) (column width : Nat) :
    (buffer.consume column width).2.remaining + ((buffer.pending column).take width).length ≤
      buffer.remaining := by
  have hclear := buffer.remaining_clear_add_le column
  unfold consume
  cases hlookup : buffer.lookup column with
  | none =>
      have hnone : buffer.pending column = [] := by simp [pending, hlookup]
      simp [hnone]
  | some cs =>
      have hcs : buffer.pending column = cs := by simp [pending, hlookup]
      rw [hcs] at hclear ⊢
      simp only
      split
      · rw [List.length_take]
        omega
      · rw [remaining_put, List.length_take, List.length_drop]
        omega

/-! ## Rows of pieces -/

/-- The number of characters that a row takes from a column. -/
def rowWidth (first : Nat) (widths : List Nat) (column : Nat) : Nat :=
  if first ≤ column then widths.getD (column - first) 0 else 0

/-- The first width is that of the first column. -/
theorem rowWidth_cons (first width : Nat) (widths : List Nat) (column : Nat) :
    rowWidth first (width :: widths) column =
      if column = first then width else rowWidth (first + 1) widths column := by
  unfold rowWidth
  by_cases heq : column = first
  · simp [heq]
  · by_cases hlt : first < column
    · rw [if_pos (by omega), if_neg heq, if_pos (by omega),
        show column - first = column - (first + 1) + 1 by omega, List.getD_cons_succ]
    · rw [if_neg (by omega), if_neg heq, if_neg (by omega)]

/-- A row takes a piece from each column, and what waits starts after it. -/
theorem row_eq (buffer : WrapBuffer) (first : Nat) (widths : List Nat) :
    (buffer.row first widths).1 = widths.mapIdx (fun i width =>
        String.ofList (fill width ((buffer.pending (first + i)).take width))) ∧
      ∀ column, (buffer.row first widths).2.pending column =
        (buffer.pending column).drop (rowWidth first widths column) := by
  induction widths generalizing buffer first with
  | nil =>
      refine ⟨rfl, fun column => ?_⟩
      simp [row, rowWidth]
  | cons width widths ih =>
      rcases buffer.consume_eq first width with ⟨hpiece, hafter⟩
      rcases ih (buffer.consume first width).2 (first + 1) with ⟨hpieces, hrest⟩
      simp only [row]
      constructor
      · have hlater : ∀ i, first + 1 + i ≠ first := fun i => by omega
        simp only [hpiece, hpieces, hafter, List.mapIdx_cons, Function.update_of_ne (hlater _)]
        simp only [Nat.add_zero, Nat.add_assoc, Nat.add_comm 1]
      · intro column
        rw [hrest, hafter, Function.update_apply, rowWidth_cons]
        split
        · rename_i heq
          rw [rowWidth, if_neg (by omega), List.drop_zero, heq]
        · rfl

/-- Taking a row keeps a buffer tidy. -/
theorem Tidy.row (htidy : buffer.Tidy) (first : Nat) (widths : List Nat) :
    (buffer.row first widths).2.Tidy := by
  induction widths generalizing buffer first with
  | nil => exact htidy
  | cons width widths ih => exact ih (htidy.consume first width) (first + 1)

/-- A row that finds something for one of its columns reduces what remains. -/
theorem remaining_row (buffer : WrapBuffer) (first : Nat) (widths : List Nat) :
    (buffer.row first widths).2.remaining ≤ buffer.remaining ∧
      ∀ column, buffer.pending column ≠ [] → 0 < rowWidth first widths column →
        (buffer.row first widths).2.remaining < buffer.remaining := by
  induction widths generalizing buffer first with
  | nil =>
      refine ⟨Nat.le_refl _, fun column _ hpos => ?_⟩
      simp [rowWidth] at hpos
  | cons width widths ih =>
      have hpiece := buffer.remaining_consume_add_le first width
      have hafter := (buffer.consume_eq first width).2
      rcases ih (buffer.consume first width).2 (first + 1) with ⟨hle, hlt⟩
      simp only [row]
      refine ⟨by omega, fun column hwaiting hpos => ?_⟩
      rw [rowWidth_cons] at hpos
      split at hpos
      · rename_i heq
        subst heq
        have htaken : 0 < ((buffer.pending column).take width).length := by
          rw [List.length_take]
          have := List.length_pos_iff.mpr hwaiting
          omega
        omega
      · rename_i hne
        have hlater := hlt column (by rwa [hafter, Function.update_of_ne hne]) hpos
        omega

/-! ## All rows -/

/-- The pieces of the further row `k` when nothing has been handed out yet. -/
def pieces (widths : List Nat) (waiting : Nat → List Char) (k : Nat) : List String :=
  widths.mapIdx fun i width =>
    String.ofList (fill width (((waiting i).drop (k * width)).take width))

/-- After one row the others are the next ones. -/
theorem pieces_succ (widths : List Nat) (waiting : Nat → List Char) (k : Nat) :
    pieces widths (fun column => (waiting column).drop (rowWidth 0 widths column)) k =
      pieces widths waiting (k + 1) := by
  apply List.ext_getElem
  · simp [pieces]
  · intro i hi hi'
    have hlt : i < widths.length := by simpa [pieces] using hi
    have hwidth : rowWidth 0 widths i = widths[i] := by
      simp [rowWidth, List.getElem?_eq_getElem hlt]
    simp only [pieces, List.getElem_mapIdx, hwidth, List.drop_drop]
    rw [Nat.add_one_mul, Nat.add_comm]

/-- More fuel than characters wait changes nothing. -/
theorem flushRows_of_lt (widths : List Nat) {fuel : Nat} (hfuel : buffer.remaining < fuel) :
    flushRows widths fuel buffer = buffer.flush widths := by
  -- any two amounts of fuel that are large enough agree
  suffices hagree : ∀ (fuel other : Nat) (buffer : WrapBuffer), buffer.remaining < fuel →
      buffer.remaining < other → flushRows widths fuel buffer = flushRows widths other buffer from
    hagree fuel (buffer.remaining + 1) buffer hfuel (Nat.lt_succ_self _)
  clear hfuel fuel
  intro fuel
  induction fuel with
  | zero => intro other buffer hfuel; omega
  | succ fuel ih =>
      intro other buffer hfuel hother
      cases other with
      | zero => omega
      | succ other =>
          have hle := (buffer.remaining_row 0 widths).1
          simp only [flushRows]
          split
          · rfl
          · split
            · rfl
            · rw [ih other _ (by omega) (by omega)]

/-- A flush gives out one row after the other until nothing waits or a row takes nothing. -/
theorem flush_eq_loop (buffer : WrapBuffer) (widths : List Nat) :
    buffer.flush widths =
      if buffer.isEmpty then ([], buffer)
      else if (buffer.row 0 widths).2.remaining = buffer.remaining then ([], [])
      else ((buffer.row 0 widths).1 :: ((buffer.row 0 widths).2.flush widths).1,
        ((buffer.row 0 widths).2.flush widths).2) := by
  have hle := (buffer.remaining_row 0 widths).1
  rw [flush, flushRows]
  split
  · rfl
  · simp only
    split
    · rfl
    · rw [flushRows_of_lt widths (by omega)]

/-- Whether `n` is the least number of rows that take all text of the columns with a width. -/
def Needs (buffer : WrapBuffer) (widths : List Nat) (n : Nat) : Prop :=
  ∀ m, n ≤ m ↔ ∀ column, 0 < widths.getD column 0 →
    (buffer.pending column).length ≤ m * widths.getD column 0

variable {widths : List Nat} {n : Nat}

/-- Nothing waits for a column with a width if no row is needed. -/
theorem Needs.pending_eq_nil (hneeds : buffer.Needs widths 0) {column : Nat}
    (hwidth : 0 < widths.getD column 0) : buffer.pending column = [] := by
  have hle := (hneeds 0).mp (Nat.le_refl 0) column hwidth
  rw [Nat.zero_mul] at hle
  exact List.eq_nil_of_length_eq_zero (Nat.le_zero.mp hle)

/-- Something waits for a column with a width if a row is needed. -/
theorem Needs.exists_waiting (hneeds : buffer.Needs widths (n + 1)) :
    ∃ column, buffer.pending column ≠ [] ∧ 0 < widths.getD column 0 := by
  by_contra hnone
  have hall : ∀ column, 0 < widths.getD column 0 →
      (buffer.pending column).length ≤ 0 * widths.getD column 0 := by
    intro column hwidth
    have hnil : buffer.pending column = [] :=
      not_not.mp fun hwaiting => hnone ⟨column, hwaiting, hwidth⟩
    simp [hnil]
  exact absurd ((hneeds 0).mpr hall) (Nat.not_succ_le_zero n)

/-- What waits after a row starts behind the piece that the row has taken. -/
theorem pending_row (buffer : WrapBuffer) (widths : List Nat) (column : Nat) :
    (buffer.row 0 widths).2.pending column =
      (buffer.pending column).drop (widths.getD column 0) := by
  rw [(buffer.row_eq 0 widths).2, rowWidth, if_pos (Nat.zero_le column), Nat.sub_zero]

/-- A row leaves one row less. -/
theorem Needs.row (hneeds : buffer.Needs widths (n + 1)) :
    (buffer.row 0 widths).2.Needs widths n := by
  intro m
  rw [← Nat.add_le_add_iff_right (n := 1), hneeds (m + 1)]
  refine forall_congr' fun column => imp_congr_right fun _ => ?_
  rw [pending_row, List.length_drop, Nat.add_one_mul]
  omega

/-- A row is given out as long as something waits for a column with a width. -/
theorem flush_of_waiting {column : Nat} (hwaiting : buffer.pending column ≠ [])
    (hwidth : 0 < widths.getD column 0) :
    buffer.flush widths =
      (pieces widths buffer.pending 0 :: ((buffer.row 0 widths).2.flush widths).1,
        ((buffer.row 0 widths).2.flush widths).2) := by
  have hne : buffer.isEmpty = false := by
    cases buffer with
    | nil => exact absurd rfl hwaiting
    | cons _ _ => rfl
  have hless := (buffer.remaining_row 0 widths).2 column hwaiting
    (by simpa only [rowWidth, Nat.zero_le, if_true, Nat.sub_zero] using hwidth)
  rw [flush_eq_loop, hne, if_neg Bool.false_ne_true, if_neg (Nat.ne_of_lt hless),
    (buffer.row_eq 0 widths).1]
  simp [pieces]

/-- A flush hands out the pieces of all columns with a width, in as few rows as possible, if it ends
at once where no such column is left.  `P` says which buffers the rows lead to. -/
theorem flush_of_needs {P : WrapBuffer → Prop}
    (hrow : ∀ buffer, P buffer → P (buffer.row 0 widths).2)
    (hend : ∀ buffer, P buffer → (∀ column, 0 < widths.getD column 0 → buffer.pending column = []) →
      buffer.flush widths = ([], []))
    (hbuffer : P buffer) (hneeds : buffer.Needs widths n) :
    buffer.flush widths = ((List.range n).map (pieces widths buffer.pending), []) := by
  induction n generalizing buffer with
  | zero => exact hend buffer hbuffer fun column => hneeds.pending_eq_nil
  | succ n ih =>
      rcases hneeds.exists_waiting with ⟨column, hwaiting, hwidth⟩
      have hpending : (buffer.row 0 widths).2.pending =
          fun column => (buffer.pending column).drop (rowWidth 0 widths column) :=
        funext (buffer.row_eq 0 widths).2
      rw [flush_of_waiting hwaiting hwidth, ih (hrow buffer hbuffer) hneeds.row, hpending,
        List.range_succ_eq_map, List.map_cons, List.map_map]
      congr 2
      exact List.map_congr_left fun k _ => pieces_succ widths buffer.pending k

/-- Whether `n` is the least number of rows that take all text. -/
def Drains (buffer : WrapBuffer) (widths : List Nat) (n : Nat) : Prop :=
  ∀ m, n ≤ m ↔ ∀ column, (buffer.pending column).length ≤ m * widths.getD column 0

/-- Text that rows can take waits for columns with a width only. -/
theorem Drains.pending_eq_nil (hdrains : buffer.Drains widths n) {column : Nat}
    (hwidth : ¬0 < widths.getD column 0) : buffer.pending column = [] := by
  have hle := (hdrains n).mp (Nat.le_refl n) column
  rw [Nat.eq_zero_of_not_pos hwidth, Nat.mul_zero] at hle
  exact List.eq_nil_of_length_eq_zero (Nat.le_zero.mp hle)

/-- A buffer that drains in a number of rows needs that number. -/
theorem Drains.needs (hdrains : buffer.Drains widths n) : buffer.Needs widths n := by
  intro m
  rw [hdrains m]
  refine forall_congr' fun column => ⟨fun hle _ => hle, fun hle => ?_⟩
  by_cases hwidth : 0 < widths.getD column 0
  · exact hle hwidth
  · simp [hdrains.pending_eq_nil hwidth]

/-- A flush hands out all text that waits, in as few rows as possible, and leaves nothing behind. -/
theorem flush_eq (htidy : buffer.Tidy) (hdrains : buffer.Drains widths n) :
    buffer.flush widths = ((List.range n).map (pieces widths buffer.pending), []) := by
  refine flush_of_needs
    (P := fun buffer => buffer.Tidy ∧
      ∀ column, ¬0 < widths.getD column 0 → buffer.pending column = [])
    ?_ ?_ ⟨htidy, fun column => hdrains.pending_eq_nil⟩ hdrains.needs
  · rintro buffer ⟨htidy, hnone⟩
    refine ⟨htidy.row 0 widths, fun column hwidth => ?_⟩
    rw [pending_row, hnone column hwidth, List.drop_nil]
  · rintro buffer ⟨htidy, hnone⟩ hall
    have hnil : buffer = [] := by
      refine htidy.eq_nil fun column => ?_
      by_cases hwidth : 0 < widths.getD column 0
      · exact hall column hwidth
      · exact hnone column hwidth
    rw [hnil]
    rfl

end Platen.WrapBuffer
