import Mathlib.Data.List.Basic

/-!
# Lists cut at a limit

A page holds a limited number of lines, or any number.  This module cuts lists at such a limit: what
stands within it, what stands beyond it, and the chunks that a list falls into when every place has
the same limit.

Main results:

- Theorem `within_append_beyond`: cutting a list at a limit loses nothing.
- Theorem `insert_at_limit`: an element put into a list that is cut at a limit gives the longer list
  cut at the limit, and hands on the one element that is pushed beyond it.
- Theorems `flatten_chunks`, `chunk_bounds` and `length_of_mem_dropLast_chunks`: the chunks of a
  list are the list, none is empty or exceeds the limit, and all but the last are as long as the
  limit.
- Theorems `length_chunks` and `chunks_eq_map_range`: their number, and the elements of each.
-/

namespace Platen

variable {α : Type}

/-! ## Within and beyond a limit -/

/-- Whether a number stays within a limit; without a limit every number does. -/
def Admits (limit : Option Nat) (n : Nat) : Prop :=
  ∀ m, limit = some m → n ≤ m

/-- The elements of a list that stand within a limit. -/
def within (limit : Option Nat) (xs : List α) : List α :=
  match limit with
  | none => xs
  | some n => xs.take n

/-- The elements of a list that stand beyond a limit. -/
def beyond (limit : Option Nat) (xs : List α) : List α :=
  match limit with
  | none => []
  | some n => xs.drop n

@[simp]
theorem beyond_nil (limit : Option Nat) : beyond limit ([] : List α) = [] := by
  cases limit <;> simp [beyond]

/-- Cutting a list at a limit loses nothing. -/
@[simp]
theorem within_append_beyond (limit : Option Nat) (xs : List α) :
    within limit xs ++ beyond limit xs = xs := by
  cases limit <;> simp [within, beyond]

theorem within_map {β : Type} (f : α → β) (limit : Option Nat) (xs : List α) :
    within limit (xs.map f) = (within limit xs).map f := by
  cases limit <;> simp [within, List.map_take]

theorem beyond_map {β : Type} (f : α → β) (limit : Option Nat) (xs : List α) :
    beyond limit (xs.map f) = (beyond limit xs).map f := by
  cases limit <;> simp [beyond, List.map_drop]

/-- What stands within a limit is admitted by it. -/
theorem admits_length_within (limit : Option Nat) (xs : List α) :
    Admits limit (within limit xs).length := by
  rintro m rfl
  rw [within, List.length_take]
  exact Nat.min_le_left _ _

theorem Admits.mono {limit : Option Nat} {m n : Nat} (hle : m ≤ n) (hadmits : Admits limit n) :
    Admits limit m :=
  fun k hk => Nat.le_trans hle (hadmits k hk)

/-- A list that is admitted stands within the limit as a whole. -/
theorem within_of_admits {limit : Option Nat} {xs : List α} (hadmits : Admits limit xs.length) :
    within limit xs = xs := by
  cases limit with
  | none => rfl
  | some n => exact List.take_of_length_le (hadmits n rfl)

/-- Nothing stands beyond a limit exactly when the whole list is admitted. -/
theorem beyond_eq_nil_iff {limit : Option Nat} {xs : List α} :
    beyond limit xs = [] ↔ Admits limit xs.length := by
  cases limit with
  | none => simp [beyond, Admits]
  | some n => simp [beyond, Admits]

/-- Of a list that is one element longer than admitted, at most that element stands beyond. -/
theorem length_beyond_le_one {limit : Option Nat} {xs : List α} {n : Nat}
    (hadmits : Admits limit n) (hlength : xs.length = n + 1) : (beyond limit xs).length ≤ 1 := by
  cases limit with
  | none => simp [beyond]
  | some m =>
      have hle : n ≤ m := hadmits m rfl
      simp only [beyond, List.length_drop]
      omega

/-- If a single element stands beyond a limit, it is the last one. -/
theorem dropLast_of_length_beyond {limit : Option Nat} {xs : List α}
    (hbeyond : (beyond limit xs).length = 1) :
    xs.dropLast = within limit xs ∧ xs.getLast? = (beyond limit xs).head? := by
  rcases List.length_eq_one_iff.mp hbeyond with ⟨x, hx⟩
  have hsplit : xs = within limit xs ++ [x] := by
    rw [← hx, within_append_beyond]
  constructor
  · conv_lhs => rw [hsplit]
    simp
  · conv_lhs => rw [hsplit]
    simp [hx]

/-- The part before an admitted cut is not touched by the limit. -/
theorem within_append_of_admits {limit : Option Nat} {xs : List α} (ys : List α)
    (hadmits : Admits limit xs.length) :
    within limit (xs ++ ys) = xs ++ within (limit.map (· - xs.length)) ys := by
  cases limit with
  | none => rfl
  | some n =>
      have hle : xs.length ≤ n := hadmits n rfl
      simp [within, List.take_append, List.take_of_length_le hle]

theorem beyond_append_of_admits {limit : Option Nat} {xs : List α} (ys : List α)
    (hadmits : Admits limit xs.length) :
    beyond limit (xs ++ ys) = beyond (limit.map (· - xs.length)) ys := by
  cases limit with
  | none => rfl
  | some n =>
      have hle : xs.length ≤ n := hadmits n rfl
      simp [beyond, List.drop_append, List.drop_eq_nil_of_le hle]

/-- What is added to a list that reaches its limit stands beyond it as a whole. -/
theorem cut_append {limit : Option Nat} {xs ys : List α}
    (hreach : ys = [] ∨ ∃ n, limit = some n ∧ n ≤ xs.length) :
    within limit (xs ++ ys) = within limit xs ∧
      beyond limit (xs ++ ys) = beyond limit xs ++ ys := by
  rcases hreach with rfl | ⟨n, rfl, hle⟩
  · simp
  · exact ⟨List.take_append_of_le_length hle, List.drop_append_of_le_length hle⟩

/-- If something stands beyond a limit, the limit is reached. -/
theorem reach_of_beyond {limit : Option Nat} (xs : List α) {k : Nat}
    (hk : (within limit xs).length ≤ k) :
    beyond limit xs = [] ∨ ∃ n, limit = some n ∧ n ≤ k := by
  cases limit with
  | none => exact .inl rfl
  | some n =>
      by_cases hle : xs.length ≤ n
      · exact .inl (List.drop_eq_nil_of_le hle)
      · refine .inr ⟨n, rfl, ?_⟩
        simp only [within, List.length_take] at hk
        omega

/-- Elements put in front of a list that is cut at a limit, together with what stood beyond. -/
theorem cut_carry (limit : Option Nat) (carry xs : List α) :
    within limit (carry ++ within limit xs) = within limit (carry ++ xs) ∧
      beyond limit (carry ++ within limit xs) ++ beyond limit xs = beyond limit (carry ++ xs) := by
  have hreach := @reach_of_beyond _ limit xs (carry ++ within limit xs).length (by
    rw [List.length_append]
    omega)
  rcases cut_append hreach with ⟨hwithin, hbeyond⟩
  rw [List.append_assoc, within_append_beyond] at hwithin hbeyond
  exact ⟨hwithin.symm, hbeyond.symm⟩

/-- Inserting behind the first part of a list. -/
theorem insertIdx_length_append (xs ys : List α) (x : α) :
    (xs ++ ys).insertIdx xs.length x = xs ++ x :: ys := by
  induction xs with
  | nil => rfl
  | cons y xs ih => simp [ih]

/-- An element put behind an admitted part of a list that is cut at a limit: the limit now cuts the
longer list, and the element that is pushed beyond it comes before those that were there. -/
theorem insert_at_limit {limit : Option Nat} {xs : List α} (x : α) (ys : List α)
    (hadmits : Admits limit xs.length) :
    let grown := (within limit (xs ++ ys)).insertIdx xs.length x
    within limit grown = within limit (xs ++ x :: ys) ∧
      beyond limit grown ++ beyond limit (xs ++ ys) = beyond limit (xs ++ x :: ys) := by
  intro grown
  have hgrown : grown = xs ++ x :: within (limit.map (· - xs.length)) ys := by
    show (within limit (xs ++ ys)).insertIdx xs.length x = _
    rw [within_append_of_admits ys hadmits, insertIdx_length_append]
  rw [hgrown, within_append_of_admits _ hadmits, within_append_of_admits _ hadmits,
    beyond_append_of_admits _ hadmits, beyond_append_of_admits _ hadmits,
    beyond_append_of_admits _ hadmits]
  cases limit.map (· - xs.length) with
  | none => exact ⟨rfl, rfl⟩
  | some m =>
      cases m with
      | zero => simp [within, beyond]
      | succ m =>
          constructor
          · simp [within, List.take_take]
          · simp only [beyond, within, List.drop_succ_cons, List.drop_take]
            rw [Nat.add_sub_cancel_left, List.take_one, List.head?_drop,
              ← List.drop_eq_getElem?_toList_append]

/-! ## Chunks -/

/-- The chunks that a list falls into when each of them takes what a limit admits, and one element
at least. -/
def chunks (limit : Option Nat) : List α → List (List α)
  | [] => []
  | x :: xs =>
      (x :: within (limit.map (· - 1)) xs) :: chunks limit (beyond (limit.map (· - 1)) xs)
termination_by xs => xs.length
decreasing_by
  cases limit with
  | none => simp [beyond]
  | some n =>
      simp only [Option.map_some, beyond, List.length_drop, List.length_cons]
      omega

@[simp]
theorem chunks_nil (limit : Option Nat) : chunks limit ([] : List α) = [] := by
  rw [chunks]

/-- The first chunk is what stands within the limit. -/
theorem chunks_eq {limit : Option Nat} {xs : List α} (hlimit : limit ≠ some 0) (hxs : xs ≠ []) :
    chunks limit xs = within limit xs :: chunks limit (beyond limit xs) := by
  cases xs with
  | nil => exact absurd rfl hxs
  | cons x xs =>
      rw [chunks]
      cases limit with
      | none => rfl
      | some n =>
          cases n with
          | zero => exact absurd rfl hlimit
          | succ n => simp [within, beyond]

/-- A single element is a chunk of its own. -/
theorem chunks_singleton {limit : Option Nat} (hlimit : limit ≠ some 0) (x : α) :
    chunks limit [x] = [[x]] := by
  have hadmits : Admits limit [x].length := by
    intro n hn
    have hpos : n ≠ 0 := fun h => hlimit (by rw [hn, h])
    exact Nat.pos_of_ne_zero hpos
  rw [chunks_eq hlimit (List.cons_ne_nil x []), within_of_admits hadmits,
    beyond_eq_nil_iff.mpr hadmits, chunks_nil]

/-- What stands beyond a limit that admits something is shorter than the list. -/
theorem length_beyond_lt {limit : Option Nat} {xs : List α} (hlimit : limit ≠ some 0)
    (hxs : xs ≠ []) : (beyond limit xs).length < xs.length := by
  have hpos : 0 < xs.length := List.length_pos_iff.mpr hxs
  cases limit with
  | none => simpa [beyond] using hpos
  | some n =>
      have hn : n ≠ 0 := fun h => hlimit (by rw [h])
      simp only [beyond, List.length_drop]
      omega

/-- Induction chunk by chunk. -/
theorem chunk_induction {limit : Option Nat} (hlimit : limit ≠ some 0) {motive : List α → Prop}
    (nil : motive [])
    (chunk : ∀ xs, xs ≠ [] → motive (beyond limit xs) → motive xs) (xs : List α) : motive xs := by
  by_cases hxs : xs = []
  · rw [hxs]
    exact nil
  · exact chunk xs hxs (chunk_induction hlimit nil chunk (beyond limit xs))
termination_by xs.length
decreasing_by exact length_beyond_lt hlimit hxs

theorem chunks_map {β : Type} (f : α → β) {limit : Option Nat} (hlimit : limit ≠ some 0)
    (xs : List α) : chunks limit (xs.map f) = (chunks limit xs).map (List.map f) := by
  induction xs using chunk_induction hlimit with
  | nil => simp
  | chunk xs hxs ih =>
      rw [chunks_eq hlimit hxs, chunks_eq hlimit (by simpa using hxs), within_map, beyond_map, ih,
        List.map_cons]

/-- The chunks of a list are the list. -/
theorem flatten_chunks {limit : Option Nat} (hlimit : limit ≠ some 0) (xs : List α) :
    (chunks limit xs).flatten = xs := by
  induction xs using chunk_induction hlimit with
  | nil => simp
  | chunk xs hxs ih => rw [chunks_eq hlimit hxs, List.flatten_cons, ih, within_append_beyond]

/-- No chunk is empty, and none exceeds the limit. -/
theorem chunk_bounds {limit : Option Nat} (hlimit : limit ≠ some 0) (xs : List α) :
    ∀ chunk ∈ chunks limit xs, chunk ≠ [] ∧ Admits limit chunk.length := by
  induction xs using chunk_induction hlimit with
  | nil => simp
  | chunk xs hxs ih =>
      intro chunk hchunk
      rw [chunks_eq hlimit hxs, List.mem_cons] at hchunk
      rcases hchunk with rfl | hlater
      · refine ⟨?_, admits_length_within limit xs⟩
        intro hnil
        have hall : beyond limit xs = xs := by
          simpa [hnil] using within_append_beyond limit xs
        have hlt := length_beyond_lt hlimit hxs
        rw [hall] at hlt
        exact absurd hlt (Nat.lt_irrefl _)
      · exact ih chunk hlater

/-- Every chunk but the last one is as long as the limit. -/
theorem length_of_mem_dropLast_chunks {n : Nat} (hn : 0 < n) (xs : List α) :
    ∀ chunk ∈ (chunks (some n) xs).dropLast, chunk.length = n := by
  have hlimit : some n ≠ some 0 := by simpa using Nat.ne_of_gt hn
  induction xs using chunk_induction hlimit with
  | nil => simp
  | chunk xs hxs ih =>
      intro chunk hchunk
      rw [chunks_eq hlimit hxs] at hchunk
      by_cases hlast : beyond (some n) xs = []
      · simp [hlast] at hchunk
      · rw [chunks_eq hlimit hlast, List.dropLast_cons_cons, List.mem_cons,
          ← chunks_eq hlimit hlast] at hchunk
        rcases hchunk with rfl | hlater
        · have hlt : n < xs.length := by
            simpa [beyond] using hlast
          simp only [within, List.length_take]
          omega
        · exact ih chunk hlater

/-- There are as many chunks as it takes to hold all elements. -/
theorem length_chunks {n : Nat} (hn : 0 < n) (xs : List α) :
    (chunks (some n) xs).length = (xs.length + n - 1) / n := by
  have hlimit : some n ≠ some 0 := by simpa using Nat.ne_of_gt hn
  induction xs using chunk_induction hlimit with
  | nil =>
      rw [chunks_nil, List.length_nil, List.length_nil, Nat.zero_add, Nat.div_eq_of_lt]
      omega
  | chunk xs hxs ih =>
      have hpos : 0 < xs.length := List.length_pos_iff.mpr hxs
      rw [chunks_eq hlimit hxs, List.length_cons, ih]
      simp only [beyond, List.length_drop]
      by_cases hle : xs.length ≤ n
      · have hrest : xs.length - n + n - 1 < n := by omega
        have hall : (xs.length + n - 1) / n = 1 := Nat.div_eq_of_lt_le (by omega) (by omega)
        rw [Nat.div_eq_of_lt hrest, hall]
      · have hsplit : xs.length + n - 1 = xs.length - n + n - 1 + n := by omega
        rw [hsplit, Nat.add_div_right _ hn]

/-- A chunk in the middle of others: the chunks before it are full, so whatever follows them falls
into chunks by itself. -/
theorem chunks_split {limit : Option Nat} (hlimit : limit ≠ some 0) {xs chunk : List α}
    {before later : List (List α)} (hchunks : chunks limit xs = before ++ chunk :: later) :
    ∃ rest, xs = before.flatten ++ rest ∧ chunks limit rest = chunk :: later ∧
      ∀ ys, chunks limit (before.flatten ++ ys) = before ++ chunks limit ys := by
  induction before generalizing xs with
  | nil => exact ⟨xs, rfl, hchunks, fun ys => rfl⟩
  | cons first before ih =>
      have hxs : xs ≠ [] := by
        rintro rfl
        simp at hchunks
      rw [chunks_eq hlimit hxs, List.cons_append, List.cons.injEq] at hchunks
      rcases hchunks with ⟨hfirst, hrest⟩
      rcases ih hrest with ⟨rest, hsplit, hchunk, happend⟩
      refine ⟨rest, ?_, hchunk, ?_⟩
      · rw [List.flatten_cons, List.append_assoc, ← hsplit, ← hfirst, within_append_beyond]
      · intro ys
        have hbeyond : beyond limit xs ≠ [] := by
          intro hnil
          simp [hnil] at hrest
        have hreach : beyond limit xs = [] ∨ ∃ n, limit = some n ∧ n ≤ first.length :=
          reach_of_beyond xs (Nat.le_of_eq (congrArg List.length hfirst))
        rcases hreach.resolve_left hbeyond with ⟨n, rfl, hle⟩
        have hlength : first.length = n := by
          rw [← hfirst] at hle ⊢
          exact Nat.le_antisymm (admits_length_within (some n) xs n rfl) hle
        have hne : first ++ (before.flatten ++ ys) ≠ [] := by
          intro hnil
          rw [(List.append_eq_nil_iff.mp hnil).1] at hlength
          exact hlimit (congrArg some hlength.symm)
        rw [List.flatten_cons, List.append_assoc, chunks_eq hlimit hne, within, beyond, ← hlength,
          List.take_left, List.drop_left, hlength, happend, List.cons_append]

/-- The chunk at an index is what stands there in steps of the limit. -/
theorem getElem?_chunks {n : Nat} (hn : 0 < n) {xs : List α} {i : Nat} (hi : i * n < xs.length) :
    (chunks (some n) xs)[i]? = some ((xs.drop (i * n)).take n) := by
  have hlimit : some n ≠ some 0 := by simpa using Nat.ne_of_gt hn
  induction i generalizing xs with
  | zero =>
      have hxs : xs ≠ [] := List.length_pos_iff.mp (by omega)
      rw [chunks_eq hlimit hxs, Nat.zero_mul]
      rfl
  | succ i ih =>
      rw [Nat.succ_mul] at hi
      have hxs : xs ≠ [] := List.length_pos_iff.mp (by omega)
      have hrest : i * n < (beyond (some n) xs).length := by
        simp only [beyond, List.length_drop]
        omega
      rw [chunks_eq hlimit hxs, List.getElem?_cons_succ, ih hrest, beyond, List.drop_drop,
        Nat.succ_mul, Nat.add_comm]

/-- The chunks one by one: each takes the next elements in steps of the limit. -/
theorem chunks_eq_map_range {n : Nat} (hn : 0 < n) (xs : List α) :
    chunks (some n) xs =
      (List.range ((xs.length + n - 1) / n)).map fun i => (xs.drop (i * n)).take n := by
  apply List.ext_getElem
  · rw [length_chunks hn, List.length_map, List.length_range]
  · intro i hi hi'
    have hcount : i < (xs.length + n - 1) / n := by
      rwa [length_chunks hn] at hi
    have hstart : i * n < xs.length := by
      have hle : (i + 1) * n ≤ xs.length + n - 1 := (Nat.le_div_iff_mul_le hn).mp hcount
      rw [Nat.succ_mul] at hle
      omega
    have hchunk := getElem?_chunks hn hstart
    rw [List.getElem?_eq_getElem hi, Option.some.injEq] at hchunk
    rw [hchunk, List.getElem_map, List.getElem_range]

/-- Steps of one length through lists that have this length, except for the last one. -/
theorem drop_flatten_of_length {n : Nat} {xss : List (List α)}
    (hlength : ∀ xs ∈ xss.dropLast, xs.length = n) {i : Nat} (hi : i < xss.length) :
    xss.flatten.drop (i * n) = (xss.drop i).flatten := by
  induction i generalizing xss with
  | zero => simp
  | succ i ih =>
      cases xss with
      | nil => simp at hi
      | cons xs xss =>
          have hne : xss ≠ [] := by
            rintro rfl
            simp at hi
          rw [List.dropLast_cons_of_ne_nil hne] at hlength
          rcases List.forall_mem_cons.mp hlength with ⟨hfirst, hrest⟩
          have hstep : (i + 1) * n = xs.length + i * n := by
            rw [hfirst, Nat.succ_mul, Nat.add_comm]
          rw [List.flatten_cons, List.drop_succ_cons, hstep, List.drop_length_add_append,
            ih hrest (by simpa using hi)]

end Platen
