import Mathlib.Algebra.Ring.Int.Defs
import Platen.Proofs.Bindings
import Platen.Proofs.Projection

/-!
# Totals over rows

The rows of a table or list are the items of a list, and each row resolves its members against its
own item.  A total names the list and a member of its items in one path and reduces what it reads
there.  This module proves that the two see the same values: a total has a value for every row
exactly if every row has the member, and it counts and adds up what the rows show.

Main results:

- Theorem `Source.find?_dotted`: a member of a member is found under one path.
- Theorem `Aggregate.overflowed_total_iff` and theorem `Aggregate.value_total`: when a sum of
  integers overflows, and that it is exact otherwise.
- Theorem `Aggregate.count_list` and theorem `Aggregate.sum_list`: what a list of values is reduced
  to.
- Theorem `Source.total_of_rows`: a total over rows that are maps.
-/

namespace Platen

namespace Aggregate

/-! ## Sums in 64 bits -/

namespace Total

variable {start : Total} {i : Int}

/-- An addition that stays within 64 bits is exact. -/
theorem add_of_signed (hfits : Bits.signed 64 (start.value + i) = true) :
    start.add i = { start with value := start.value + i } := by
  rw [add, Bits.wrap_of_signed (by decide) hfits, hfits, Bool.not_true, Bool.or_false]

/-- An addition that leaves 64 bits overflows. -/
theorem overflowed_add (hleaves : ¬Bits.signed 64 (start.value + i) = true) :
    (start.add i).overflowed = true := by
  rw [add, Bool.eq_false_iff.mpr hleaves, Bool.not_false, Bool.or_true]

/-- A sum that has overflowed stays so. -/
theorem overflowed_foldl (hover : start.overflowed = true) (ints : List Int) :
    (ints.foldl add start).overflowed = true := by
  induction ints generalizing start with
  | nil => exact hover
  | cons i ints ih =>
      have hnext : (start.add i).overflowed = true := by rw [add, hover, Bool.true_or]
      exact ih hnext

/-- A sum that has not overflowed is exact. -/
theorem value_foldl {ints : List Int} (hexact : (ints.foldl add start).overflowed = false) :
    (ints.foldl add start).value = start.value + ints.sum := by
  induction ints generalizing start with
  | nil => simp
  | cons i ints ih =>
      rw [List.foldl_cons] at hexact ⊢
      have hfits : Bits.signed 64 (start.value + i) = true := by
        by_contra hleaves
        rw [overflowed_foldl (overflowed_add hleaves)] at hexact
        contradiction
      rw [add_of_signed hfits] at hexact ⊢
      rw [ih hexact, List.sum_cons, Int.add_assoc]

/-- A sum overflows exactly if something that the integers come to on the way leaves 64 bits.  The
induction is on the integers, from any start within 64 bits. -/
theorem overflowed_foldl_iff (ints : List Int) (hstart : Bits.signed 64 start.value = true) :
    (ints.foldl add start).overflowed = false ↔ start.overflowed = false ∧
      ∀ k, Bits.signed 64 (start.value + (ints.take k).sum) = true := by
  induction ints generalizing start with
  | nil => simp [hstart]
  | cons i ints ih =>
      have hsums : (∀ k, Bits.signed 64 (start.value + ((i :: ints).take k).sum) = true) ↔
          ∀ k, Bits.signed 64 (start.value + i + (ints.take k).sum) = true := by
        constructor
        · intro hall k
          have hk := hall (k + 1)
          rwa [List.take_succ_cons, List.sum_cons, ← Int.add_assoc] at hk
        · intro hall k
          cases k with
          | zero => simpa using hstart
          | succ k =>
              rw [List.take_succ_cons, List.sum_cons, ← Int.add_assoc]
              exact hall k
      rw [List.foldl_cons, hsums]
      by_cases hfits : Bits.signed 64 (start.value + i) = true
      · rw [add_of_signed hfits]
        exact ih hfits
      · have hnot : ¬∀ k, Bits.signed 64 (start.value + i + (ints.take k).sum) = true := by
          intro hall
          exact hfits (by simpa using hall 0)
        simp [overflowed_foldl (overflowed_add hfits), hnot]

end Total

/-- The sum of integers does not overflow exactly if all that they come to one after the other fits
into 64 bits. -/
theorem overflowed_total_iff (ints : List Int) :
    (total ints).overflowed = false ↔ ∀ k, Bits.signed 64 (ints.take k).sum = true := by
  have hstart : Bits.signed 64 ({} : Total).value = true := by decide
  have hiff := Total.overflowed_foldl_iff ints hstart
  rw [total, hiff]
  simp

/-- A sum that does not overflow is exact. -/
theorem value_total {ints : List Int} (hexact : (total ints).overflowed = false) :
    (total ints).value = ints.sum := by
  rw [total, Total.value_foldl hexact, Int.zero_add]

/-! ## Reducing values -/

variable {values : List Value}

/-- No value is of another kind than the first one exactly if all are of one kind. -/
theorem oddKind?_eq_none_iff :
    oddKind? values = none ↔ ∃ kind, ∀ value ∈ values, value.kind = kind := by
  cases values with
  | nil => exact iff_of_true rfl ⟨.null, List.forall_mem_nil _⟩
  | cons first rest =>
      rw [oddKind?, Option.map_eq_none_iff, List.find?_eq_none]
      simp only [ne_eq, decide_not, Bool.not_eq_true', decide_eq_false_iff_not, Decidable.not_not]
      constructor
      · intro hrest
        exact ⟨first.kind, List.forall_mem_cons.mpr ⟨rfl, hrest⟩⟩
      · rintro ⟨kind, hkind⟩ value hvalue
        rcases List.forall_mem_cons.mp hkind with ⟨hfirst, hrest⟩
        rw [hfirst, hrest value hvalue]

/-- Values of several kinds cannot be reduced. -/
theorem apply_mixed (aggregate : Aggregate)
    (hmixed : ¬∃ kind, ∀ value ∈ values, value.kind = kind) :
    ∃ e, aggregate.apply (.list values) = .error e ∧ e.kind = .aggregateMismatch := by
  rw [← oddKind?_eq_none_iff] at hmixed
  rcases Option.ne_none_iff_exists'.mp hmixed with ⟨⟨first, odd⟩, hodd⟩
  exact ⟨.mixedCollection first odd, by simp [apply, hodd], rfl⟩

/-- Values of one kind are counted, whatever they are. -/
theorem count_list (hkind : ∃ kind, ∀ value ∈ values, value.kind = kind) :
    count.apply (.list values) = .ok (.int values.length) := by
  simp [apply, oddKind?_eq_none_iff.mpr hkind]

/-- Integers among values are read as what they are. -/
theorem ints?_map_int (ints : List Int) : ints? (ints.map Value.int) = some ints := by
  induction ints with
  | nil => rfl
  | cons i ints ih => rw [List.map_cons, ints?, ih, Option.map_some]

/-- Integers are added up in 64 bits. -/
theorem sum_list (ints : List Int) :
    sum.apply (.list (ints.map Value.int)) = .ok (.int (total ints).value) := by
  have hkind : oddKind? (ints.map Value.int) = none :=
    oddKind?_eq_none_iff.mpr ⟨.number, List.forall_mem_map.mpr fun i _ => rfl⟩
  simp [apply, hkind, ints?_map_int]

/-- Neither kind of sum takes a value that is not a number. -/
theorem sums_eq_none (hvalue : ∃ value ∈ values, value.isNumeric = false) :
    ints? values = none ∧ floats? values = none := by
  induction values with
  | nil => simp at hvalue
  | cons value rest ih =>
      rw [List.exists_mem_cons_iff] at hvalue
      cases value with
      | int i => simpa [ints?, floats?] using ih (by simpa [Value.isNumeric] using hvalue)
      | float x => simpa [ints?, floats?] using (ih (by simpa [Value.isNumeric] using hvalue)).2
      | _ => exact ⟨rfl, rfl⟩

/-- A value that is not a number cannot be added up. -/
theorem sum_not_numeric (hvalue : ∃ value ∈ values, value.isNumeric = false) :
    ∃ e, sum.apply (.list values) = .error e ∧ e.kind = .aggregateMismatch := by
  by_cases hkind : ∃ kind, ∀ value ∈ values, value.kind = kind
  · rcases sums_eq_none hvalue with ⟨hints, hfloats⟩
    exact ⟨.sumNotNumeric, by simp [apply, oddKind?_eq_none_iff.mpr hkind, hints, hfloats], rfl⟩
  · exact apply_mixed .sum hkind

end Aggregate

/-! ## Members of members -/

/-- Segments are read one after the other, wherever they are parted. -/
theorem Value.descend_append (before after : List (List Char)) (v : Value) :
    v.descend (before ++ after) = (v.descend before).bind (Value.descend after) := by
  induction before generalizing v with
  | nil => rfl
  | cons segment before ih =>
      rw [List.cons_append, Value.descend, Value.descend, Option.bind_assoc]
      exact congrArg _ (funext ih)

namespace Source

/-- A member of a member is found under one path. -/
theorem find?_dotted (source : Source) (items path : String) :
    source.find? (items ++ "." ++ path) =
      (source.find? items).bind (Value.lookup path.toList) := by
  have hpath : (items ++ "." ++ path).toList = items.toList ++ '.' :: path.toList := by
    simp [String.toList_append]
  cases source with
  | keyed entries =>
      obtain ⟨first, rest, hitems⟩ :=
        List.exists_cons_of_ne_nil (Text.segments_ne_nil '.' items.toList)
      have hdotted : Text.segments '.' (items ++ "." ++ path).toList =
          first :: (rest ++ Text.segments '.' path.toList) := by
        rw [hpath, Text.segments_append_sep, hitems, List.cons_append]
      rw [find?_keyed hdotted, find?_keyed hitems, Option.bind_assoc]
      exact congrArg _ (funext fun v => v.descend_append rest _)
  | root v =>
      rw [find?, find?, hpath, Value.lookup, Text.segments_append_sep, Value.descend_append]
      rfl
  | blank => rfl

/-- A value in a map that is in a map is found under the names of both. -/
theorem find?_nested {outer inner : String}
    (houter : '.' ∉ outer.toList ∧ outer.toList.head? ≠ some '@')
    (hinner : '.' ∉ inner.toList ∧ inner.toList.head? ≠ some '@') (v : Value) :
    (root (.map [(outer, .map [(inner, v)])])).find? (outer ++ "." ++ inner) = some v := by
  have hfield : ∀ (name : String) (w : Value), (Value.map [(name, w)]).field name = some w := by
    intro name w
    simp [Value.field]
  rw [find?_dotted, find?, Value.lookup_of_name houter.1 houter.2, hfield, Option.bind_some,
    Value.lookup_of_name hinner.1 hinner.2, hfield]

/-- A single source answers for itself. -/
theorem resolve?_singleton (source : Source) (path : String) :
    resolve? [source] path = source.get? path := by
  cases hhas : source.has path <;> simp [resolve?, firstHaving?, hhas]

/-- A row that is a map answers what the map holds, unless the path begins with an operation. -/
theorem get?_ofRow_map {path : String}
    (hnames : ∀ segment ∈ Text.segments '.' path.toList, segment.head? ≠ some '@')
    (entries : Entries Value) :
    (ofRow (.map entries)).get? path = (Value.map entries).lookup path.toList := by
  obtain ⟨first, rest, hpath⟩ :=
    List.exists_cons_of_ne_nil (Text.segments_ne_nil '.' path.toList)
  have hname : Value.operation? first = none :=
    Value.operation?_eq_none_iff.mpr (hnames first (hpath ▸ List.mem_cons_self))
  exact find?_keyed_eq_lookup hpath hname entries

/-! ## Rows -/

/-- A path that leads into the rows reads each row as the row itself does. -/
theorem resolve?_rows {source : Source} {items path : String} {rows : List Value}
    (hitems : source.get? items = some (.list rows))
    (hrows : ∀ row ∈ rows, ∃ entries, row = .map entries)
    (hnames : ∀ segment ∈ Text.segments '.' path.toList, segment.head? ≠ some '@') :
    resolve? [source] (items ++ "." ++ path) =
      (rows.mapM fun row => (ofRow row).get? path).map Value.list := by
  have hrow : ∀ row ∈ rows, (ofRow row).get? path = row.lookup path.toList := by
    intro row hmem
    rcases hrows row hmem with ⟨entries, rfl⟩
    exact get?_ofRow_map hnames entries
  rw [mapM_congr_mem hrow, ← Value.lookup_list_eq hnames, resolve?_singleton]
  cases source with
  | blank => cases hitems
  | keyed entries =>
      show (keyed entries).find? _ = _
      rw [find?_dotted, show (keyed entries).find? items = _ from hitems]
      rfl
  | root v =>
      show (root v).find? _ = _
      rw [find?_dotted, show (root v).find? items = _ from hitems]
      rfl

/-- A total over the rows that a source has under a path, if these are maps, and over a member of
the rows under a path without operations.  The total has values exactly if every row has the member,
and then it has the values that the rows show, in their order.  They are counted as many as there
are rows if they are of one kind, and cannot be counted otherwise.  Integers are added in 64 bits,
which overflows exactly if something that they come to one after the other does not fit; if all fits
they are added up exactly, to zero if there are no rows.  A value that is not a number cannot be
added up. -/
theorem total_of_rows {source : Source} {items path : String} {rows : List Value}
    (hitems : source.get? items = some (.list rows))
    (hrows : ∀ row ∈ rows, ∃ entries, row = .map entries)
    (hnames : ∀ segment ∈ Text.segments '.' path.toList, segment.head? ≠ some '@') :
    ((resolve? [source] (items ++ "." ++ path)).isSome = true ↔
      ∀ row ∈ rows, ((ofRow row).get? path).isSome = true) ∧
    ∀ v, resolve? [source] (items ++ "." ++ path) = some v → ∃ values, v = .list values ∧
      List.Forall₂ (fun row value => (ofRow row).get? path = some value) rows values ∧
      ((∃ kind, ∀ value ∈ values, value.kind = kind) →
        Aggregate.count.apply v = .ok (.int rows.length)) ∧
      ((¬∃ kind, ∀ value ∈ values, value.kind = kind) →
        ∃ e, Aggregate.count.apply v = .error e ∧ e.kind = .aggregateMismatch) ∧
      (∀ ints : List Int, values = ints.map Value.int →
        ((Aggregate.total ints).overflowed = false ↔
          ∀ k, Bits.signed 64 (ints.take k).sum = true) ∧
        ((∀ k, Bits.signed 64 (ints.take k).sum = true) →
          Aggregate.sum.apply v = .ok (.int ints.sum))) ∧
      ((∃ value ∈ values, value.isNumeric = false) →
        ∃ e, Aggregate.sum.apply v = .error e ∧ e.kind = .aggregateMismatch) := by
  rw [resolve?_rows hitems hrows hnames]
  refine ⟨?_, ?_⟩
  · rw [Option.isSome_map, ← Option.ne_none_iff_isSome, Ne, mapM_eq_none_iff]
    simp only [not_exists, not_and, ← Option.ne_none_iff_isSome, ne_eq]
  · intro v hv
    rcases Option.map_eq_some_iff.mp hv with ⟨values, hvalues, rfl⟩
    have hshown := mapM_eq_some_iff.mp hvalues
    refine ⟨values, rfl, hshown, ?_, Aggregate.apply_mixed .count, ?_, Aggregate.sum_not_numeric⟩
    · intro hkind
      rw [Aggregate.count_list hkind, hshown.length_eq]
    · rintro ints rfl
      have hoverflow := Aggregate.overflowed_total_iff ints
      refine ⟨hoverflow, fun hfits => ?_⟩
      rw [Aggregate.sum_list, Aggregate.value_total (hoverflow.mpr hfits)]

/-- Two rows with an amount each. -/
def ledgerRows : List Value :=
  [.map [("amount", .map [("net", .int 3)])], .map [("amount", .map [("net", .int (-5))])]]

/-- Both rows have the net amount, and the totals over it are those of the rows. -/
theorem total_of_ledgerRows :
    (∀ row ∈ ledgerRows, ((ofRow row).get? "amount.net").isSome = true) ∧
    ∃ v, resolve? [root (.map [("ledger", .map [("rows", .list ledgerRows)])])]
        ("ledger.rows" ++ "." ++ "amount.net") = some v ∧
      Aggregate.count.apply v = .ok (.int 2) ∧ Aggregate.sum.apply v = .ok (.int (-2)) := by
  have hitems : (root (.map [("ledger", .map [("rows", .list ledgerRows)])])).get? "ledger.rows" =
      some (.list ledgerRows) := by
    show (root _).find? ("ledger" ++ "." ++ "rows") = _
    exact find?_nested (by decide) (by decide) _
  have hrows : ∀ row ∈ ledgerRows, ∃ entries, row = .map entries := by
    simp [ledgerRows]
  have hnames : ∀ segment ∈ Text.segments '.' "amount.net".toList, segment.head? ≠ some '@' := by
    decide
  have hnet : ∀ i : Int, (ofRow (.map [("amount", .map [("net", .int i)])])).get? "amount.net" =
      some (.int i) := by
    intro i
    rw [get?_ofRow_map hnames]
    show (root _).find? ("amount" ++ "." ++ "net") = _
    exact find?_nested (by decide) (by decide) _
  have hsome : ∀ row ∈ ledgerRows, ((ofRow row).get? "amount.net").isSome = true := by
    refine List.forall_mem_cons.mpr ⟨?_, List.forall_mem_cons.mpr ⟨?_, List.forall_mem_nil _⟩⟩
    · rw [hnet, Option.isSome_some]
    · rw [hnet, Option.isSome_some]
  rcases total_of_rows hitems hrows hnames with ⟨hresolves, htotal⟩
  obtain ⟨v, hv⟩ := Option.isSome_iff_exists.mp (hresolves.mpr hsome)
  rcases htotal v hv with ⟨values, rfl, hshown, hcount, -, hsum, -⟩
  have hvalues : values = [3, -5].map Value.int := by
    rcases hshown with _ | ⟨hfirst, _ | ⟨hsecond, hrest⟩⟩
    rw [hnet] at hfirst hsecond
    cases hfirst
    cases hsecond
    cases hrest
    rfl
  have hfits : ∀ k, Bits.signed 64 ([3, -5].take k).sum = true := by
    intro k
    rcases k with _ | _ | k
    · decide
    · decide
    · rw [List.take_of_length_le (Nat.le_add_left 2 k)]
      decide
  refine ⟨hsome, _, hv, hcount ⟨.number, ?_⟩, (hsum _ hvalues).2 hfits⟩
  rw [hvalues]
  exact List.forall_mem_map.mpr fun i _ => rfl

end Source

end Platen
