import Mathlib.Data.List.Forall2
import Platen.Proofs.MemberPaths

/-!
# Paths through lists

A path reads a list one segment after the other, and each segment reads every item of the list that
the segments before it have left.  This module proves that the items can also be taken one by one:
each is read with the whole path, and the list of what is found is what the path reads from the
list.  It needs that no segment invokes an operation, since a list answers operations itself.

Main results:

- Theorem `Value.member_list`: one segment reads a list item by item.
- Theorem `Value.descend_list`: so does a row of segments.
- Theorem `Value.lookup_list`: when a list has a member at a path, and which list that member is.
-/

namespace Platen

/-! ## Functions that may fail on some item -/

section Items

variable {α β γ : Type} {f : α → Option β} {xs : List α} {ys : List β}

/-- All items have a result exactly if the list of these results is given. -/
theorem mapM_eq_some_iff :
    xs.mapM f = some ys ↔ List.Forall₂ (fun x y => f x = some y) xs ys := by
  induction xs generalizing ys with
  | nil => cases ys <;> simp
  | cons x xs ih =>
      rw [List.mapM_cons]
      cases hx : f x with
      | none => cases ys <;> simp [hx]
      | some y =>
          cases hxs : xs.mapM f with
          | none => cases ys <;> simp [hx, ← ih, hxs]
          | some rest => cases ys <;> simp [hx, ← ih, hxs]

/-- There is no list of results exactly if one item has none. -/
theorem mapM_eq_none_iff : xs.mapM f = none ↔ ∃ x ∈ xs, f x = none := by
  induction xs with
  | nil => simp
  | cons x xs ih =>
      rw [List.mapM_cons, List.exists_mem_cons_iff, ← ih]
      cases hx : f x with
      | none => simp
      | some y => cases hxs : xs.mapM f <;> simp

/-- Functions that agree on the items have the same results. -/
theorem mapM_congr_mem {g : α → Option β} (hfg : ∀ x ∈ xs, f x = g x) :
    xs.mapM f = xs.mapM g := by
  induction xs with
  | nil => rfl
  | cons x xs ih =>
      rcases List.forall_mem_cons.mp hfg with ⟨hx, hxs⟩
      rw [List.mapM_cons, List.mapM_cons, hx, ih hxs]

/-- Two functions go over a list one after the other or both on each item. -/
theorem mapM_bind_mapM (f : α → Option β) (g : β → Option γ) (xs : List α) :
    ((xs.mapM f).bind fun ys => ys.mapM g) = xs.mapM fun x => (f x).bind g := by
  induction xs with
  | nil => rfl
  | cons x xs ih =>
      rw [List.mapM_cons, List.mapM_cons, ← ih]
      cases hx : f x with
      | none => rfl
      | some y =>
          -- an item further on that fails hides what becomes of the first one
          cases hxs : xs.mapM f with
          | none => cases hy : g y <;> simp [hy]
          | some ys => simp [List.mapM_cons]

end Items

namespace Value

variable {items : List Value} {path : List (List Char)}

/-! ## Segments one after the other -/

/-- A field is read from a list item by item. -/
theorem fields_eq_mapM (name : String) (items : List Value) :
    fields name items = items.mapM (field name) := by
  induction items with
  | nil => rfl
  | cons item items ih =>
      rw [fields, ih, List.mapM_cons]
      cases field name item with
      | none => rfl
      | some value => cases items.mapM (field name) <;> rfl

/-- A segment that invokes no operation is read from a list item by item. -/
theorem member_list {segment : List Char} (hname : operation? segment = none)
    (items : List Value) :
    (list items).member segment = (items.mapM (member segment)).map list := by
  have hitems : member segment = field (String.ofList segment) := by
    funext item
    simp [member, hname]
  rw [hitems, field, fields_eq_mapM]

/-- Segments that invoke no operation are read from a list item by item, each item with all of
them. -/
theorem descend_list (hnames : ∀ segment ∈ path, operation? segment = none)
    (items : List Value) :
    (list items).descend path = (items.mapM (descend path)).map list := by
  induction path generalizing items with
  | nil =>
      have hsame : items.mapM (descend []) = some items := by
        rw [mapM_eq_some_iff]
        exact List.forall₂_same.mpr fun item _ => rfl
      rw [hsame]
      rfl
  | cons segment path ih =>
      rcases List.forall_mem_cons.mp hnames with ⟨hname, hnames⟩
      have hdescend : descend (segment :: path) =
          fun item => (item.member segment).bind (descend path) := by
        funext item
        rw [descend]
      calc (list items).descend (segment :: path)
          = ((items.mapM (member segment)).map list).bind (descend path) := by
            rw [descend, member_list hname]
        _ = (items.mapM (member segment)).bind
              fun values => (values.mapM (descend path)).map list := by
            rw [Option.bind_map]
            exact congrArg _ (funext fun values => ih hnames values)
        _ = ((items.mapM (member segment)).bind fun values =>
              values.mapM (descend path)).map list := by
            rw [Option.map_bind]
            rfl
        _ = (items.mapM (descend (segment :: path))).map list := by
            rw [mapM_bind_mapM, hdescend]

/-! ## Paths -/

/-- A path without operations is read from a list item by item. -/
theorem lookup_list_eq {path : List Char}
    (hnames : ∀ segment ∈ Text.segments '.' path, segment.head? ≠ some '@')
    (items : List Value) :
    (list items).lookup path = (items.mapM (lookup path)).map list :=
  descend_list (fun segment hsegment => operation?_eq_none_iff.mpr (hnames segment hsegment)) items

/-- What a path without operations reads from a list, whatever its items are.  If every item has a
member at the path, the list has the list of these members, in the same order and as many; that list
is empty if there are no items.  If one item has no member at the path, the list has none either. -/
theorem lookup_list {path : List Char}
    (hnames : ∀ segment ∈ Text.segments '.' path, segment.head? ≠ some '@')
    (items : List Value) :
    (∀ v, (list items).lookup path = some v ↔ ∃ values, v = list values ∧
      List.Forall₂ (fun item value => item.lookup path = some value) items values) ∧
    ((list items).lookup path = none ↔ ∃ item ∈ items, item.lookup path = none) := by
  rw [lookup_list_eq hnames]
  refine ⟨fun v => ?_, ?_⟩
  · rw [Option.map_eq_some_iff]
    refine exists_congr fun values => ?_
    rw [mapM_eq_some_iff, and_comm, eq_comm]
  · rw [Option.map_eq_none_iff, mapM_eq_none_iff]

/-- A list in the list is read through as well; the empty list in it has no items to fail. -/
theorem lookup_list_nested :
    (∀ segment ∈ Text.segments '.' "a.b".toList, segment.head? ≠ some '@') ∧
      (list [map [("a", map [("b", int 1)])],
          list [map [("a", list [map [("b", int 2)], map [("b", null)]])], list []]]).lookup
        "a.b".toList = some (list [int 1, list [list [int 2, null], list []]]) ∧
      (list [map [("a", map [("b", int 1)])], map [("a", list [int 2])]]).lookup "a.b".toList =
        none := by
  have hnames : ∀ segment ∈ Text.segments '.' "a.b".toList, segment.head? ≠ some '@' := by decide
  refine ⟨hnames, ?_, ?_⟩
  · exact ((lookup_list hnames _).1 _).mpr ⟨_, rfl, .cons rfl (.cons rfl .nil)⟩
  · exact (lookup_list hnames _).2.mpr ⟨map [("a", list [int 2])], by simp, rfl⟩

end Value

end Platen
