/-!
# Entries

A finite map from names to values is a list of pairs in the order of the names (by code point), each
name at most once.
-/

namespace Platen

/-- The pairs of a finite map, in the order of their names. -/
abbrev Entries (α : Type) := List (String × α)

namespace Entries

variable {α : Type}

/-- The entries with `name` bound to `value`, whatever it was bound to before. -/
def insert (name : String) (value : α) : Entries α → Entries α
  | [] => [(name, value)]
  | (other, old) :: rest =>
    if name = other then (name, value) :: rest
    else if name < other then (name, value) :: (other, old) :: rest
    else (other, old) :: insert name value rest

/-- The entries that a list of pairs binds; of two pairs with one name the later wins. -/
def ofList (pairs : List (String × α)) : Entries α :=
  pairs.foldl (fun entries (name, value) => insert name value entries) []

/-- The value bound to a name. -/
def get? (entries : Entries α) (name : String) : Option α :=
  List.lookup name entries

/-- The names that are bound. -/
def names (entries : Entries α) : List String :=
  entries.map Prod.fst

/-- A pair decides only about its own name. -/
theorem get?_cons (name other : String) (value : α) (rest : Entries α) :
    get? ((name, value) :: rest) other = if other = name then some value else get? rest other := by
  by_cases h : other = name
  · simp [get?, h]
  · have hn : (other == name) = false := by simpa using h
    simp [get?, List.lookup_cons, h, hn]

/-- A name just bound has the value given; the others keep theirs. -/
theorem get?_insert (entries : Entries α) (name other : String) (value : α) :
    (insert name value entries).get? other =
      if other = name then some value else entries.get? other := by
  induction entries with
  | nil => exact get?_cons name other value []
  | cons entry rest ih =>
    obtain ⟨first, old⟩ := entry
    simp only [insert]
    split
    · next h => subst h; simp only [get?_cons]; split <;> rfl
    · next h =>
      split
      · exact get?_cons name other value _
      · simp only [get?_cons, ih]
        by_cases ho : other = first
        · simp [ho, Ne.symm h]
        · simp [ho]

/-- Entries keep their names when their values are mapped. -/
theorem lookup_map {β : Type} (f : α → β) (pairs : List (String × α)) (name : String) :
    (pairs.map (Prod.map id f)).lookup name = (pairs.lookup name).map f := by
  induction pairs with
  | nil => rfl
  | cons pair rest ih =>
    obtain ⟨first, value⟩ := pair
    simp only [List.map_cons, Prod.map, id_eq, List.lookup_cons, ih]
    split <;> rfl

/-- What a name is looked up to is one of the pairs. -/
theorem mem_of_lookup {pairs : List (String × α)} {name : String} {value : α}
    (hname : pairs.lookup name = some value) : (name, value) ∈ pairs := by
  obtain ⟨before, after, rfl, -⟩ := List.lookup_eq_some_iff.mp hname
  exact List.mem_append_right before List.mem_cons_self

/-- Values may be mapped before or after one of them is bound. -/
theorem map_insert {β : Type} (f : α → β) (entries : Entries α) (name : String) (value : α) :
    (insert name value entries).map (Prod.map id f) =
      insert name (f value) (entries.map (Prod.map id f)) := by
  induction entries with
  | nil => rfl
  | cons entry rest ih =>
    obtain ⟨first, old⟩ := entry
    simp only [insert, List.map_cons, Prod.map, id_eq]
    split
    · rfl
    · split
      · rfl
      · simp only [List.map_cons, Prod.map, id_eq, ih]

/-- Nothing else is bound than what was bound before and the new pair. -/
theorem mem_insert {entries : Entries α} {name : String} {value : α} {entry : String × α}
    (hentry : entry ∈ insert name value entries) : entry = (name, value) ∨ entry ∈ entries := by
  induction entries with
  | nil => exact .inl (List.mem_singleton.mp hentry)
  | cons first rest ih =>
    obtain ⟨other, old⟩ := first
    simp only [insert] at hentry
    split at hentry
    · exact (List.mem_cons.mp hentry).imp_right (List.mem_cons_of_mem _)
    · split at hentry
      · exact List.mem_cons.mp hentry
      · rcases List.mem_cons.mp hentry with rfl | hrest
        · exact .inr List.mem_cons_self
        · exact (ih hrest).imp_right (List.mem_cons_of_mem _)

/-- Values may be mapped before or after all of them are bound. -/
theorem map_ofList {β : Type} (f : α → β) (pairs : List (String × α)) :
    (ofList pairs).map (Prod.map id f) = ofList (pairs.map (Prod.map id f)) := by
  suffices h : ∀ entries : Entries α,
      (pairs.foldl (fun entries (name, value) => insert name value entries) entries).map
          (Prod.map id f) =
        (pairs.map (Prod.map id f)).foldl (fun entries (name, value) => insert name value entries)
          (entries.map (Prod.map id f)) from h []
  intro entries
  induction pairs generalizing entries with
  | nil => rfl
  | cons pair rest ih =>
    obtain ⟨name, value⟩ := pair
    rw [List.foldl_cons, ih, map_insert]
    rfl

/-- Only given pairs are bound. -/
theorem mem_ofList {pairs : List (String × α)} {entry : String × α}
    (hentry : entry ∈ ofList pairs) : entry ∈ pairs := by
  suffices h : ∀ entries : Entries α,
      entry ∈ pairs.foldl (fun entries (name, value) => insert name value entries) entries →
        entry ∈ entries ∨ entry ∈ pairs from
    (h [] hentry).resolve_left List.not_mem_nil
  clear hentry
  induction pairs with
  | nil => exact fun entries hentry => .inl hentry
  | cons pair rest ih =>
    obtain ⟨name, value⟩ := pair
    intro entries hentry
    rcases ih _ hentry with hbound | hrest
    · rcases mem_insert hbound with rfl | hold
      · exact .inr List.mem_cons_self
      · exact .inl hold
    · exact .inr (List.mem_cons_of_mem _ hrest)

end Entries

end Platen
