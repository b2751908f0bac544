import Platen.Placeholder.Render
import Platen.Proofs.MemberPaths

/-!
# The members that placeholders see

A member placeholder asks ranked sources for its path, and the first source that has it decides.  A
script placeholder is evaluated against the bindings of the same sources, into which the members of
each source are written, the lowest ranked first.  This module proves that both see the same value
under every plain name.

Main results:

- Theorem `Source.get?_bindings`: a name is bound to what the first source that has it answers.
- Theorem `Source.resolve?_of_find?` and `Source.resolve?_of_none`: what ranked sources answer for a
  path that one of them has, and for a path that none has.
- Theorem `Placeholder.value_eq_binding`: the value of a member placeholder is the value that its
  name is bound to.
-/

namespace Platen

/-- A path of one segment that invokes no operation reads a field. -/
theorem Value.lookup_of_name {name : String} (hpoint : '.' ∉ name.toList)
    (hmark : name.toList.head? ≠ some '@') (v : Value) : v.lookup name.toList = v.field name := by
  have hoperation : Value.operation? name.toList = none :=
    Value.operation?_eq_none_iff.mpr hmark
  rw [Value.lookup_of_segments (Text.segments_of_notMem hpoint)]
  simp [Value.member, hoperation, Value.descend]

namespace Source

variable {source : Source} {sources : List Source} {name : String}

/-! ## Sources that list their members -/

/-- A source whose names are those of its members: named values, a document with a map at its root,
an object that lists exactly the properties that it answers, or no data. -/
inductive Listed : Source → Prop where
  | keyed (entries : Entries Value) : Listed (keyed entries)
  | document (entries : Entries Value) : Listed (root (.map entries))
  | object (handle : Nat) (properties operations : List (String × Value)) (names : List String)
      (hnames : ∀ name, name ∈ names ↔ (properties.lookup name).isSome = true) :
      Listed (root (.object handle properties operations names))
  | blank : Listed blank

/-- A name stands in a list of pairs exactly if something is found under it. -/
theorem mem_names_iff (entries : Entries Value) (name : String) :
    name ∈ entries.names ↔ (entries.get? name).isSome = true := by
  induction entries with
  | nil => simp [Entries.names, Entries.get?]
  | cons entry rest ih =>
      obtain ⟨other, value⟩ := entry
      rw [Entries.get?_cons]
      by_cases h : name = other
      · simp [Entries.names, h]
      · simpa [Entries.names, h] using ih

/-- Such a source lists a plain name exactly if it has the member. -/
theorem Listed.mem_members_iff (hlisted : source.Listed) (hpoint : '.' ∉ name.toList)
    (hmark : name.toList.head? ≠ some '@') :
    name ∈ source.members ↔ source.has name = true := by
  cases hlisted with
  | keyed entries =>
      have hfind := find?_keyed (Text.segments_of_notMem hpoint) entries
      simp only [String.ofList_toList] at hfind
      rw [has, hfind, members, mem_names_iff]
      cases entries.get? name <;> simp [Value.descend]
  | document entries =>
      rw [has, find?, Value.lookup_of_name hpoint hmark]
      exact mem_names_iff entries name
  | object handle properties operations names hnames =>
      rw [has, find?, Value.lookup_of_name hpoint hmark]
      exact hnames name
  | blank => simp [members, has, find?]

/-- A source that has a member answers with it. -/
theorem get?_of_has (hhas : source.has name = true) : source.get? name = source.find? name := by
  cases source with
  | keyed entries => rfl
  | root v => rfl
  | blank => cases hhas

/-! ## Bindings -/

/-- The entries with the members of a source bound, whatever they were bound to before. -/
def bindMembers (source : Source) (bound : Entries Value) : Entries Value :=
  source.members.foldl
    (fun bound name =>
      match source.get? name with
      | some value => bound.insert name value
      | none => bound)
    bound

theorem bindings_cons (source : Source) (sources : List Source) :
    bindings (source :: sources) = source.bindMembers (bindings sources) := by
  rw [bindings, List.reverse_cons, List.foldl_append]
  rfl

/-- Binding names one after the other to what is answered for them. -/
theorem get?_foldl_insert (answer : String → Option Value) (names : List String)
    (bound : Entries Value) (name : String) :
    (names.foldl (fun bound name =>
      match answer name with
      | some value => bound.insert name value
      | none => bound) bound).get? name =
      if name ∈ names then (answer name).or (bound.get? name) else bound.get? name := by
  induction names generalizing bound with
  | nil => simp
  | cons other names ih =>
      rw [List.foldl_cons, ih]
      by_cases h : name = other
      · subst h
        cases answer name <;> simp [Entries.get?_insert]
      · cases answer other <;> simp [h, Entries.get?_insert]

/-- A member of the source is bound to its value, and every other name stays as it was. -/
theorem Listed.get?_bindMembers (hlisted : source.Listed) (hpoint : '.' ∉ name.toList)
    (hmark : name.toList.head? ≠ some '@') (bound : Entries Value) :
    (source.bindMembers bound).get? name = (source.find? name).or (bound.get? name) := by
  have hmem := hlisted.mem_members_iff hpoint hmark
  rw [bindMembers, get?_foldl_insert]
  by_cases hhas : source.has name = true
  · rw [if_pos (hmem.mpr hhas), get?_of_has hhas]
  · have hnone : source.find? name = none := by
      simpa [has] using hhas
    rw [if_neg (fun h => hhas (hmem.mp h)), hnone, Option.none_or]

/-- A plain name is bound to what the first source that has it answers. -/
theorem get?_bindings (hlisted : ∀ source ∈ sources, source.Listed) (hpoint : '.' ∉ name.toList)
    (hmark : name.toList.head? ≠ some '@') :
    (bindings sources).get? name = sources.findSome? (·.find? name) := by
  induction sources with
  | nil => rfl
  | cons source sources ih =>
      rcases List.forall_mem_cons.mp hlisted with ⟨hfirst, hrest⟩
      rw [bindings_cons, hfirst.get?_bindMembers hpoint hmark, ih hrest, List.findSome?_cons]
      cases source.find? name <;> rfl

/-! ## Ranked sources -/

/-- The first source that has a path answers with the first member that is found. -/
theorem firstHaving?_bind_get? (sources : List Source) (path : String) :
    (firstHaving? sources path).bind (·.get? path) = sources.findSome? (·.find? path) := by
  induction sources with
  | nil => rfl
  | cons source sources ih =>
      rw [firstHaving?, List.find?_cons, List.findSome?_cons]
      cases hfind : source.find? path with
      | none =>
          have hhas : source.has path = false := by
            simp [has, hfind]
          rw [hhas]
          exact ih
      | some value =>
          have hhas : source.has path = true := by
            simp [has, hfind]
          rw [hhas]
          exact (get?_of_has hhas).trans hfind

/-- Ranked sources answer for a path with the first member that is found. -/
theorem resolve?_of_find? {path : String} {value : Value}
    (hfind : sources.findSome? (·.find? path) = some value) :
    resolve? sources path = some value := by
  rw [← firstHaving?_bind_get?, Option.bind_eq_some_iff] at hfind
  rcases hfind with ⟨source, hfirst, hget⟩
  rw [resolve?, hfirst]
  exact hget

/-- A source without a member answers null if it is blank, and nothing otherwise. -/
theorem get?_of_not_has {path : String} (hnone : source.has path = false) :
    source.get? path = none ∨ source = blank ∧ source.get? path = some .null := by
  have hfind : source.find? path = none := by
    simpa [has] using hnone
  cases source with
  | keyed entries => exact .inl hfind
  | root v => exact .inl hfind
  | blank => exact .inr ⟨rfl, rfl⟩

/-- For a path that no source has they answer null if one of them is blank, and nothing otherwise.
-/
theorem resolve?_of_none {path : String} (hnone : ∀ source ∈ sources, source.has path = false) :
    (blank ∈ sources → resolve? sources path = some .null) ∧
      (blank ∉ sources → resolve? sources path = none) := by
  have hfirst : firstHaving? sources path = none := by
    rw [firstHaving?, List.find?_eq_none]
    intro source hsource
    simp [hnone source hsource]
  rw [resolve?, hfirst]
  constructor
  · intro hblank
    cases hanswer : sources.findSome? (·.get? path) with
    | none => exact absurd (List.findSome?_eq_none_iff.mp hanswer blank hblank) (by simp [get?])
    | some value =>
        rcases List.exists_of_findSome?_eq_some hanswer with ⟨source, hsource, hget⟩
        rcases get?_of_not_has (hnone source hsource) with hmissing | ⟨-, hnull⟩
        · rw [hmissing] at hget
          cases hget
        · exact hget.symm.trans hnull
  · intro hdata
    rw [List.findSome?_eq_none_iff]
    intro source hsource
    rcases get?_of_not_has (hnone source hsource) with hmissing | ⟨rfl, -⟩
    · exact hmissing
    · exact (hdata hsource).elim

end Source

namespace Placeholder

open Source

/-- A member placeholder has the value that ranked sources answer for its path. -/
theorem value_of_member {p : Placeholder} (hkind : p.kind = .member) (sources : List Source)
    (evaluate : Evaluator) :
    p.value sources evaluate =
      match resolve? sources p.base with
      | some v => .ok v
      | none => .error (.missingMember p.base) := by
  cases hresolve : resolve? sources p.base with
  | none => simp [value, hkind, hresolve]
  | some v => simp [value, hkind, hresolve]

/-- Member and script placeholders see the same members.  A plain name is bound exactly if one of
the ranked sources has it, and then to the value of the member placeholder of that name.  A name
that no source has is null if one of the sources is blank, and otherwise missing. -/
theorem value_eq_binding {sources : List Source} (hlisted : ∀ source ∈ sources, source.Listed)
    {p : Placeholder} (hkind : p.kind = .member) (hpoint : '.' ∉ p.base.toList)
    (hmark : p.base.toList.head? ≠ some '@') (evaluate : Evaluator) :
    (((bindings sources).get? p.base).isSome = true ↔
      ∃ source ∈ sources, source.has p.base = true) ∧
    (∀ v, (bindings sources).get? p.base = some v → p.value sources evaluate = .ok v) ∧
    ((¬ ∃ source ∈ sources, source.has p.base = true) →
      (blank ∈ sources → p.value sources evaluate = .ok .null) ∧
      (blank ∉ sources → p.value sources evaluate = .error (.missingMember p.base))) := by
  rw [get?_bindings hlisted hpoint hmark, value_of_member hkind]
  refine ⟨?_, fun v hv => ?_, fun hnone => ?_⟩
  · rw [List.findSome?_isSome_iff]
    rfl
  · rw [resolve?_of_find? hv]
  · have hmissing : ∀ source ∈ sources, source.has p.base = false := by
      intro source hsource
      by_cases hhas : source.has p.base = true
      · exact absurd ⟨source, hsource, hhas⟩ hnone
      · exact eq_false_of_ne_true hhas
    rcases resolve?_of_none hmissing with ⟨hnull, hunknown⟩
    constructor
    · intro hblank
      rw [hnull hblank]
    · intro hdata
      rw [hunknown hdata]

/-- Four ranked sources, one of each kind. -/
def ranked : List Source :=
  [.blank, .root (.object 0 [("a", .int 1)] [] ["a"]), .root (.map [("a", .int 2), ("b", .int 3)]),
    .keyed [("b", .int 4)]]

theorem listed_ranked : ∀ source ∈ ranked, source.Listed := by
  intro source hsource
  simp only [ranked, List.mem_cons, List.not_mem_nil, or_false] at hsource
  rcases hsource with rfl | rfl | rfl | rfl
  · exact .blank
  · refine .object 0 _ _ _ fun name => ?_
    by_cases h : name = "a"
    · simp [h]
    · simp [List.lookup_cons, beq_false_of_ne h, h]
  · exact .document _
  · exact .keyed _

/-- The document's `b` comes before the named one, for a member placeholder and in a script. -/
theorem value_eq_binding_ranked :
    (bindings ranked).get? "b" = some (.int 3) ∧
      ({ kind := .member, text := "b", base := "b" } : Placeholder).value ranked
        (fun _ _ => .error "") = .ok (.int 3) := by
  have hbound : (bindings ranked).get? "b" = some (.int 3) := by
    rfl
  refine ⟨hbound, ?_⟩
  exact (value_eq_binding (p := { kind := .member, text := "b", base := "b" }) listed_ranked rfl
    (by decide) (by decide) _).2.1 _ hbound

end Placeholder

end Platen
