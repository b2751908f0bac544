import Platen.Source

/-!
# Member paths of named values

Named values can be a source of their own, or a map at the root of a document.  The document reads
every segment of a path in the same way; the source of named values always takes the first one for a
name.  Both answer alike as long as a path does not begin with an operation.

Main results:

- Theorem `Source.find?_keyed`: the first segment of a path is a name, and the others lead on from
  the value that bears it.
- Theorem `Source.keyed_answers_as_root`: when named values answer like the map that holds them, and
  what the two answer otherwise.
-/

namespace Platen

namespace Value

/-- A path is read segment by segment. -/
theorem lookup_of_segments {path first : List Char} {rest : List (List Char)}
    (hpath : Text.segments '.' path = first :: rest) (v : Value) :
    v.lookup path = (v.member first).bind (descend rest) := by
  rw [lookup, hpath, descend]

/-- A segment that begins with no operation is a name in a map. -/
theorem member_map_of_name {segment : List Char} (hname : operation? segment = none)
    (entries : Entries Value) :
    (map entries).member segment = entries.get? (String.ofList segment) := by
  simp [member, hname, field, Entries.get?]

/-- A map has only the operations that are built in. -/
theorem member_map_of_operation {segment operation : List Char}
    (hoperation : operation? segment = some operation) (entries : Entries Value) :
    (map entries).member segment = (map entries).builtin (String.ofList operation) := by
  simp [member, hoperation, invoke]

/-- A segment invokes an operation exactly if it begins with the mark of one. -/
theorem operation?_cases (segment : List Char) :
    (segment.head? ≠ some '@' ∧ operation? segment = none) ∨
      ∃ operation, segment = '@' :: operation ∧ operation? segment = some operation := by
  cases segment with
  | nil => exact .inl ⟨by simp, rfl⟩
  | cons c rest =>
      by_cases hc : c = '@'
      · subst hc
        exact .inr ⟨rest, rfl, rfl⟩
      · refine .inl ⟨by simpa using hc, ?_⟩
        simp [operation?, hc]

theorem operation?_eq_none_iff {segment : List Char} :
    operation? segment = none ↔ segment.head? ≠ some '@' := by
  rcases operation?_cases segment with ⟨hhead, hnone⟩ | ⟨operation, rfl, hoperation⟩
  · exact iff_of_true hnone hhead
  · refine iff_of_false ?_ (fun hhead => hhead rfl)
    rw [hoperation]
    exact Option.some_ne_none operation

end Value

namespace Source

/-- Among named values, the first segment of a path is a name, and the others lead on from the value
that bears it. -/
theorem find?_keyed {path : String} {first : List Char} {rest : List (List Char)}
    (hpath : Text.segments '.' path.toList = first :: rest) (entries : Entries Value) :
    (keyed entries).find? path =
      (entries.get? (String.ofList first)).bind (Value.descend rest) := by
  rw [Text.segments_eq_splitFirst, List.cons.injEq] at hpath
  rcases hsplit : Text.splitFirst '.' path.toList with ⟨head, tail⟩
  rw [hsplit] at hpath
  rcases hpath with ⟨rfl, rfl⟩
  simp only [find?, hsplit]
  cases tail with
  | none => simp [Value.descend]
  | some tail => rfl

/-- Named values answer like the map that holds them under a path that begins with a name. -/
theorem find?_keyed_eq_lookup {path : String} {first : List Char} {rest : List (List Char)}
    (hpath : Text.segments '.' path.toList = first :: rest)
    (hname : Value.operation? first = none) (entries : Entries Value) :
    (keyed entries).find? path = (Value.map entries).lookup path.toList := by
  rw [find?_keyed hpath, Value.lookup_of_segments hpath, Value.member_map_of_name hname]

/-- Named values and the map that holds them, asked for one path.  The map answers as it does
anywhere in a document.  The named values answer in the same way, unless the path begins with an
operation: the map then invokes it, and the named values look for a value of that name. -/
theorem keyed_answers_as_root (entries : Entries Value) (path : String) :
    (root (.map entries)).get? path = (Value.map entries).lookup path.toList ∧
    (path.toList.head? ≠ some '@' →
      (keyed entries).has path = (root (.map entries)).has path ∧
      (keyed entries).get? path = (root (.map entries)).get? path) ∧
    (path.toList.head? = some '@' → ∃ (operation : List Char) (rest : List (List Char)),
      Text.segments '.' path.toList = ('@' :: operation) :: rest ∧
      (keyed entries).get? path =
        (entries.get? (String.ofList ('@' :: operation))).bind (Value.descend rest) ∧
      (root (.map entries)).get? path =
        ((Value.map entries).builtin (String.ofList operation)).bind (Value.descend rest)) := by
  obtain ⟨first, rest, hpath⟩ :=
    List.exists_cons_of_ne_nil (Text.segments_ne_nil '.' path.toList)
  have hhead := Text.head?_of_segments (show '@' ≠ '.' by decide) hpath
  have hlookup := Value.lookup_of_segments hpath (.map entries)
  refine ⟨rfl, fun hplain => ?_, fun hmark => ?_⟩
  · rcases Value.operation?_cases first with ⟨-, hname⟩ | ⟨operation, rfl, -⟩
    · have hfind : (keyed entries).find? path = (root (.map entries)).find? path := by
        rw [find?_keyed hpath, find?, hlookup, Value.member_map_of_name hname]
      exact ⟨congrArg Option.isSome hfind, hfind⟩
    · exact absurd (hhead.mp rfl) hplain
  · rcases Value.operation?_cases first with ⟨hplain, -⟩ | ⟨operation, rfl, hoperation⟩
    · exact absurd (hhead.mpr hmark) hplain
    · refine ⟨operation, rest, hpath, find?_keyed hpath entries, ?_⟩
      rw [← Value.member_map_of_operation hoperation]
      exact hlookup

/-- A map in a map, beside a name that looks like an operation. -/
def oddNames : Entries Value :=
  [("@len", .text "x"), ("a", .map [("b", .int 1)])]

/-- The two sources agree on the path that ends in an operation and differ on the one that begins
with it. -/
theorem oddNames_answers :
    (keyed oddNames).get? "a.@len" = (root (.map oddNames)).get? "a.@len" ∧
      (keyed oddNames).get? "@len" = some (.text "x") ∧
      (root (.map oddNames)).get? "@len" = some (.int 2) := by
  rcases keyed_answers_as_root oddNames "a.@len" with ⟨-, hagree, -⟩
  rcases keyed_answers_as_root oddNames "@len" with ⟨-, -, hdiffer⟩
  rcases hdiffer rfl with ⟨operation, rest, hpath, hkeyed, hroot⟩
  cases hpath
  exact ⟨(hagree (by decide)).2, hkeyed, hroot⟩

/-- A map at the root of a document tells the number of its entries; the same named values do not.
-/
theorem keyed_without_operations :
    (root (.map [("a", .int 1)])).has "@len" = true ∧
      (root (.map [("a", .int 1)])).get? "@len" = some (.int 1) ∧
      (keyed [("a", .int 1)]).has "@len" = false ∧
      (keyed [("a", .int 1)]).get? "@len" = none :=
  ⟨rfl, rfl, rfl, rfl⟩

end Source

end Platen
