/-!
# Segments of a text

A text is cut at every occurrence of a separator character; the pieces, which may be empty, are its
segments.  Joining the segments with the separator gives the text back (`join_segments`), and lists
without a separator are the segments of what they are joined to (`segments_join`).  A text that is
written behind another one lengthens its last segment (`segments_append_right`).
-/

namespace Platen.Text

/-- The pieces of a list between the occurrences of `sep`. -/
def segments (sep : Char) : List Char → List (List Char)
  | [] => [[]]
  | c :: rest =>
    if c = sep then [] :: segments sep rest
    else
      match segments sep rest with
      | [] => [[c]]
      | first :: others => (c :: first) :: others

/-- The lists joined with `sep` between two neighbours. -/
def join (sep : Char) : List (List Char) → List Char
  | [] => []
  | [s] => s
  | s :: t :: rest => s ++ sep :: join sep (t :: rest)

theorem segments_ne_nil (sep : Char) (cs : List Char) : segments sep cs ≠ [] := by
  cases cs with
  | nil => simp [segments]
  | cons c rest =>
    simp only [segments]
    split
    · simp
    · split <;> simp

/-- Joining the segments gives the text back. -/
theorem join_segments (sep : Char) (cs : List Char) : join sep (segments sep cs) = cs := by
  induction cs with
  | nil => rfl
  | cons c rest ih =>
    simp only [segments]
    split
    · next h =>
      subst h
      cases hs : segments c rest with
      | nil => exact absurd hs (segments_ne_nil c rest)
      | cons s ss => simpa [join, hs] using ih
    · cases hs : segments sep rest with
      | nil => exact absurd hs (segments_ne_nil sep rest)
      | cons s ss =>
        rw [hs] at ih
        cases ss with
        | nil => simpa [join] using ih
        | cons t ts => simpa [join] using ih

/-- The segments of a text as texts. -/
def split (sep : Char) (s : String) : List String :=
  (segments sep s.toList).map String.ofList

/-- The part of a list before the first `sep` and, if there is one, the part after it. -/
def splitFirst (sep : Char) : List Char → List Char × Option (List Char)
  | [] => ([], none)
  | c :: rest =>
    if c = sep then ([], some rest)
    else
      let (head, tail) := splitFirst sep rest
      (c :: head, tail)

/-- Without a separator there is no second part. -/
theorem splitFirst_of_notMem {sep : Char} {cs : List Char} (hnone : sep ∉ cs) :
    splitFirst sep cs = (cs, none) := by
  induction cs with
  | nil => rfl
  | cons c rest ih =>
      have hc : c ≠ sep := fun h => hnone (by simp [h])
      have hrest : sep ∉ rest := fun h => hnone (by simp [h])
      simp [splitFirst, hc, ih hrest]

theorem splitFirst_append_cons {sep : Char} {before : List Char} (hnone : sep ∉ before)
    (after : List Char) : splitFirst sep (before ++ sep :: after) = (before, some after) := by
  induction before with
  | nil => simp [splitFirst]
  | cons c rest ih =>
      have hc : c ≠ sep := fun h => hnone (by simp [h])
      have hrest : sep ∉ rest := fun h => hnone (by simp [h])
      simp [splitFirst, hc, ih hrest]

/-- The first segment stands before the first separator, and the others are the segments of what
stands after it. -/
theorem segments_eq_splitFirst (sep : Char) (cs : List Char) :
    segments sep cs =
      (splitFirst sep cs).1 :: ((splitFirst sep cs).2.map (segments sep)).getD [] := by
  induction cs with
  | nil => rfl
  | cons c rest ih =>
      by_cases hc : c = sep
      · simp [segments, splitFirst, hc]
      · simp only [segments, splitFirst, hc, if_false]
        rw [ih]

/-- A text without a separator is its only segment. -/
theorem segments_of_notMem {sep : Char} {cs : List Char} (hnone : sep ∉ cs) :
    segments sep cs = [cs] := by
  rw [segments_eq_splitFirst, splitFirst_of_notMem hnone]
  rfl

/-- No segment holds a separator. -/
theorem notMem_of_mem_segments {sep : Char} {cs segment : List Char}
    (hmem : segment ∈ segments sep cs) : sep ∉ segment := by
  induction cs generalizing segment with
  | nil =>
      rw [List.mem_singleton.mp hmem]
      exact List.not_mem_nil
  | cons c rest ih =>
      rw [segments] at hmem
      split at hmem
      · rcases List.mem_cons.mp hmem with rfl | hlater
        · exact List.not_mem_nil
        · exact ih hlater
      · rename_i hc
        cases hsegments : segments sep rest with
        | nil => exact absurd hsegments (segments_ne_nil sep rest)
        | cons first others =>
            rw [hsegments] at hmem ih
            rcases List.mem_cons.mp hmem with rfl | hlater
            · intro hsep
              rcases List.mem_cons.mp hsep with rfl | hfirst
              · exact hc rfl
              · exact ih List.mem_cons_self hfirst
            · exact ih (List.mem_cons_of_mem first hlater)

/-- The segments on both sides of a separator are those of the whole text. -/
theorem segments_append_sep (sep : Char) (cs rest : List Char) :
    segments sep (cs ++ sep :: rest) = segments sep cs ++ segments sep rest := by
  induction cs with
  | nil => simp [segments]
  | cons c cs ih =>
      rw [List.cons_append, segments, segments, ih]
      split
      · rfl
      · cases hcs : segments sep cs with
        | nil => exact absurd hcs (segments_ne_nil sep cs)
        | cons first others => rfl

/-- What stands before the first separator is the first segment. -/
theorem segments_append_cons {sep : Char} {cs : List Char} (hnone : sep ∉ cs)
    (rest : List Char) : segments sep (cs ++ sep :: rest) = cs :: segments sep rest := by
  rw [segments_append_sep, segments_of_notMem hnone]
  rfl

/-- What stands before a text without a separator belongs to its first segment. -/
theorem segments_append_left {sep : Char} {front cs first : List Char}
    {others : List (List Char)} (hnone : sep ∉ front) (hcs : segments sep cs = first :: others) :
    segments sep (front ++ cs) = (front ++ first) :: others := by
  induction front with
  | nil => exact hcs
  | cons c front ih =>
      rcases not_or.mp (mt List.mem_cons.mpr hnone) with ⟨hc, hfront⟩
      rw [List.cons_append, segments, if_neg (Ne.symm hc), ih hfront]
      rfl

/-- What stands behind a text without a separator belongs to its last segment. -/
theorem segments_append_right {sep : Char} {cs tail last : List Char}
    {others : List (List Char)} (hnone : sep ∉ tail) (hcs : segments sep cs = others ++ [last]) :
    segments sep (cs ++ tail) = others ++ [last ++ tail] := by
  induction cs generalizing others last with
  | nil =>
      rcases List.append_eq_singleton_iff.mp hcs.symm with ⟨rfl, hlast⟩ | ⟨-, hlast⟩
      · cases hlast
        exact segments_of_notMem hnone
      · cases hlast
  | cons c rest ih =>
      rw [segments] at hcs
      rw [List.cons_append, segments]
      split at hcs
      · rename_i hc
        rw [if_pos hc]
        cases others with
        | nil => simp [segments_ne_nil] at hcs
        | cons first others =>
            rw [List.cons_append, List.cons.injEq] at hcs
            rw [ih hcs.2, ← hcs.1]
            rfl
      · rename_i hc
        rw [if_neg hc]
        cases hrest : segments sep rest with
        | nil => exact absurd hrest (segments_ne_nil sep rest)
        | cons first later =>
            rw [hrest] at hcs
            cases others with
            | nil =>
                cases hcs
                have hlast : segments sep rest = [] ++ [first] := hrest
                rw [ih hlast]
                rfl
            | cons other others =>
                rw [List.cons_append, List.cons.injEq] at hcs
                have hlast : segments sep rest = (first :: others) ++ [last] := by
                  rw [hrest, hcs.2, List.cons_append]
                rw [ih hlast, ← hcs.1]
                rfl

/-- Lists without separators are the segments of the text to which they are joined. -/
theorem segments_join {sep : Char} {parts : List (List Char)} (hne : parts ≠ [])
    (hnone : ∀ part ∈ parts, sep ∉ part) : segments sep (join sep parts) = parts := by
  induction parts with
  | nil => exact absurd rfl hne
  | cons part rest ih =>
      rcases List.forall_mem_cons.mp hnone with ⟨hpart, hrest⟩
      cases rest with
      | nil => exact segments_of_notMem hpart
      | cons next rest => rw [join, segments_append_cons hpart, ih (by simp) hrest]

/-- A text and its first segment begin alike, except with a separator. -/
theorem head?_of_segments {sep c : Char} (hc : c ≠ sep) {cs first : List Char}
    {others : List (List Char)} (hsegments : segments sep cs = first :: others) :
    first.head? = some c ↔ cs.head? = some c := by
  cases cs with
  | nil =>
      cases hsegments
      rfl
  | cons d rest =>
      rw [segments] at hsegments
      split at hsegments
      · rename_i hd
        cases hsegments
        simp [hd, hc.symm]
      · split at hsegments
        all_goals
          cases hsegments
          rfl

/-- What follows `start` in a list that begins with it. -/
def dropStart? : List Char → List Char → Option (List Char)
  | [], cs => some cs
  | _ :: _, [] => none
  | p :: ps, c :: cs => if p = c then dropStart? ps cs else none

/-- What precedes `stop` in a list that ends with it. -/
def dropStop? (stop cs : List Char) : Option (List Char) :=
  (dropStart? stop.reverse cs.reverse).map List.reverse

theorem dropStart?_eq_some_iff {start cs rest : List Char} :
    dropStart? start cs = some rest ↔ cs = start ++ rest := by
  induction start generalizing cs with
  | nil => simp [dropStart?]
  | cons p start ih =>
      cases cs with
      | nil => simp [dropStart?]
      | cons c cs =>
          by_cases hc : p = c
          · simp [dropStart?, hc, ih]
          · simp [dropStart?, hc, Ne.symm hc]

theorem dropStop?_eq_some_iff {stop cs rest : List Char} :
    dropStop? stop cs = some rest ↔ cs = rest ++ stop := by
  rw [dropStop?, Option.map_eq_some_iff]
  constructor
  · rintro ⟨reversed, hreversed, rfl⟩
    rw [dropStart?_eq_some_iff] at hreversed
    rw [← List.reverse_reverse cs, hreversed, List.reverse_append, List.reverse_reverse]
  · rintro rfl
    exact ⟨rest.reverse, dropStart?_eq_some_iff.mpr (List.reverse_append), List.reverse_reverse rest⟩

/-- Whether a text ends with another. -/
def endsWith (s stop : String) : Bool :=
  stop.toList.isSuffixOf s.toList

end Platen.Text
