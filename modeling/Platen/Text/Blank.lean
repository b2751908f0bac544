/-!
# White space

The characters that count as blank are those with the Unicode property `White_Space`.  Trimming
removes the blanks from both ends of a text and keeps the ones inside.
-/

namespace Platen.Text

/-- Whether a character has the Unicode property `White_Space`. -/
def isBlank (c : Char) : Bool :=
  c == ' ' || ('\t' ≤ c && c ≤ '\r') || c == '\u0085' || c == '\u00a0' || c == '\u1680'
    || ('\u2000' ≤ c && c ≤ '\u200a') || c == '\u2028' || c == '\u2029' || c == '\u202f'
    || c == '\u205f' || c == '\u3000'

/-- The list without the blanks at its front. -/
def dropBlanks (cs : List Char) : List Char :=
  cs.dropWhile isBlank

/-- The list without the blanks at its end. -/
def dropBlanksEnd (cs : List Char) : List Char :=
  (cs.reverse.dropWhile isBlank).reverse

/-- The list without the blanks at either end. -/
def trimBlanks (cs : List Char) : List Char :=
  dropBlanksEnd (dropBlanks cs)

/-- A text without the blanks at either end. -/
def trim (s : String) : String :=
  String.ofList (trimBlanks s.toList)

variable {cs blanks : List Char}

/-- Blanks before a text are trimmed. -/
theorem trimBlanks_blanks_append (hblanks : ∀ c ∈ blanks, isBlank c = true) (cs : List Char) :
    trimBlanks (blanks ++ cs) = trimBlanks cs := by
  rw [trimBlanks, dropBlanks, List.dropWhile_append_of_pos hblanks]
  rfl

/-- Blanks behind a text are dropped from its end. -/
theorem dropBlanksEnd_append_blanks (hblanks : ∀ c ∈ blanks, isBlank c = true)
    (cs : List Char) : dropBlanksEnd (cs ++ blanks) = dropBlanksEnd cs := by
  have hreverse : ∀ c ∈ blanks.reverse, isBlank c = true :=
    fun c hc => hblanks c (List.mem_reverse.mp hc)
  rw [dropBlanksEnd, List.reverse_append, List.dropWhile_append_of_pos hreverse]
  rfl

/-- Blanks behind a text are trimmed. -/
theorem trimBlanks_append_blanks (hblanks : ∀ c ∈ blanks, isBlank c = true) (cs : List Char) :
    trimBlanks (cs ++ blanks) = trimBlanks cs := by
  rw [trimBlanks, dropBlanks, List.dropWhile_append]
  split
  · next hblank =>
    -- the text is blank itself, so that the blanks behind it go with its front
    have hnone : blanks.dropWhile isBlank = [] := by
      rw [← List.append_nil blanks, List.dropWhile_append_of_pos hblanks]
      rfl
    rw [hnone, trimBlanks, dropBlanks, List.isEmpty_iff.mp hblank]
  · exact dropBlanksEnd_append_blanks hblanks _

/-- Trimming leaves a text as it is if neither its first nor its last character is blank. -/
theorem trimBlanks_of_ends {first last : Char} {inner : List Char}
    (hcs : cs = first :: inner ++ [last]) (hfirst : isBlank first = false)
    (hlast : isBlank last = false) : trimBlanks cs = cs := by
  subst hcs
  have hfront : dropBlanks (first :: inner ++ [last]) = first :: inner ++ [last] := by
    simp [dropBlanks, hfirst]
  rw [trimBlanks, hfront]
  simp [dropBlanksEnd, hlast]

/-- What trimming takes away are blanks before the text and behind it. -/
theorem exists_blanks_around (cs : List Char) : ∃ before after,
    cs = before ++ trimBlanks cs ++ after ∧
      (∀ c ∈ before, isBlank c = true) ∧ ∀ c ∈ after, isBlank c = true := by
  have htaken : ∀ cs : List Char, ∀ c ∈ cs.takeWhile isBlank, isBlank c = true :=
    fun cs => List.all_eq_true.mp List.all_takeWhile
  refine ⟨cs.takeWhile isBlank, ((dropBlanks cs).reverse.takeWhile isBlank).reverse, ?_,
    htaken cs, fun c hc => htaken _ c (List.mem_reverse.mp hc)⟩
  rw [List.append_assoc, trimBlanks, dropBlanksEnd, ← List.reverse_append,
    List.takeWhile_append_dropWhile, List.reverse_reverse]
  exact List.takeWhile_append_dropWhile.symm

theorem mem_dropBlanks {c : Char} (hc : c ∈ cs) (hblank : isBlank c = false) :
    c ∈ dropBlanks cs := by
  induction cs with
  | nil => cases hc
  | cons d rest ih =>
    rw [dropBlanks, List.dropWhile_cons]
    split
    · next hd =>
      rcases List.mem_cons.mp hc with rfl | hrest
      · rw [hblank] at hd
        cases hd
      · exact ih hrest
    · exact hc

/-- Trimming keeps every character that is not blank. -/
theorem mem_trimBlanks {c : Char} (hc : c ∈ cs) (hblank : isBlank c = false) :
    c ∈ trimBlanks cs := by
  rw [trimBlanks, dropBlanksEnd, List.mem_reverse]
  exact mem_dropBlanks (List.mem_reverse.mpr (mem_dropBlanks hc hblank)) hblank

/-- Trimming leaves something of a text that is not blank. -/
theorem trimBlanks_ne_nil_iff : trimBlanks cs ≠ [] ↔ ∃ c ∈ cs, isBlank c = false := by
  constructor
  · intro hne
    apply Classical.byContradiction
    intro hnone
    refine hne (trimBlanks_append_blanks (fun c hc => ?_) [])
    cases hblank : isBlank c with
    | true => rfl
    | false => exact absurd ⟨c, hc, hblank⟩ hnone
  · rintro ⟨c, hc, hblank⟩ hnil
    have hmem := mem_trimBlanks hc hblank
    rw [hnil] at hmem
    cases hmem

end Platen.Text
