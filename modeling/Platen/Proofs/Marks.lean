import Mathlib.Data.List.Infix
import Mathlib.Data.List.TakeWhile
import Platen.Pattern

/-!
# Where marks are found

Reading a text from left to right finds the marks in it.  This module relates what is found to the
text itself: what is found stands there, a mark between literal texts is found, and literal texts
stay as they are.

Main results:

- Theorem `Pattern.whole_prefix_of_innerAt?`: a mark that is found stands in the text as it is
  written.
- Theorem `Pattern.whole_infix_of_mem_piecesFrom`: so does every mark that a text is read with.
- Theorem `Pattern.innerAt?_whole`: a mark is found, and it ends where it was written to end.
- Theorem `Pattern.piecesFrom_compose`: a text that is put together from literal texts and marks is
  read as just these.
-/

namespace Platen.Pattern

variable {pattern : Pattern} {cs inner rest : List Char}

/-! ## What is found -/

/-- Whether a text can be found inside a mark. -/
def Inside : Pattern → List Char → Prop
  | member, inner | directive, inner => inner ≠ [] ∧ '\x7b' ∉ inner ∧ '\x7d' ∉ inner
  | script, inner => inner ≠ [] ∧ '\n' ∉ inner

/-- There are two braces. -/
theorem isBrace_iff {c : Char} : isBrace c = true ↔ c = '\x7b' ∨ c = '\x7d' := by
  simp [isBrace]

/-- What is found up to a closing brace is followed by it. -/
theorem innerBraced?_eq_some (hinner : innerBraced? cs = some inner) :
    (inner ≠ [] ∧ '\x7b' ∉ inner ∧ '\x7d' ∉ inner) ∧ ∃ rest, cs = inner ++ '\x7d' :: rest := by
  have hsplit := List.prefix_iff_eq_append.mp (List.takeWhile_prefix (!isBrace ·) (l := cs))
  have hplain : ∀ c ∈ cs.takeWhile (!isBrace ·), isBrace c = false := by
    intro c hc
    simpa using List.mem_takeWhile_imp hc
  simp only [innerBraced?] at hinner
  split at hinner
  · rename_i hfront hrest
    cases hinner
    refine ⟨⟨?_, ?_, ?_⟩, ?_⟩
    · rw [hfront]
      exact List.cons_ne_nil _ _
    · exact fun hmem => absurd (hplain _ hmem) (by decide)
    · exact fun hmem => absurd (hplain _ hmem) (by decide)
    · rw [hrest] at hsplit
      exact ⟨_, hsplit.symm⟩
  · cases hinner

/-- What is found up to two closing braces is followed by them and stands on one line. -/
theorem untilClosing?_eq_some (hinner : untilClosing? cs = some inner) :
    '\n' ∉ inner ∧ ∃ rest, cs = inner ++ '\x7d' :: '\x7d' :: rest := by
  fun_induction untilClosing? cs generalizing inner with
  | case1 => cases hinner
  | case2 => cases hinner
  | case3 c d rest hclosing =>
      simp only [Bool.and_eq_true, decide_eq_true_eq] at hclosing
      rcases hclosing with ⟨rfl, rfl⟩
      cases hinner
      exact ⟨List.not_mem_nil, rest, rfl⟩
  | case4 => cases hinner
  | case5 c d rest _ hline ih =>
      rcases Option.map_eq_some_iff.mp hinner with ⟨later, hlater, rfl⟩
      rcases ih hlater with ⟨hone, after, hafter⟩
      refine ⟨?_, after, by rw [hafter, List.cons_append]⟩
      intro hmem
      rcases List.mem_cons.mp hmem with rfl | hmem
      · exact hline rfl
      · exact hone hmem

/-- The text inside an expression is not empty, stays on one line and ends before two braces. -/
theorem innerScript?_eq_some (hinner : innerScript? cs = some inner) :
    (inner ≠ [] ∧ '\n' ∉ inner) ∧ ∃ rest, cs = inner ++ '\x7d' :: '\x7d' :: rest := by
  unfold innerScript? at hinner
  split at hinner
  · cases hinner
  · split at hinner
    · cases hinner
    · rename_i c tail hline
      rcases Option.map_eq_some_iff.mp hinner with ⟨later, hlater, rfl⟩
      rcases untilClosing?_eq_some hlater with ⟨hone, after, rfl⟩
      refine ⟨⟨List.cons_ne_nil c later, ?_⟩, after, rfl⟩
      intro hmem
      rcases List.mem_cons.mp hmem with rfl | hmem
      · exact hline rfl
      · exact hone hmem

/-- A mark that is found stands in the text as it is written. -/
theorem whole_prefix_of_innerAt? (hinner : pattern.innerAt? cs = some inner) :
    pattern.Inside inner ∧ pattern.whole inner <+: cs := by
  unfold innerAt? at hinner
  split at hinner
  · rename_i c d rest
    split at hinner
    · rename_i hopening
      rw [whole, ← hopening]
      cases pattern with
      | member | directive =>
          rcases innerBraced?_eq_some hinner with ⟨hinside, after, rfl⟩
          exact ⟨hinside, after, by simp [closing]⟩
      | script =>
          rcases innerScript?_eq_some hinner with ⟨hinside, after, rfl⟩
          exact ⟨hinside, after, by simp [closing]⟩
    · cases hinner
  · cases hinner

/-! ## What stands there is found -/

/-- Whether a text stands inside a mark without hiding where the mark ends: it is not empty, and it
has no braces, or in an expression no closing brace and no line end. -/
def Expression : Pattern → List Char → Prop
  | member, cs | directive, cs => cs ≠ [] ∧ '\x7b' ∉ cs ∧ '\x7d' ∉ cs
  | script, cs => cs ≠ [] ∧ '\x7d' ∉ cs ∧ '\n' ∉ cs

/-- Whether a text can stand inside an expression can be computed. -/
instance (pattern : Pattern) (cs : List Char) : Decidable (pattern.Expression cs) :=
  match pattern with
  | member | directive => inferInstanceAs (Decidable (cs ≠ [] ∧ '\x7b' ∉ cs ∧ '\x7d' ∉ cs))
  | script => inferInstanceAs (Decidable (cs ≠ [] ∧ '\x7d' ∉ cs ∧ '\n' ∉ cs))

/-- A text without braces is read up to the closing brace. -/
theorem innerBraced?_append (hne : inner ≠ []) (hopen : '\x7b' ∉ inner) (hclose : '\x7d' ∉ inner)
    (rest : List Char) : innerBraced? (inner ++ '\x7d' :: rest) = some inner := by
  have hplain : ∀ c ∈ inner, (!isBrace c) = true := by
    intro c hc
    rw [Bool.not_eq_true', ← Bool.not_eq_true, isBrace_iff]
    rintro (rfl | rfl)
    · exact hopen hc
    · exact hclose hc
  have hfront : (inner ++ '\x7d' :: rest).takeWhile (!isBrace ·) = inner := by
    rw [List.takeWhile_append_of_pos hplain]
    simp [isBrace]
  simp only [innerBraced?, hfront, List.drop_left]
  cases inner with
  | nil => exact absurd rfl hne
  | cons c tail => rfl

/-- A text on one line without closing braces is read up to the next two. -/
theorem untilClosing?_append (hclose : '\x7d' ∉ inner) (hline : '\n' ∉ inner)
    (rest : List Char) : untilClosing? (inner ++ '\x7d' :: '\x7d' :: rest) = some inner := by
  induction inner with
  | nil => rfl
  | cons c tail ih =>
      rcases not_or.mp (mt List.mem_cons.mpr hclose) with ⟨hc, hclose⟩
      rcases not_or.mp (mt List.mem_cons.mpr hline) with ⟨hn, hline⟩
      have hnext := ih hclose hline
      -- the braces that close the mark stand behind the first character at the latest
      cases hrest : tail ++ '\x7d' :: '\x7d' :: rest with
      | nil => simp at hrest
      | cons d after =>
          rw [hrest] at hnext
          rw [List.cons_append, hrest, untilClosing?, if_neg (by simp [Ne.symm hc]),
            if_neg (Ne.symm hn), hnext]
          rfl

/-- A mark is found, and it ends where it was written to end. -/
theorem innerAt?_whole (hinner : pattern.Expression inner) (rest : List Char) :
    pattern.innerAt? (pattern.whole inner ++ rest) = some inner := by
  cases pattern with
  | member | directive =>
      rcases hinner with ⟨hne, hopen, hclose⟩
      have hfound := innerBraced?_append hne hopen hclose rest
      simpa [innerAt?, whole, opening, closing] using hfound
  | script =>
      rcases hinner with ⟨hne, hclose, hline⟩
      cases inner with
      | nil => exact absurd rfl hne
      | cons c tail =>
          rcases not_or.mp (mt List.mem_cons.mpr hclose) with ⟨-, hclose⟩
          rcases not_or.mp (mt List.mem_cons.mpr hline) with ⟨hn, hline⟩
          have hfound := untilClosing?_append hclose hline rest
          simp [innerAt?, whole, opening, closing, innerScript?, Ne.symm hn, hfound]

/-! ## Texts without marks -/

/-- What is read as a mark stands in the text as it is written. -/
theorem whole_infix_of_mem_piecesFrom {skip : Nat}
    (hmem : Piece.hole inner ∈ pattern.piecesFrom skip cs) :
    pattern.Inside inner ∧ pattern.whole inner <:+: cs := by
  fun_induction pattern.piecesFrom skip cs with
  | case1 => cases hmem
  | case2 skip c rest ih =>
      rcases ih hmem with ⟨hinside, hwithin⟩
      exact ⟨hinside, hwithin.trans (List.suffix_cons c rest).isInfix⟩
  | case3 c rest found hfound ih =>
      rcases List.mem_cons.mp hmem with heq | hlater
      · cases heq
        rcases whole_prefix_of_innerAt? hfound with ⟨hinside, hprefix⟩
        exact ⟨hinside, hprefix.isInfix⟩
      · rcases ih hlater with ⟨hinside, hwithin⟩
        exact ⟨hinside, hwithin.trans (List.suffix_cons c rest).isInfix⟩
  | case4 c rest _ ih =>
      rcases List.mem_cons.mp hmem with heq | hlater
      · cases heq
      · rcases ih hlater with ⟨hinside, hwithin⟩
        exact ⟨hinside, hwithin.trans (List.suffix_cons c rest).isInfix⟩

/-- The pieces of a text without holes are its characters. -/
theorem piecesFrom_eq_map (hplain : ∀ inner, Piece.hole inner ∉ pattern.piecesFrom 0 cs) :
    pattern.piecesFrom 0 cs = cs.map Piece.char := by
  induction cs with
  | nil => rfl
  | cons c rest ih =>
      simp only [piecesFrom] at hplain ⊢
      split at hplain
      · rename_i inner hinner
        exact absurd List.mem_cons_self (hplain inner)
      · rw [ih fun inner hmem => hplain inner (List.mem_cons_of_mem _ hmem), List.map_cons]

/-- A text without opening braces holds no mark. -/
theorem hole_notMem_piecesFrom (hbrace : '\x7b' ∉ cs) (inner : List Char) :
    Piece.hole inner ∉ pattern.piecesFrom 0 cs := by
  intro hmem
  have hwithin := (whole_infix_of_mem_piecesFrom hmem).2
  refine hbrace (hwithin.subset ?_)
  cases pattern <;> simp [whole, opening]

/-- A text has no marked place if none of its pieces is one. -/
theorem holes_eq_nil_iff {text : String} :
    pattern.holes text = [] ↔ ∀ inner, Piece.hole inner ∉ pattern.piecesFrom 0 text.toList := by
  rw [holes, pieces, List.filterMap_eq_nil_iff]
  constructor
  · intro hnone inner hmem
    cases hnone _ hmem
  · intro hplain piece hpiece
    cases piece with
    | char c => rfl
    | hole inner => exact absurd hpiece (hplain inner)

/-! ## Literal texts -/

/-- Whether a text holds no opening of a mark, also not together with the mark that follows it. -/
def Literal : Pattern → List Char → Prop
  | member, cs => ¬member.opening <:+: cs
  | directive, cs => ¬directive.opening <:+: cs
  | script, cs => ¬script.opening <:+: cs ∧ cs.getLast? ≠ some '\x7b'

/-- Whether a text is literal can be computed. -/
instance (pattern : Pattern) (cs : List Char) : Decidable (pattern.Literal cs) :=
  match pattern with
  | member => inferInstanceAs (Decidable (¬member.opening <:+: cs))
  | directive => inferInstanceAs (Decidable (¬directive.opening <:+: cs))
  | script =>
    inferInstanceAs (Decidable (¬script.opening <:+: cs ∧ cs.getLast? ≠ some '\x7b'))

/-- A literal text holds no opening mark. -/
theorem Literal.absent (hliteral : pattern.Literal cs) : ¬pattern.opening <:+: cs := by
  cases pattern with
  | member | directive => exact hliteral
  | script => exact hliteral.1

/-- Two characters that stand in a text with one more character stand before it, or that character
is the second of them. -/
theorem pair_of_concat {a b c : Char} (hwithin : [a, b] <:+: cs ++ [c]) :
    [a, b] <:+: cs ∨ b = c ∧ cs.getLast? = some a := by
  rcases List.infix_concat_iff.mp hwithin with hend | hinside
  · rcases List.suffix_concat_iff.mp hend with hnil | ⟨before, heq, hbefore⟩
    · cases hnil
    · rcases List.append_inj' (show [a] ++ [b] = before ++ [c] from heq) rfl with ⟨rfl, hlast⟩
      cases hlast
      rcases hbefore with ⟨front, rfl⟩
      exact .inr ⟨rfl, List.getLast?_concat⟩
  · exact .inl hinside

/-- Before a mark, the text holds no opening up to the first character of the mark. -/
theorem Literal.absent_before_mark (hliteral : pattern.Literal cs) :
    ¬pattern.opening <:+: cs ++ pattern.opening.take 1 := by
  intro hwithin
  cases pattern with
  | member | directive =>
      rcases pair_of_concat hwithin with hinside | ⟨heq, -⟩
      · exact hliteral hinside
      · exact absurd heq (by decide)
  | script =>
      rcases pair_of_concat hwithin with hinside | ⟨-, hlast⟩
      · exact hliteral.1 hinside
      · exact hliteral.2 hlast

/-- A mark begins with its opening. -/
theorem innerAt?_eq_none_of_opening (hopening : ¬pattern.opening <+: cs) :
    pattern.innerAt? cs = none := by
  rw [Option.eq_none_iff_forall_ne_some]
  intro inner hinner
  have hwhole := (whole_prefix_of_innerAt? hinner).2
  rw [whole, List.append_assoc] at hwhole
  exact hopening ((List.prefix_append _ _).trans hwhole)

/-- An opening that begins in a text ends at the latest with the character that follows the text. -/
theorem opening_prefix_append_take {c : Char} (hopening : pattern.opening <+: c :: (cs ++ rest)) :
    pattern.opening <+: c :: (cs ++ rest.take 1) := by
  have hlength : pattern.opening.length = 2 := by cases pattern <;> rfl
  rw [List.prefix_iff_eq_take, hlength] at hopening ⊢
  refine hopening.trans ?_
  cases cs with
  | nil => cases rest <;> rfl
  | cons d tail => rfl

/-- Without an opening mark the characters stand for themselves, whatever follows. -/
theorem piecesFrom_append_of_absent (hplain : ¬pattern.opening <:+: cs ++ rest.take 1) :
    pattern.piecesFrom 0 (cs ++ rest) = cs.map Piece.char ++ pattern.piecesFrom 0 rest := by
  induction cs with
  | nil => rfl
  | cons c tail ih =>
      have hnone : pattern.innerAt? (c :: (tail ++ rest)) = none :=
        innerAt?_eq_none_of_opening fun hopening =>
          hplain (opening_prefix_append_take hopening).isInfix
      have htail : ¬pattern.opening <:+: tail ++ rest.take 1 := fun hwithin =>
        hplain (hwithin.trans (List.suffix_cons c _).isInfix)
      rw [List.cons_append, piecesFrom, hnone]
      simp only [ih htail, List.map_cons, List.cons_append]

/-- A literal text before a mark, or at the end, is read as its characters. -/
theorem piecesFrom_literal (hliteral : pattern.Literal cs)
    (hrest : rest = [] ∨ pattern.opening <+: rest) :
    pattern.piecesFrom 0 (cs ++ rest) = cs.map Piece.char ++ pattern.piecesFrom 0 rest := by
  refine piecesFrom_append_of_absent ?_
  rcases hrest with rfl | ⟨after, rfl⟩
  · simpa using hliteral.absent
  · have htake : (pattern.opening ++ after).take 1 = pattern.opening.take 1 := by
      cases pattern <;> rfl
    rw [htake]
    exact hliteral.absent_before_mark

/-! ## Texts put together -/

/-- The characters of a mark that is taken already are passed over. -/
theorem piecesFrom_length_append (pattern : Pattern) (cs rest : List Char) :
    pattern.piecesFrom cs.length (cs ++ rest) = pattern.piecesFrom 0 rest := by
  induction cs with
  | nil => rfl
  | cons c cs ih => exact ih

/-- A mark is read as one piece, and the text goes on behind it. -/
theorem piecesFrom_whole (hinner : pattern.Expression inner) (rest : List Char) :
    pattern.piecesFrom 0 (pattern.whole inner ++ rest) =
      .hole inner :: pattern.piecesFrom 0 rest := by
  have hfound := innerAt?_whole hinner rest
  cases hwhole : pattern.whole inner with
  | nil => cases pattern <;> cases hwhole
  | cons c tail =>
      rw [hwhole, List.cons_append] at hfound
      rw [List.cons_append, piecesFrom, hfound]
      simp only [hwhole, List.length_cons, Nat.add_sub_cancel, piecesFrom_length_append]

/-- A text put together from a literal text and marks with a literal text behind each. -/
def compose (pattern : Pattern) (first : List Char) (parts : List (List Char × List Char)) :
    List Char :=
  first ++ parts.flatMap fun part => pattern.whole part.1 ++ part.2

/-- A text that is put together from literal texts and marks is read as just these. -/
theorem piecesFrom_compose {first : List Char} {parts : List (List Char × List Char)}
    (hfirst : pattern.Literal first)
    (hparts : ∀ part ∈ parts, pattern.Expression part.1 ∧ pattern.Literal part.2) :
    pattern.piecesFrom 0 (pattern.compose first parts) =
      first.map Piece.char ++
        parts.flatMap fun part => .hole part.1 :: part.2.map Piece.char := by
  induction parts generalizing first with
  | nil => exact piecesFrom_literal hfirst (.inl rfl)
  | cons part parts ih =>
      rcases List.forall_mem_cons.mp hparts with ⟨⟨hinner, hliteral⟩, hparts⟩
      have hsplit : pattern.compose first (part :: parts) =
          first ++ (pattern.whole part.1 ++ pattern.compose part.2 parts) := by
        simp only [compose, List.flatMap_cons, List.append_assoc]
      have hmark : pattern.opening <+: pattern.whole part.1 ++ pattern.compose part.2 parts := by
        rw [whole, List.append_assoc, List.append_assoc]
        exact List.prefix_append _ _
      rw [hsplit, piecesFrom_literal hfirst (.inr hmark), piecesFrom_whole hinner,
        ih hliteral hparts, List.flatMap_cons, List.cons_append]

end Platen.Pattern
