import Mathlib.Data.List.Perm.Basic
import Mathlib.Data.List.TakeWhile
import Mathlib.Data.Nat.Find
import Mathlib.Order.Bounds.Basic
import Platen.Proofs.Modifiers

/-!
# The grammar of placeholders

The text of a placeholder is a row of segments.  In a member placeholder the first segment is the
member path and every other one has to be a modifier.  In a script placeholder the modifiers are the
longest run of segments at the end that are modifiers, without the first segment, and what stands
before them is the expression.  This module proves that exactly these texts are read, and what is
read from them.

Main results:

- Theorem `Placeholder.applySegments_eq_ok_iff`: segments are applied if they write compatible
  modifiers.
- Theorem `Placeholder.peel_append`: a run of modifiers is taken from the end, up to the first
  segment that is none.
- Theorem `Placeholder.readMember_spec`: the member placeholders that are read, and that the order
  of their modifiers makes no difference to that.
- Theorem `Placeholder.readScript_spec`: the script placeholders that are read.
-/

namespace Platen

namespace Placeholder

open Modifier

variable {p q : Placeholder} {segments : List (List Char)} {modifiers : List Modifier}

/-! ## Segments -/

/-- Segments that write modifiers are applied as these. -/
theorem applySegments_of_written (hwritten : List.Forall₂ WrittenIn segments modifiers) :
    p.applySegments segments = p.applyAll modifiers := by
  induction hwritten generalizing p with
  | nil => rfl
  | @cons _ modifier _ _ hfirst _ ih =>
      rw [applySegments, read?_eq_some_iff.mpr hfirst, applyAll_cons]
      simp only
      cases p.apply modifier with
      | error e => rfl
      | ok next => exact ih

/-- Segments that can be applied write modifiers. -/
theorem exists_written_of_applySegments (happly : p.applySegments segments = .ok q) :
    ∃ modifiers, List.Forall₂ WrittenIn segments modifiers := by
  induction segments generalizing p with
  | nil => exact ⟨[], .nil⟩
  | cons segment segments ih =>
      rw [applySegments] at happly
      split at happly
      · cases happly
      · rename_i modifier hread
        split at happly
        · cases happly
        · rcases ih happly with ⟨modifiers, hwritten⟩
          exact ⟨modifier :: modifiers, .cons (read?_eq_some_iff.mp hread) hwritten⟩

/-- Segments are applied as the modifiers that they write, and only if they all write one. -/
theorem applySegments_eq_ok_iff :
    p.applySegments segments = .ok q ↔
      ∃ modifiers, List.Forall₂ WrittenIn segments modifiers ∧ p.applyAll modifiers = .ok q := by
  constructor
  · intro happly
    rcases exists_written_of_applySegments happly with ⟨modifiers, hwritten⟩
    exact ⟨modifiers, hwritten, applySegments_of_written hwritten ▸ happly⟩
  · rintro ⟨modifiers, hwritten, happly⟩
    rw [applySegments_of_written hwritten, happly]

/-- Segments that cannot be applied are an error in the text of the placeholder. -/
theorem kind_of_applySegments {e : PlaceholderError}
    (herror : p.applySegments segments = .error e) : e.kind = .malformed := by
  induction segments generalizing p with
  | nil => cases herror
  | cons segment segments ih =>
      rw [applySegments] at herror
      split at herror
      · cases herror
        rfl
      · split at herror
        · rename_i happly
          cases herror
          exact kind_of_apply happly
        · exact ih herror

/-- Nothing is taken from the end if the last segment is no modifier or the only segment. -/
theorem peel_of_stop (hstop : ∀ last before rest, segments = last :: before :: rest →
    ¬∃ modifier, WrittenIn last modifier) : p.peel segments = .ok (p, segments) := by
  unfold peel
  split
  · rename_i last before rest
    rw [read?_eq_none_iff.mpr (hstop last before rest rfl)]
  · rfl

/-- A run of modifiers is taken from the end, where it stands first, up to the segments at which
nothing more is taken. -/
theorem peel_append {kept : List (List Char)}
    (hwritten : List.Forall₂ WrittenIn segments modifiers) (hne : kept ≠ [])
    (hstop : ∀ last before rest, kept = last :: before :: rest →
      ¬∃ modifier, WrittenIn last modifier) :
    p.peel (segments ++ kept) = (p.applyAll modifiers).map (·, kept) := by
  induction hwritten generalizing p with
  | nil => exact peel_of_stop hstop
  | @cons segment modifier segments modifiers hfirst _ ih =>
      -- something is left behind the segment that is taken
      have hrest : ∃ before rest, segments ++ kept = before :: rest :=
        List.exists_cons_of_ne_nil (List.append_ne_nil_of_right_ne_nil segments hne)
      rcases hrest with ⟨before, rest, hrest⟩
      rw [List.cons_append, hrest, peel, read?_eq_some_iff.mpr hfirst, applyAll_cons]
      simp only
      cases p.apply modifier with
      | error e => rfl
      | ok next =>
          rw [← ih, hrest]

/-! ## Member placeholders -/

/-- A member placeholder is read if its first segment is not blank and the others write compatible
modifiers. -/
theorem readMember_eq_ok_iff {text : String} {first : List Char}
    (hsegments : Text.segments separator text.toList = first :: segments) :
    readMember text = .ok p ↔ ∃ modifiers, List.Forall₂ WrittenIn segments modifiers ∧
      Compatible modifiers ∧ (∃ c ∈ first, Text.isBlank c = false) ∧
      p = ofModifiers .member text (String.ofList (Text.trimBlanks first)) modifiers := by
  rw [← Text.trimBlanks_ne_nil_iff, readMember, hsegments]
  simp only [List.isEmpty_iff]
  by_cases hblank : Text.trimBlanks first = []
  · rw [if_pos hblank]
    refine iff_of_false nofun ?_
    rintro ⟨modifiers, -, -, hne, -⟩
    exact hne hblank
  · rw [if_neg hblank, applySegments_eq_ok_iff]
    refine exists_congr fun modifiers => and_congr_right fun _ => ?_
    rw [applyAll_bare_eq_ok_iff]
    exact and_congr_right fun _ => (and_iff_right hblank).symm

/-- A member placeholder that is not read is an error in its text. -/
theorem kind_of_readMember {text : String} {e : PlaceholderError}
    (herror : readMember text = .error e) : e.kind = .malformed := by
  unfold readMember at herror
  split at herror
  · cases herror
    rfl
  · simp only at herror
    split at herror
    · cases herror
      rfl
    · exact kind_of_applySegments herror

/-- The segments of a text are also those of the text with the same ones in another order. -/
theorem segments_reordered {text : String} {first : List Char} {others : List (List Char)}
    (hsegments : Text.segments separator text.toList = first :: segments)
    (hperm : segments.Perm others) :
    Text.segments separator (String.ofList (Text.join separator (first :: others))).toList =
      first :: others := by
  rw [String.toList_ofList]
  refine Text.segments_join (List.cons_ne_nil first others) fun segment hsegment => ?_
  have hmem : segment ∈ Text.segments separator text.toList := by
    rw [hsegments]
    exact (hperm.cons first).mem_iff.mpr hsegment
  exact Text.notMem_of_mem_segments hmem

/-- A member placeholder with its modifiers in another order is read as well, and as the same if
there is at most one width and at most one alignment among them. -/
theorem readMember_reordered {text other : String} {first : List Char}
    {others : List (List Char)}
    (hsegments : Text.segments separator text.toList = first :: segments)
    (hothers : Text.segments separator other.toList = first :: others)
    (hperm : segments.Perm others) (hread : readMember text = .ok p) :
    ∃ q, readMember other = .ok q ∧
      ∀ modifiers, List.Forall₂ WrittenIn segments modifiers →
        (modifiers.filterMap width?).length ≤ 1 →
        (modifiers.filterMap alignment?).length ≤ 1 → q = { p with text := other } := by
  rcases (readMember_eq_ok_iff hsegments).mp hread with
    ⟨modifiers, hwritten, hcompatible, hblank, rfl⟩
  rcases List.perm_comp_forall₂ hperm.symm hwritten with ⟨reordered, hreordered, hmodifiers⟩
  refine ⟨_, (readMember_eq_ok_iff hothers).mpr
    ⟨reordered, hreordered, hcompatible.perm hmodifiers.symm, hblank, rfl⟩, ?_⟩
  intro modifiers' hwritten' hwidths halignments
  cases rightUnique_writtenIn.forall₂ hwritten hwritten'
  rw [← ofModifiers_perm hcompatible hmodifiers.symm hwidths halignments]
  rfl

/-- The member placeholders that are read.  The first segment must not be blank, every other one
must write a modifier, and at most one of them may be a formatter and at most one an aggregate;
anything else is an error in the text.  The placeholder has the trimmed first segment as its member
path, the formatter and the aggregate if there is one, and the last width and alignment.  Other
orders of the modifiers are read as well or refused as well, and read as the same placeholder as
long as there is at most one width and at most one alignment. -/
theorem readMember_spec (text : String) {first : List Char} {segments : List (List Char)}
    (hsegments : Text.segments separator text.toList = first :: segments) :
    (∀ p, readMember text = .ok p ↔ ∃ modifiers, List.Forall₂ WrittenIn segments modifiers ∧
      Compatible modifiers ∧ (∃ c ∈ first, Text.isBlank c = false) ∧
      p = ofModifiers .member text (String.ofList (Text.trimBlanks first)) modifiers) ∧
    (∀ e, readMember text = .error e → e.kind = .malformed) ∧
    ∀ others, segments.Perm others →
      let other := String.ofList (Text.join separator (first :: others))
      ((∃ p, readMember text = .ok p) ↔ ∃ q, readMember other = .ok q) ∧
      ∀ modifiers, List.Forall₂ WrittenIn segments modifiers →
        (modifiers.filterMap width?).length ≤ 1 → (modifiers.filterMap alignment?).length ≤ 1 →
        ∀ p, readMember text = .ok p → readMember other = .ok { p with text := other } := by
  refine ⟨fun p => readMember_eq_ok_iff hsegments, fun e => kind_of_readMember, ?_⟩
  intro others hperm other
  have hothers := segments_reordered hsegments hperm
  refine ⟨⟨?_, ?_⟩, ?_⟩
  · rintro ⟨p, hread⟩
    rcases readMember_reordered hsegments hothers hperm hread with ⟨q, hq, -⟩
    exact ⟨q, hq⟩
  · rintro ⟨q, hread⟩
    rcases readMember_reordered hothers hsegments hperm.symm hread with ⟨p, hp, -⟩
    exact ⟨p, hp⟩
  · intro modifiers hwritten hwidths halignments p hread
    rcases readMember_reordered hsegments hothers hperm hread with ⟨q, hq, hsame⟩
    rw [hq, hsame modifiers hwritten hwidths halignments]

/-- A sum in a width, and the same with its modifiers in another order. -/
theorem readMember_rightSum :
    Text.segments separator "items.amount: sum :+12:right".toList =
      ["items.amount".toList, " sum ".toList, "+12".toList, "right".toList] ∧
    readMember "items.amount:right:+12: sum " = .ok {
      kind := .member
      text := "items.amount:right:+12: sum "
      base := "items.amount"
      width := 12
      alignment := some .right
      aggregate := some .sum } := by
  have hsegments : Text.segments separator "items.amount: sum :+12:right".toList =
      ["items.amount".toList, " sum ".toList, "+12".toList, "right".toList] := by decide
  refine ⟨hsegments, ?_⟩
  rcases readMember_spec "items.amount: sum :+12:right" hsegments with ⟨hread, -, horder⟩
  have hwritten : List.Forall₂ WrittenIn [" sum ".toList, "+12".toList, "right".toList]
      [.aggregate .sum, .width 12, .align .right] :=
    .cons (read?_eq_some_iff.mp rfl) (.cons (read?_eq_some_iff.mp (by decide))
      (.cons (read?_eq_some_iff.mp rfl) .nil))
  have hfirst := (hread _).mpr ⟨_, hwritten, ⟨by decide, by decide⟩, ⟨'i', by decide⟩, rfl⟩
  have hperm : [" sum ".toList, "+12".toList, "right".toList].Perm
      ["right".toList, "+12".toList, " sum ".toList] := by decide
  exact (horder _ hperm).2 _ hwritten (by decide) (by decide) _ hfirst

/-! ## Script placeholders -/

/-- Whether every segment from `k` on writes a modifier; the first segment is never counted. -/
def ModifiersFrom (segments : List (List Char)) (k : Nat) : Prop :=
  1 ≤ k ∧ ∀ segment ∈ segments.drop k, ∃ modifier, WrittenIn segment modifier

variable {k : Nat}

theorem exists_isLeast_modifiersFrom (hne : segments ≠ []) :
    ∃ k, IsLeast {k | ModifiersFrom segments k} k ∧ k ≤ segments.length := by
  classical
  have hend : ModifiersFrom segments segments.length := by
    refine ⟨List.length_pos_iff.mpr hne, ?_⟩
    rw [List.drop_length]
    exact List.forall_mem_nil _
  have hsome : ∃ k, ModifiersFrom segments k := ⟨segments.length, hend⟩
  exact ⟨Nat.find hsome, ⟨Nat.find_spec hsome, fun j hj => Nat.find_min' hsome hj⟩,
    Nat.find_min' hsome hend⟩

/-- The last segment that is kept is no modifier, unless it is the first one. -/
theorem not_written_of_isLeast (hleast : IsLeast {k | ModifiersFrom segments k} (k + 1))
    (hk : 1 ≤ k) {last : List Char} (hlast : segments[k]? = some last) :
    ¬∃ modifier, WrittenIn last modifier := by
  intro hwritten
  rcases List.getElem?_eq_some_iff.mp hlast with ⟨hlt, hget⟩
  have hfrom : ModifiersFrom segments k := by
    refine ⟨hk, ?_⟩
    rw [List.drop_eq_getElem_cons hlt, hget]
    exact List.forall_mem_cons.mpr ⟨hwritten, hleast.1.2⟩
  exact absurd (hleast.2 hfrom) (by omega)

theorem exists_forall₂_written
    (hwritten : ∀ segment ∈ segments, ∃ modifier, WrittenIn segment modifier) :
    ∃ modifiers, List.Forall₂ WrittenIn segments modifiers := by
  induction segments with
  | nil => exact ⟨[], .nil⟩
  | cons segment segments ih =>
      rcases List.forall_mem_cons.mp hwritten with ⟨⟨modifier, hfirst⟩, hrest⟩
      rcases ih hrest with ⟨modifiers, hmodifiers⟩
      exact ⟨modifier :: modifiers, .cons hfirst hmodifiers⟩

/-- Peeling takes the modifiers from the least segment on, the last of them first. -/
theorem peel_reverse (hleast : IsLeast {k | ModifiersFrom segments k} k)
    (hle : k ≤ segments.length) (hwritten : List.Forall₂ WrittenIn (segments.drop k) modifiers) :
    p.peel segments.reverse =
      (p.applyAll modifiers.reverse).map (·, (segments.take k).reverse) := by
  have hsplit : segments.reverse = (segments.drop k).reverse ++ (segments.take k).reverse := by
    rw [← List.reverse_append, List.take_append_drop]
  rw [hsplit]
  have hk : 1 ≤ k := hleast.1.1
  refine peel_append (List.rel_reverse hwritten) ?_ ?_
  · intro hnil
    have hlength := congrArg List.length hnil
    rw [List.length_reverse, List.length_take_of_le hle, List.length_nil] at hlength
    omega
  · intro last before rest hkept
    have htake : segments.take k = (before :: rest).reverse ++ [last] := by
      rw [← List.reverse_cons, ← hkept, List.reverse_reverse]
    rcases Nat.exists_eq_add_of_le' hk with ⟨j, rfl⟩
    have hj : (before :: rest).reverse.length = j := by
      have hlength := congrArg List.length htake
      rw [List.length_take_of_le hle, List.length_append, List.length_singleton] at hlength
      omega
    have hlast : segments[j]? = some last := by
      rw [← List.getElem?_take_of_lt (Nat.lt_succ_self j), htake, ← hj,
        List.getElem?_concat_length]
    refine not_written_of_isLeast hleast ?_ hlast
    rw [← hj, List.length_reverse]
    exact Nat.succ_pos rest.length

/-- A script placeholder is read by applying the modifiers from the least segment on, the last of
them first. -/
theorem readScript_eq {text : String}
    (hsegments : Text.segments separator text.toList = segments)
    (hleast : IsLeast {k | ModifiersFrom segments k} k) (hle : k ≤ segments.length)
    (hwritten : List.Forall₂ WrittenIn (segments.drop k) modifiers) :
    readScript text =
      match applyAll { kind := .script, text, base := "" } modifiers.reverse with
      | .error e => .error e
      | .ok p =>
        let expression := Text.trimBlanks (Text.join separator (segments.take k))
        if expression.isEmpty then .error .emptyExpression
        else .ok { p with base := String.ofList expression } := by
  rw [readScript, hsegments]
  simp only [peel_reverse hleast hle hwritten]
  cases applyAll { kind := .script, text, base := "" } modifiers.reverse with
  | error e => rfl
  | ok p =>
      simp only [Except.map, List.reverse_reverse]

/-- A script placeholder is read if the segments from the least one on write compatible modifiers
and what stands before them is not blank. -/
theorem readScript_eq_ok_iff {text : String}
    (hsegments : Text.segments separator text.toList = segments)
    (hleast : IsLeast {k | ModifiersFrom segments k} k) (hle : k ≤ segments.length) :
    readScript text = .ok p ↔ ∃ modifiers, List.Forall₂ WrittenIn (segments.drop k) modifiers ∧
      Compatible modifiers ∧
      (∃ c ∈ Text.join separator (segments.take k), Text.isBlank c = false) ∧
      p = ofModifiers .script text
        (String.ofList (Text.trimBlanks (Text.join separator (segments.take k))))
        modifiers.reverse := by
  rw [← Text.trimBlanks_ne_nil_iff]
  constructor
  · intro hread
    rcases exists_forall₂_written hleast.1.2 with ⟨modifiers, hwritten⟩
    rw [readScript_eq hsegments hleast hle hwritten] at hread
    split at hread
    · cases hread
    · rename_i happly
      rcases applyAll_bare_eq_ok_iff.mp happly with ⟨hcompatible, rfl⟩
      simp only [List.isEmpty_iff] at hread
      split at hread
      · cases hread
      · rename_i hblank
        cases hread
        exact ⟨modifiers, hwritten, hcompatible.perm (List.reverse_perm modifiers), hblank, rfl⟩
  · rintro ⟨modifiers, hwritten, hcompatible, hblank, rfl⟩
    have happly : applyAll { kind := .script, text, base := "" } modifiers.reverse =
        .ok (ofModifiers .script text "" modifiers.reverse) :=
      applyAll_bare_eq_ok_iff.mpr ⟨hcompatible.perm (List.reverse_perm modifiers).symm, rfl⟩
    rw [readScript_eq hsegments hleast hle hwritten, happly]
    simp only [List.isEmpty_iff, if_neg hblank]
    rfl

/-- A script placeholder that is not read is an error in its text. -/
theorem kind_of_readScript {text : String} {e : PlaceholderError}
    (herror : readScript text = .error e) : e.kind = .malformed := by
  rcases exists_isLeast_modifiersFrom (Text.segments_ne_nil separator text.toList) with
    ⟨k, hleast, hle⟩
  rcases exists_forall₂_written hleast.1.2 with ⟨modifiers, hwritten⟩
  rw [readScript_eq rfl hleast hle hwritten] at herror
  split at herror
  · rename_i happly
    cases herror
    exact kind_of_applyAll happly
  · simp only at herror
    split at herror
    · cases herror
      rfl
    · cases herror

/-- The script placeholders that are read.  Let `k` be the least number, at least one, such that all
segments from `k` on write a modifier.  If these are compatible and the segments before, joined
again, are not blank, then the text is read; anything else is an error in it.  The expression is the
joined text, trimmed, and the modifiers apply from the last to the first.  So the first segment is
never a modifier, and the last segment of the expression is none unless it is the first one. -/
theorem readScript_spec (text : String) :
    let segments := Text.segments separator text.toList
    ∃ k, IsLeast {k | 1 ≤ k ∧ ∀ segment ∈ segments.drop k, ∃ modifier,
        WrittenIn segment modifier} k ∧
      k ≤ segments.length ∧
      (∀ p, readScript text = .ok p ↔
        ∃ modifiers, List.Forall₂ WrittenIn (segments.drop k) modifiers ∧ Compatible modifiers ∧
          (∃ c ∈ Text.join separator (segments.take k), Text.isBlank c = false) ∧
          p = ofModifiers .script text
            (String.ofList (Text.trimBlanks (Text.join separator (segments.take k))))
            modifiers.reverse) ∧
      (∀ e, readScript text = .error e → e.kind = .malformed) ∧
      (1 < k → ∀ last, segments[k - 1]? = some last → ¬∃ modifier, WrittenIn last modifier) := by
  intro segments
  rcases exists_isLeast_modifiersFrom (Text.segments_ne_nil separator text.toList) with
    ⟨k, hleast, hle⟩
  refine ⟨k, hleast, hle, fun p => readScript_eq_ok_iff rfl hleast hle,
    fun e => kind_of_readScript, ?_⟩
  intro hk last hlast
  rcases Nat.exists_eq_add_of_lt hk with ⟨j, rfl⟩
  exact not_written_of_isLeast hleast (by omega) hlast

/-- Of two widths the first one counts, since it is applied last. -/
example : readScript " rows[1:3] :4:right:8" = .ok {
    kind := .script
    text := " rows[1:3] :4:right:8"
    base := "rows[1:3]"
    width := 4
    alignment := some .right } := by
  rfl

end Placeholder

end Platen
