import Mathlib.Data.List.Forall2
import Platen.Placeholder.Basic

/-!
# Modifiers of a placeholder

A modifier is written as a keyword or as a natural number.  This module says which texts write which
modifier, apart from how they are read, and what modifiers make of a placeholder when they are
applied one after the other: at most one of them may be a formatter and at most one an aggregate,
and of several widths or alignments the last one counts.

Main results:

- Theorem `Modifier.ofText?_eq_some_iff`: a modifier is read from exactly the texts that write it.
- Theorem `Placeholder.applyAll_eq_ok_iff`: when modifiers can be applied, and the placeholder that
  they make.
- Theorem `Placeholder.ofModifiers_perm`: when their order does not show.
-/

namespace Platen

/-! ## What writes a modifier -/

/-- The keyword of a formatter. -/
def Formatter.keyword : Formatter → String
  | number => "number"
  | integer => "integer"
  | currency => "currency"
  | dateFull => "date_full"
  | dateLong => "date_long"
  | dateMedium => "date_medium"
  | dateShort => "date_short"

/-- The keyword of an alignment. -/
def Alignment.keyword : Alignment → String
  | left => "left"
  | right => "right"
  | center => "center"

/-- The keyword of an aggregate. -/
def Aggregate.keyword : Aggregate → String
  | sum => "sum"
  | count => "count"

/-- Whether a text writes a natural number: at least one decimal digit, and a plus sign at will. -/
inductive Decimal.WritesNat : List Char → Nat → Prop
  | digits {cs : List Char} : cs ≠ [] → (∀ c ∈ cs, c.isDigit = true) →
      WritesNat cs (digitsValue cs)
  | plus {cs : List Char} : cs ≠ [] → (∀ c ∈ cs, c.isDigit = true) →
      WritesNat ('+' :: cs) (digitsValue cs)

/-- Whether a text without blanks around it writes a modifier. -/
inductive Modifier.Written : List Char → Modifier → Prop
  | format (formatter : Formatter) : Written formatter.keyword.toList (.format formatter)
  | width {cs : List Char} {n : Nat} : Decimal.WritesNat cs n → n < widthLimit →
      Written cs (.width n)
  | align (alignment : Alignment) : Written alignment.keyword.toList (.align alignment)
  | aggregate (aggregate : Aggregate) : Written aggregate.keyword.toList (.aggregate aggregate)

theorem Formatter.ofKeyword?_eq_some_iff {word : String} {formatter : Formatter} :
    ofKeyword? word = some formatter ↔ word = formatter.keyword := by
  constructor
  · intro hread
    unfold ofKeyword? at hread
    split at hread <;> cases hread <;> rfl
  · rintro rfl
    cases formatter <;> rfl

namespace Decimal

/-- A row of digits writes its value, and nothing else does without a sign. -/
theorem digits_eq_some_iff {limit n : Nat} {cs : List Char} :
    (if (cs.isEmpty || !cs.all Char.isDigit) = true then none
      else if digitsValue cs < limit then some (digitsValue cs) else none) = some n ↔
      (cs ≠ [] ∧ ∀ c ∈ cs, c.isDigit = true) ∧ digitsValue cs = n ∧ n < limit := by
  by_cases hdigits : cs ≠ [] ∧ ∀ c ∈ cs, c.isDigit = true
  · have hread : (cs.isEmpty || !cs.all Char.isDigit) = false := by
      simpa [List.isEmpty_iff] using hdigits
    rw [hread, if_neg Bool.false_ne_true]
    constructor
    · intro hvalue
      split at hvalue
      · cases hvalue
        exact ⟨hdigits, rfl, by assumption⟩
      · contradiction
    · rintro ⟨-, rfl, hlimit⟩
      exact if_pos hlimit
  · have hread : (cs.isEmpty || !cs.all Char.isDigit) = true := by
      by_contra hread
      exact hdigits (by simpa [List.isEmpty_iff] using hread)
    rw [if_pos hread]
    exact iff_of_false nofun fun h => hdigits h.1

/-- A number below a limit is read from exactly the texts that write it. -/
theorem readNatBelow?_eq_some_iff {limit n : Nat} {cs : List Char} :
    readNatBelow? limit cs = some n ↔ WritesNat cs n ∧ n < limit := by
  unfold readNatBelow?
  constructor
  · intro hread
    split at hread
    · rcases digits_eq_some_iff.mp hread with ⟨⟨hne, hdigits⟩, rfl, hlimit⟩
      exact ⟨.plus hne hdigits, hlimit⟩
    · rcases digits_eq_some_iff.mp hread with ⟨⟨hne, hdigits⟩, rfl, hlimit⟩
      exact ⟨.digits hne hdigits, hlimit⟩
  · rintro ⟨hwrites, hlimit⟩
    cases hwrites with
    | digits hne hdigits =>
        split
        · -- a plus sign is no digit
          exact absurd (hdigits '+' List.mem_cons_self) (by decide)
        · exact digits_eq_some_iff.mpr ⟨⟨hne, hdigits⟩, rfl, hlimit⟩
    | plus hne hdigits => exact digits_eq_some_iff.mpr ⟨⟨hne, hdigits⟩, rfl, hlimit⟩

/-- A number begins with a digit or a plus sign. -/
theorem WritesNat.head {c : Char} {cs : List Char} {n : Nat} (hwrites : WritesNat (c :: cs) n) :
    c.isDigit = true ∨ c = '+' := by
  cases hwrites with
  | digits _ hdigits => exact .inl (hdigits c List.mem_cons_self)
  | plus _ _ => exact .inr rfl

end Decimal

namespace Modifier

/-- A modifier is read from exactly the texts that write it. -/
theorem ofText?_eq_some_iff {cs : List Char} {modifier : Modifier} :
    ofText? cs = some modifier ↔ Written cs modifier := by
  constructor
  · intro hread
    unfold ofText? at hread
    simp only at hread
    split at hread
    · rename_i formatter hword
      cases hread
      rw [← String.toList_ofList (l := cs), Formatter.ofKeyword?_eq_some_iff.mp hword]
      exact .format formatter
    · split at hread
      · rename_i n hnumber
        cases hread
        rcases Decimal.readNatBelow?_eq_some_iff.mp hnumber with ⟨hwrites, hlimit⟩
        exact .width hwrites hlimit
      · rw [← String.toList_ofList (l := cs)]
        split at hread <;> cases hread
        all_goals
          rename_i hword
          rw [hword]
        · exact .align .left
        · exact .align .right
        · exact .align .center
        · exact .aggregate .sum
        · exact .aggregate .count
  · intro hwritten
    cases hwritten with
    | format formatter => cases formatter <;> rfl
    | align alignment => cases alignment <;> rfl
    | aggregate aggregate => cases aggregate <;> rfl
    | @width _ n hwrites hlimit =>
        have hword : Formatter.ofKeyword? (String.ofList cs) = none := by
          by_contra hsome
          rcases Option.ne_none_iff_exists'.mp hsome with ⟨formatter, hformatter⟩
          have hcs : cs = formatter.keyword.toList := by
            rw [← Formatter.ofKeyword?_eq_some_iff.mp hformatter, String.toList_ofList]
          -- no keyword begins like a number
          subst hcs
          cases formatter <;> exact absurd hwrites.head (by decide)
        unfold ofText?
        simp only [hword, Decimal.readNatBelow?_eq_some_iff.mpr ⟨hwrites, hlimit⟩]

/-- Whether a segment writes a modifier, with blanks around it at will. -/
def WrittenIn (segment : List Char) (modifier : Modifier) : Prop :=
  Written (Text.trimBlanks segment) modifier

/-- A modifier is read from exactly the segments that write it. -/
theorem read?_eq_some_iff {segment : List Char} {modifier : Modifier} :
    read? segment = some modifier ↔ WrittenIn segment modifier :=
  ofText?_eq_some_iff

theorem read?_eq_none_iff {segment : List Char} :
    read? segment = none ↔ ¬∃ modifier, WrittenIn segment modifier := by
  rw [Option.eq_none_iff_forall_ne_some, not_exists]
  exact forall_congr' fun modifier => not_congr read?_eq_some_iff

/-- A segment writes one modifier only. -/
theorem rightUnique_writtenIn : Relator.RightUnique WrittenIn := by
  intro segment modifier other hmodifier hother
  rw [← read?_eq_some_iff] at hmodifier hother
  exact Option.some.inj (hmodifier.symm.trans hother)

/-! ## What modifiers ask for -/

/-- The formatter that a modifier asks for. -/
def formatter? : Modifier → Option Formatter
  | .format formatter => some formatter
  | _ => none

/-- The width that a modifier asks for. -/
def width? : Modifier → Option Nat
  | .width n => some n
  | _ => none

/-- The alignment that a modifier asks for. -/
def alignment? : Modifier → Option Alignment
  | .align alignment => some alignment
  | _ => none

/-- The aggregate that a modifier asks for. -/
def aggregate? : Modifier → Option Aggregate
  | .aggregate reduction => some reduction
  | _ => none

/-- Whether at most one modifier is a formatter and at most one an aggregate. -/
structure Compatible (modifiers : List Modifier) : Prop where
  formatters : (modifiers.filterMap formatter?).length ≤ 1
  aggregates : (modifiers.filterMap aggregate?).length ≤ 1

theorem compatible_nil : Compatible [] where
  formatters := Nat.zero_le 1
  aggregates := Nat.zero_le 1

variable {modifiers others : List Modifier}

/-- The modifiers before a place are compatible if all of them are. -/
theorem Compatible.of_append (hcompatible : Compatible (modifiers ++ others)) :
    Compatible modifiers := by
  rcases hcompatible with ⟨hformatters, haggregates⟩
  rw [List.filterMap_append, List.length_append] at hformatters haggregates
  exact ⟨by omega, by omega⟩

/-- There is still at most one modifier of a kind if the new one is not of it or is the first. -/
theorem length_filterMap_concat_le_one {α : Type} {kind? : Modifier → Option α}
    (hle : (modifiers.filterMap kind?).length ≤ 1) (modifier : Modifier) :
    ((modifiers ++ [modifier]).filterMap kind?).length ≤ 1 ↔
      ((kind? modifier).isSome = true → modifiers.filterMap kind? = []) := by
  rw [List.filterMap_append, List.length_append]
  cases hkind : kind? modifier with
  | none => simp [hkind, hle]
  | some a => simp [hkind]

/-- One more modifier is compatible with others unless it is a second formatter or aggregate. -/
theorem compatible_concat_iff (hcompatible : Compatible modifiers) (modifier : Modifier) :
    Compatible (modifiers ++ [modifier]) ↔
      (modifier.formatter?.isSome = true → modifiers.filterMap formatter? = []) ∧
        (modifier.aggregate?.isSome = true → modifiers.filterMap aggregate? = []) := by
  rw [← length_filterMap_concat_le_one hcompatible.formatters,
    ← length_filterMap_concat_le_one hcompatible.aggregates]
  exact ⟨fun h => ⟨h.formatters, h.aggregates⟩, fun h => ⟨h.1, h.2⟩⟩

/-- The order of modifiers does not matter for whether they are compatible. -/
theorem Compatible.perm (hcompatible : Compatible modifiers) (hperm : modifiers.Perm others) :
    Compatible others where
  formatters := (hperm.filterMap formatter?).length_eq ▸ hcompatible.formatters
  aggregates := (hperm.filterMap aggregate?).length_eq ▸ hcompatible.aggregates

end Modifier

namespace Placeholder

open Modifier

/-! ## Modifiers one after the other -/

/-- The placeholder that modifiers make: the last formatter, width, alignment and aggregate among
them, if there is one. -/
def ofModifiers (kind : Kind) (text base : String) (modifiers : List Modifier) : Placeholder where
  kind := kind
  text := text
  base := base
  formatter := (modifiers.filterMap formatter?).getLast?
  width := (modifiers.filterMap width?).getLast?.getD 0
  alignment := (modifiers.filterMap alignment?).getLast?
  aggregate := (modifiers.filterMap aggregate?).getLast?

/-- Applies modifiers one after the other. -/
def applyAll (p : Placeholder) (modifiers : List Modifier) : Except PlaceholderError Placeholder :=
  modifiers.foldlM apply p

variable {kind : Kind} {text base : String} {before modifiers others : List Modifier}
  {p : Placeholder}

theorem ofModifiers_concat (modifier : Modifier) :
    ofModifiers kind text base (before ++ [modifier]) =
      { ofModifiers kind text base before with
        formatter := modifier.formatter?.or (ofModifiers kind text base before).formatter
        width := modifier.width?.getD (ofModifiers kind text base before).width
        alignment := modifier.alignment?.or (ofModifiers kind text base before).alignment
        aggregate := modifier.aggregate?.or (ofModifiers kind text base before).aggregate } := by
  simp only [ofModifiers, List.filterMap_append]
  cases modifier <;> simp [formatter?, width?, alignment?, aggregate?]

/-- One more modifier can be applied if it is compatible with those before it. -/
theorem apply_eq_ok_iff (hbefore : Compatible before) (modifier : Modifier) :
    (ofModifiers kind text base before).apply modifier = .ok p ↔
      Compatible (before ++ [modifier]) ∧
        p = ofModifiers kind text base (before ++ [modifier]) := by
  rw [compatible_concat_iff hbefore, ofModifiers_concat]
  cases modifier with
  | format formatter =>
      by_cases hnone : before.filterMap formatter? = []
      · have hfirst : (ofModifiers kind text base before).formatter = none := by
          simp [ofModifiers, hnone]
        simp [apply, hfirst, hnone, formatter?, width?, alignment?, aggregate?, eq_comm]
      · have hsecond : (ofModifiers kind text base before).formatter.isSome = true :=
          List.getLast?_isSome.mpr hnone
        rw [apply, if_pos hsecond]
        exact iff_of_false nofun fun h => hnone (h.1.1 rfl)
  | width n => simp [apply, formatter?, width?, alignment?, aggregate?, eq_comm]
  | align alignment => simp [apply, formatter?, width?, alignment?, aggregate?, eq_comm]
  | aggregate aggregate =>
      by_cases hnone : before.filterMap aggregate? = []
      · have hfirst : (ofModifiers kind text base before).aggregate = none := by
          simp [ofModifiers, hnone]
        simp [apply, hfirst, hnone, formatter?, width?, alignment?, aggregate?, eq_comm]
      · have hsecond : (ofModifiers kind text base before).aggregate.isSome = true :=
          List.getLast?_isSome.mpr hnone
        rw [apply, if_pos hsecond]
        exact iff_of_false nofun fun h => hnone (h.1.2 rfl)

/-- A modifier that cannot be applied is an error in the text of the placeholder. -/
theorem kind_of_apply {modifier : Modifier} {e : PlaceholderError}
    (herror : p.apply modifier = .error e) : e.kind = .malformed := by
  unfold apply at herror
  split at herror
  · split at herror <;> cases herror
    rfl
  · cases herror
  · cases herror
  · split at herror <;> cases herror
    rfl

/-- Two lists of at most one entry are the same if they hold the same entries. -/
theorem eq_of_perm_of_length_le_one {α : Type} {xs ys : List α} (hperm : xs.Perm ys)
    (hle : xs.length ≤ 1) : xs = ys := by
  cases xs with
  | nil => exact hperm.nil_eq
  | cons x xs =>
      have hnil : xs = [] := List.eq_nil_of_length_eq_zero (by simpa using hle)
      subst hnil
      exact hperm.singleton_eq

/-- The order of compatible modifiers does not show if there is at most one width and at most one
alignment among them. -/
theorem ofModifiers_perm (hcompatible : Compatible modifiers) (hperm : modifiers.Perm others)
    (hwidths : (modifiers.filterMap width?).length ≤ 1)
    (halignments : (modifiers.filterMap alignment?).length ≤ 1) :
    ofModifiers kind text base modifiers = ofModifiers kind text base others := by
  have hformatters :=
    eq_of_perm_of_length_le_one (hperm.filterMap formatter?) hcompatible.formatters
  have haggregates :=
    eq_of_perm_of_length_le_one (hperm.filterMap aggregate?) hcompatible.aggregates
  have hwidth := eq_of_perm_of_length_le_one (hperm.filterMap width?) hwidths
  have halignment := eq_of_perm_of_length_le_one (hperm.filterMap alignment?) halignments
  simp only [ofModifiers, hformatters, haggregates, hwidth, halignment]

theorem applyAll_cons (p : Placeholder) (modifier : Modifier) (modifiers : List Modifier) :
    p.applyAll (modifier :: modifiers) =
      match p.apply modifier with
      | .error e => .error e
      | .ok p => p.applyAll modifiers := by
  unfold applyAll
  rw [List.foldlM_cons]
  cases p.apply modifier <;> rfl

/-- Modifiers can be applied if they are compatible with each other and with those before them. -/
theorem applyAll_eq_ok_iff (hbefore : Compatible before) :
    (ofModifiers kind text base before).applyAll modifiers = .ok p ↔
      Compatible (before ++ modifiers) ∧
        p = ofModifiers kind text base (before ++ modifiers) := by
  induction modifiers generalizing before with
  | nil =>
      rw [List.append_nil]
      constructor
      · intro happly
        cases happly
        exact ⟨hbefore, rfl⟩
      · rintro ⟨-, rfl⟩
        rfl
  | cons modifier modifiers ih =>
      rw [applyAll_cons, List.append_cons]
      cases happly : (ofModifiers kind text base before).apply modifier with
      | error e =>
          refine iff_of_false nofun fun h => ?_
          have hone : (ofModifiers kind text base before).apply modifier =
              .ok (ofModifiers kind text base (before ++ [modifier])) :=
            (apply_eq_ok_iff hbefore modifier).mpr ⟨h.1.of_append, rfl⟩
          rw [happly] at hone
          cases hone
      | ok q =>
          rcases (apply_eq_ok_iff hbefore modifier).mp happly with ⟨hone, rfl⟩
          exact ih hone

/-- Modifiers can be applied to a placeholder without any if they are compatible. -/
theorem applyAll_bare_eq_ok_iff :
    applyAll { kind, text, base } modifiers = .ok p ↔
      Compatible modifiers ∧ p = ofModifiers kind text base modifiers :=
  applyAll_eq_ok_iff compatible_nil

/-- Modifiers that cannot be applied are an error in the text of the placeholder. -/
theorem kind_of_applyAll {e : PlaceholderError} (herror : p.applyAll modifiers = .error e) :
    e.kind = .malformed := by
  induction modifiers generalizing p with
  | nil => cases herror
  | cons modifier modifiers ih =>
      rw [applyAll_cons] at herror
      cases happly : p.apply modifier with
      | error e' =>
          rw [happly] at herror
          cases herror
          exact kind_of_apply happly
      | ok q =>
          rw [happly] at herror
          exact ih herror

end Placeholder

end Platen
