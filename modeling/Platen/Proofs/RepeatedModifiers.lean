import Platen.Proofs.Grammar

/-!
# Modifiers in both kinds of placeholder

A member placeholder applies its modifiers from the first to the last, a script placeholder takes
them from the end and applies the last one first.  This module reads one text as both: a base
without a separator, and behind it a row of modifiers.  Both kinds refuse the same rows, and of a
row that they take they read the same base, formatter and aggregate.  A width or an alignment that
is given twice tells them apart: the last one counts in a member placeholder, the first one in a
script placeholder.

Main results:

- Theorem `Placeholder.readMember_written` and `Placeholder.readScript_written`: what is read from a
  base and modifiers behind it.
- Theorem `Placeholder.read_both_kinds`: where the two kinds agree, and what each reads otherwise.
- Theorem `Placeholder.repeatedWidth_differs`: a width that is given twice.
-/

namespace Platen

namespace Modifier

/-- No modifier is written with a separator. -/
theorem Written.notMem_separator {cs : List Char} {modifier : Modifier}
    (hwritten : Written cs modifier) : Placeholder.separator ∉ cs := by
  cases hwritten with
  | format formatter => cases formatter <;> decide
  | align alignment => cases alignment <;> decide
  | aggregate aggregate => cases aggregate <;> decide
  | width hwrites _ =>
      have hdigit : Placeholder.separator.isDigit = false := by decide
      intro hmem
      cases hwrites with
      | digits _ hdigits =>
          rw [hdigits _ hmem] at hdigit
          cases hdigit
      | plus _ hdigits =>
          rcases List.mem_cons.mp hmem with hplus | hlater
          · exact absurd hplus (by decide)
          · rw [hdigits _ hlater] at hdigit
            cases hdigit

/-- Nor is one with blanks around it. -/
theorem WrittenIn.notMem_separator {segment : List Char} {modifier : Modifier}
    (hwritten : WrittenIn segment modifier) : Placeholder.separator ∉ segment :=
  fun hmem => Written.notMem_separator hwritten (Text.mem_trimBlanks hmem (by decide))

theorem notMem_separator_of_forall₂ {segments : List (List Char)} {modifiers : List Modifier}
    (hwritten : List.Forall₂ WrittenIn segments modifiers) :
    ∀ segment ∈ segments, Placeholder.separator ∉ segment := by
  induction hwritten with
  | nil => exact List.forall_mem_nil _
  | cons hfirst _ ih => exact List.forall_mem_cons.mpr ⟨hfirst.notMem_separator, ih⟩

end Modifier

namespace Placeholder

open Modifier

variable {kind : Kind} {text : String} {base : List Char} {segments : List (List Char)}
  {modifiers : List Modifier} {p : Placeholder}

/-! ## A base and modifiers behind it -/

/-- The base and the modifiers are the segments of the text that they are joined to. -/
theorem segments_written (hbase : separator ∉ base)
    (hwritten : List.Forall₂ WrittenIn segments modifiers) :
    Text.segments separator (String.ofList (Text.join separator (base :: segments))).toList =
      base :: segments := by
  rw [String.toList_ofList]
  exact Text.segments_join (List.cons_ne_nil base segments)
    (List.forall_mem_cons.mpr ⟨hbase, notMem_separator_of_forall₂ hwritten⟩)

/-- What is asked of the modifiers that segments write is asked of these alone. -/
theorem exists_written_iff (hwritten : List.Forall₂ WrittenIn segments modifiers)
    {property : List Modifier → Prop} :
    (∃ others, List.Forall₂ WrittenIn segments others ∧ property others) ↔ property modifiers := by
  constructor
  · rintro ⟨others, hothers, hproperty⟩
    cases rightUnique_writtenIn.forall₂ hwritten hothers
    exact hproperty
  · intro hproperty
    exact ⟨modifiers, hwritten, hproperty⟩

/-- A member placeholder applies the modifiers as they stand. -/
theorem readMember_written (hsegments : Text.segments separator text.toList = base :: segments)
    (hblank : ∃ c ∈ base, Text.isBlank c = false)
    (hwritten : List.Forall₂ WrittenIn segments modifiers) :
    readMember text = .ok p ↔ Compatible modifiers ∧
      p = ofModifiers .member text (String.ofList (Text.trimBlanks base)) modifiers := by
  rw [readMember_eq_ok_iff hsegments, exists_written_iff hwritten]
  exact and_congr_right fun _ => and_iff_right hblank

/-- All modifiers behind the base are peeled. -/
theorem isLeast_modifiersFrom_written (hwritten : List.Forall₂ WrittenIn segments modifiers) :
    IsLeast {k | ModifiersFrom (base :: segments) k} 1 := by
  refine ⟨⟨Nat.le_refl 1, ?_⟩, fun k hfrom => hfrom.1⟩
  intro segment hsegment
  rcases List.mem_iff_getElem.mp hsegment with ⟨i, hi, rfl⟩
  exact ⟨_, hwritten.get hi (hwritten.length_eq ▸ hi)⟩

/-- A script placeholder applies the modifiers from the last to the first. -/
theorem readScript_written (hsegments : Text.segments separator text.toList = base :: segments)
    (hblank : ∃ c ∈ base, Text.isBlank c = false)
    (hwritten : List.Forall₂ WrittenIn segments modifiers) :
    readScript text = .ok p ↔ Compatible modifiers ∧
      p = ofModifiers .script text (String.ofList (Text.trimBlanks base)) modifiers.reverse := by
  rw [readScript_eq_ok_iff hsegments (isLeast_modifiersFrom_written hwritten)
    (Nat.succ_le_succ (Nat.zero_le _)), List.drop_one, List.tail_cons, exists_written_iff hwritten]
  exact and_congr_right fun _ => and_iff_right hblank

/-! ## From both ends -/

/-- Of modifiers that are applied from the last to the first, the first one counts. -/
theorem ofModifiers_reverse (kind : Kind) (text base : String) (modifiers : List Modifier) :
    ofModifiers kind text base modifiers.reverse = {
      kind, text, base
      formatter := (modifiers.filterMap formatter?).head?
      width := (modifiers.filterMap width?).head?.getD 0
      alignment := (modifiers.filterMap alignment?).head?
      aggregate := (modifiers.filterMap aggregate?).head? } := by
  simp only [ofModifiers, List.filterMap_reverse, List.getLast?_reverse]

/-- In a list of at most one entry the first one is the last one. -/
theorem head?_eq_getLast? {α : Type} {xs : List α} (hle : xs.length ≤ 1) :
    xs.head? = xs.getLast? := by
  match xs, hle with
  | [], _ => rfl
  | [_], _ => rfl

/-- One text read as a member and as a script placeholder: a base that is not blank and holds no
separator, and behind it modifiers.  Each kind reads it exactly if the modifiers are compatible.
Both then read the same base, formatter and aggregate.  Of several widths or alignments the member
placeholder has the last one and the script placeholder the first one; so the two differ in nothing
but their kind as long as there is at most one of each. -/
theorem read_both_kinds (hbase : separator ∉ base) (hblank : ∃ c ∈ base, Text.isBlank c = false)
    (hwritten : List.Forall₂ WrittenIn segments modifiers) :
    let text := String.ofList (Text.join separator (base :: segments))
    let widths := modifiers.filterMap width?
    let alignments := modifiers.filterMap alignment?
    ((∃ p, readMember text = .ok p) ↔ Compatible modifiers) ∧
    ((∃ q, readScript text = .ok q) ↔ Compatible modifiers) ∧
    ∀ p q, readMember text = .ok p → readScript text = .ok q →
      p.base = String.ofList (Text.trimBlanks base) ∧
      q.base = p.base ∧ q.formatter = p.formatter ∧ q.aggregate = p.aggregate ∧
      p.width = widths.getLast?.getD 0 ∧ q.width = widths.head?.getD 0 ∧
      p.alignment = alignments.getLast? ∧ q.alignment = alignments.head? ∧
      (widths.length ≤ 1 → alignments.length ≤ 1 → q = { p with kind := .script }) := by
  intro text widths alignments
  have hsegments := segments_written hbase hwritten
  have hmember : ∀ p, readMember text = .ok p ↔ Compatible modifiers ∧ p = _ :=
    fun p => readMember_written hsegments hblank hwritten
  have hscript : ∀ q, readScript text = .ok q ↔ Compatible modifiers ∧ q = _ :=
    fun q => readScript_written hsegments hblank hwritten
  refine ⟨?_, ?_, ?_⟩
  · constructor
    · rintro ⟨p, hread⟩
      exact ((hmember p).mp hread).1
    · intro hcompatible
      exact ⟨_, (hmember _).mpr ⟨hcompatible, rfl⟩⟩
  · constructor
    · rintro ⟨q, hread⟩
      exact ((hscript q).mp hread).1
    · intro hcompatible
      exact ⟨_, (hscript _).mpr ⟨hcompatible, rfl⟩⟩
  · intro p q hp hq
    rcases (hmember p).mp hp with ⟨hcompatible, rfl⟩
    rcases (hscript q).mp hq with ⟨-, rfl⟩
    have hformatter := head?_eq_getLast? hcompatible.formatters
    have haggregate := head?_eq_getLast? hcompatible.aggregates
    rw [ofModifiers_reverse]
    refine ⟨rfl, rfl, hformatter, haggregate, rfl, rfl, rfl, rfl, ?_⟩
    intro hwidths halignments
    have hwidth : (modifiers.filterMap width?).head? = (modifiers.filterMap width?).getLast? :=
      head?_eq_getLast? hwidths
    have halignment : (modifiers.filterMap alignment?).head? =
        (modifiers.filterMap alignment?).getLast? := head?_eq_getLast? halignments
    simp only [ofModifiers, hformatter, haggregate, hwidth, halignment]

/-- A sum on the right with two widths, read as both kinds. -/
theorem read_both_kinds_wideSum :
    List.Forall₂ WrittenIn [" sum".toList, "12".toList, "right".toList, "+8".toList]
      [.aggregate .sum, .width 12, .align .right, .width 8] ∧
    (∃ p, readMember " rows.total : sum:12:right:+8" = .ok p ∧ p.base = "rows.total" ∧
      p.width = 8) ∧
    ∃ q, readScript " rows.total : sum:12:right:+8" = .ok q ∧ q.base = "rows.total" ∧
      q.width = 12 := by
  have hwritten : List.Forall₂ WrittenIn
      [" sum".toList, "12".toList, "right".toList, "+8".toList]
      [.aggregate .sum, .width 12, .align .right, .width 8] :=
    .cons (read?_eq_some_iff.mp rfl) (.cons (read?_eq_some_iff.mp (by decide))
      (.cons (read?_eq_some_iff.mp rfl) (.cons (read?_eq_some_iff.mp (by decide)) .nil)))
  have hcompatible : Compatible [.aggregate .sum, .width 12, .align .right, .width 8] :=
    ⟨by decide, by decide⟩
  have hbase : separator ∉ " rows.total ".toList := by decide
  rcases read_both_kinds hbase ⟨'r', by decide⟩ hwritten with ⟨hmember, hscript, hboth⟩
  obtain ⟨p, hp⟩ := hmember.mpr hcompatible
  obtain ⟨q, hq⟩ := hscript.mpr hcompatible
  rcases hboth p q hp hq with ⟨htrimmed, hsame, -, -, hlast, hfirst, -⟩
  exact ⟨hwritten, ⟨p, hp, htrimmed, hlast⟩, ⟨q, hq, hsame.trans htrimmed, hfirst⟩⟩

/-- Of two widths the member placeholder has the second and the script placeholder the first. -/
theorem repeatedWidth_differs :
    List.Forall₂ WrittenIn ["4".toList, "8".toList] [.width 4, .width 8] ∧
      readMember (String.ofList (Text.join separator ["x".toList, "4".toList, "8".toList])) =
        .ok { kind := .member, text := "x:4:8", base := "x", width := 8 } ∧
      readScript (String.ofList (Text.join separator ["x".toList, "4".toList, "8".toList])) =
        .ok { kind := .script, text := "x:4:8", base := "x", width := 4 } :=
  ⟨.cons (read?_eq_some_iff.mp (by decide)) (.cons (read?_eq_some_iff.mp (by decide)) .nil),
    by decide, by decide⟩

end Placeholder

end Platen
