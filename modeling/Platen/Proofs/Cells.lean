import Platen.Proofs.Substitution

/-!
# Cells and passes

A placeholder is found in two ways.  The cell of a table column takes the marks off the ends of the
column's text, and a pass over a line finds the marks in it from left to right.  This module proves
that both find the same placeholder between marks, fail alike, and show the same text, which the
pass brings to the width of the placeholder and the cell leaves as it is.  A column may also hold a
member without marks; the marks make no difference to its cell.

Main results:

- Theorem `Placeholder.readMember_congr`: blanks around its segments do not show in a placeholder.
- Theorem `Resolver.cellExpression_whole` and `Resolver.cellExpression_bare`: what a column holds.
- Theorem `Resolver.pass_whole`: what a pass makes of a single mark.
- Theorem `Resolver.cell_agrees_with_pass`: cells and passes of a resolver after any calls.
-/

namespace Platen

/-! ## Segments between blanks -/

section Blanks

open Text

variable {sep : Char} {before after : List Char}

/-- Blanks before and behind a text are trimmed with its first and last segment. -/
theorem map_trimBlanks_segments (hsep : isBlank sep = false)
    (hbefore : ∀ c ∈ before, isBlank c = true) (hafter : ∀ c ∈ after, isBlank c = true)
    (cs : List Char) :
    (segments sep (before ++ cs ++ after)).map trimBlanks = (segments sep cs).map trimBlanks := by
  have hnone : ∀ blanks : List Char, (∀ c ∈ blanks, isBlank c = true) → sep ∉ blanks := by
    intro blanks hblanks hmem
    rw [hblanks sep hmem] at hsep
    cases hsep
  have hfront : (segments sep (before ++ cs)).map trimBlanks = (segments sep cs).map trimBlanks := by
    obtain ⟨first, others, hcs⟩ := List.exists_cons_of_ne_nil (segments_ne_nil sep cs)
    rw [segments_append_left (hnone before hbefore) hcs, hcs, List.map_cons, List.map_cons,
      trimBlanks_blanks_append hbefore]
  have hend : ∀ cs : List Char,
      (segments sep (cs ++ after)).map trimBlanks = (segments sep cs).map trimBlanks := by
    intro cs
    obtain ⟨others, last, hcs⟩ :=
      (List.eq_nil_or_concat (segments sep cs)).resolve_left (segments_ne_nil sep cs)
    rw [List.concat_eq_append] at hcs
    rw [segments_append_right (hnone after hafter) hcs, hcs, List.map_append, List.map_append,
      List.map_singleton, List.map_singleton, trimBlanks_append_blanks hafter]
  rw [hend, hfront]

end Blanks

namespace Placeholder

variable {segments others : List (List Char)}

/-! ## Reading between blanks -/

/-- A modifier is applied whatever the text of the placeholder is. -/
theorem apply_withText (p : Placeholder) (text : String) (modifier : Modifier) :
    ({ p with text } : Placeholder).apply modifier =
      (p.apply modifier).map fun q => { q with text } := by
  cases modifier with
  | format formatter =>
      simp only [apply]
      split <;> rfl
  | width n => rfl
  | align alignment => rfl
  | aggregate aggregate =>
      simp only [apply]
      split <;> rfl

/-- So are segments, and the blanks around them do not show. -/
theorem applySegments_withText (p : Placeholder) (text : String)
    (htrimmed : segments.map Text.trimBlanks = others.map Text.trimBlanks) :
    ({ p with text } : Placeholder).applySegments others =
      (p.applySegments segments).map fun q => { q with text } := by
  induction segments generalizing p others with
  | nil =>
      have hnil : others = [] := by simpa using htrimmed.symm
      subst hnil
      rfl
  | cons segment segments ih =>
      cases others with
      | nil => simp at htrimmed
      | cons other others =>
          rcases List.cons.inj htrimmed with ⟨hfirst, hrest⟩
          have hread : Modifier.read? other = Modifier.read? segment := by
            rw [Modifier.read?, Modifier.read?, hfirst]
          rw [applySegments, applySegments, hread, hfirst]
          cases Modifier.read? segment with
          | none => rfl
          | some modifier =>
              simp only [apply_withText]
              cases p.apply modifier with
              | error e => rfl
              | ok q => exact ih q hrest

/-- Two texts whose segments differ in the blanks around them are read as the same placeholder, or
are refused for the same cause. -/
theorem readMember_congr {text other : String}
    (htrimmed : (Text.segments separator text.toList).map Text.trimBlanks =
      (Text.segments separator other.toList).map Text.trimBlanks) :
    readMember other = (readMember text).map fun p => { p with text := other } := by
  obtain ⟨first, rest, htext⟩ :=
    List.exists_cons_of_ne_nil (Text.segments_ne_nil separator text.toList)
  obtain ⟨first', rest', hother⟩ :=
    List.exists_cons_of_ne_nil (Text.segments_ne_nil separator other.toList)
  rw [htext, hother] at htrimmed
  rcases List.cons.inj htrimmed with ⟨hfirst, hrest⟩
  rw [readMember, readMember, htext, hother]
  simp only [← hfirst]
  split
  · rfl
  · exact applySegments_withText
      { kind := .member, text, base := String.ofList (Text.trimBlanks first) } other hrest

/-- A member placeholder is read from the trimmed text as from the text itself. -/
theorem readMember_trim (text : String) :
    readMember (Text.trim text) =
      (readMember text).map fun p => { p with text := Text.trim text } := by
  refine readMember_congr ?_
  obtain ⟨before, after, htext, hbefore, hafter⟩ := Text.exists_blanks_around text.toList
  rw [Text.trim, String.toList_ofList]
  conv_lhs => rw [htext]
  exact map_trimBlanks_segments (by decide) hbefore hafter _

/-! ## One placeholder in a cell and in a line -/

/-- The width of the placeholder that a text writes; zero if it writes none. -/
def widthOf (kind : Kind) (text : String) : Nat :=
  match read kind text with
  | .ok p => p.width
  | .error _ => 0

/-- The cell that shows a placeholder. -/
def toCell (p : Placeholder) (r : Resolver) (sources : List Source) :
    Except PlaceholderError Cell := do
  let v ← p.value sources r.evaluate
  let shown ← p.renderValue v r.style
  return {
    text := shown
    numeric := v.isNumeric || p.aggregate.isSome || p.formatter.any Formatter.isNumeric
    alignment := p.alignment }

/-- In a line, the text of the cell is brought to the width of the placeholder. -/
theorem render_eq_toCell (p : Placeholder) (r : Resolver) (sources : List Source) :
    p.render sources r.evaluate r.style =
      (p.toCell r sources).map fun cell =>
        Text.pad cell.text p.width (cell.alignment.getD .left) := by
  rw [render, toCell]
  cases p.value sources r.evaluate with
  | error e => rfl
  | ok v =>
      show (p.renderValue v r.style >>= _) = Except.map _ (p.renderValue v r.style >>= _)
      cases p.renderValue v r.style <;> rfl

end Placeholder

namespace Resolver

variable {r : Resolver} {kind : Placeholder.Kind} {sources : List Source}
  {inner before after : List Char}

/-! ## What a column holds -/

/-- Whether the text of a column is no mark of a placeholder, apart from blanks. -/
def Bare (column : String) : Prop :=
  ∀ (kind : Placeholder.Kind) (inner : List Char),
    Text.trimBlanks column.toList ≠ kind.pattern.whole inner

/-- A text that begins with no mark is bare. -/
theorem bare_of_not_opening {column : String}
    (hopening : ∀ kind : Placeholder.Kind,
      ¬kind.pattern.opening <+: Text.trimBlanks column.toList) :
    Bare column := by
  intro kind inner hwhole
  apply hopening kind
  rw [hwhole, Pattern.whole, List.append_assoc]
  exact List.prefix_append _ _

/-- Blanks around a mark are trimmed, and nothing of the mark is. -/
theorem trimBlanks_whole (kind : Placeholder.Kind)
    (hbefore : ∀ c ∈ before, Text.isBlank c = true)
    (hafter : ∀ c ∈ after, Text.isBlank c = true) (inner : List Char) :
    Text.trimBlanks (before ++ kind.pattern.whole inner ++ after) = kind.pattern.whole inner := by
  rw [Text.trimBlanks_append_blanks hafter, Text.trimBlanks_blanks_append hbefore]
  cases kind with
  | member =>
      have hends : Pattern.member.whole inner = '$' :: ('\x7b' :: inner) ++ ['\x7d'] := rfl
      exact Text.trimBlanks_of_ends hends (by decide) (by decide)
  | script =>
      have hends : Pattern.script.whole inner =
          '\x7b' :: ('\x7b' :: inner ++ ['\x7d']) ++ ['\x7d'] := by
        simp [Pattern.whole, Pattern.opening, Pattern.closing]
      exact Text.trimBlanks_of_ends hends (by decide) (by decide)

/-- A column holds the placeholder that stands between marks in it. -/
theorem cellExpression_whole (kind : Placeholder.Kind)
    (hbefore : ∀ c ∈ before, Text.isBlank c = true)
    (hafter : ∀ c ∈ after, Text.isBlank c = true) (inner : List Char) :
    cellExpression (String.ofList (before ++ kind.pattern.whole inner ++ after)) =
      (kind, String.ofList inner) := by
  have hinside : (Text.dropStart? kind.pattern.opening (kind.pattern.whole inner)).bind
      (Text.dropStop? kind.pattern.closing) = some inner := by
    rw [Pattern.whole, List.append_assoc, Text.dropStart?_eq_some_iff.mpr rfl]
    exact Text.dropStop?_eq_some_iff.mpr rfl
  rw [cellExpression, String.toList_ofList, trimBlanks_whole kind hbefore hafter]
  cases kind with
  | script =>
      simp only [Placeholder.Kind.pattern] at hinside ⊢
      rw [hinside]
  | member =>
      have hscript : Text.dropStart? Pattern.script.opening (Pattern.member.whole inner) = none :=
        rfl
      simp only [Placeholder.Kind.pattern] at hinside ⊢
      rw [hscript, Option.bind_none, hinside]

/-- So does a column that is nothing but a mark. -/
theorem cellExpression_member (text : String) :
    cellExpression (String.ofList (Pattern.member.whole text.toList)) = (.member, text) := by
  have hcolumn := cellExpression_whole .member (List.forall_mem_nil _) (List.forall_mem_nil _)
    text.toList
  rw [List.nil_append, List.append_nil, String.ofList_toList] at hcolumn
  exact hcolumn

/-- A bare column holds a member, which is its text without the blanks around it. -/
theorem cellExpression_bare {column : String} (hbare : Bare column) :
    cellExpression column = (.member, Text.trim column) := by
  have houtside : ∀ kind : Placeholder.Kind,
      (Text.dropStart? kind.pattern.opening (Text.trimBlanks column.toList)).bind
        (Text.dropStop? kind.pattern.closing) = none := by
    intro kind
    rw [Option.eq_none_iff_forall_ne_some]
    intro inner hinner
    rcases Option.bind_eq_some_iff.mp hinner with ⟨rest, hstart, hstop⟩
    apply hbare kind inner
    rw [Text.dropStart?_eq_some_iff.mp hstart, Text.dropStop?_eq_some_iff.mp hstop,
      Pattern.whole, List.append_assoc]
  have hscript := houtside .script
  have hmember := houtside .member
  simp only [Placeholder.Kind.pattern] at hscript hmember
  simp only [cellExpression, hscript, hmember, Text.trim]

/-! ## Cells and passes after other calls -/

/-- A cell is read and shown, whatever the calls before it have left behind. -/
theorem cell_eq (r : Resolver) (calls : List Call) (column : String) (sources : List Source) :
    ((r.cell column sources).run.run (r.session [] calls).2).1 =
      tie (cellExpression column).2
        ((Placeholder.read (cellExpression column).1 (cellExpression column).2).bind
          fun p => p.toCell r sources) := by
  have hsound : (r.session [] calls).2.Sound := (Remembers.nil.session r calls).sound
  rw [(r.transparent_cell column sources _ hsound).1, cell, run_bind, run_placeholder]
  simp only [List.lookup_nil]
  cases Placeholder.read (cellExpression column).1 (cellExpression column).2 with
  | error cause => rfl
  | ok p =>
      show (((liftM (tie _ (p.value sources r.evaluate)) : Resolving Value) >>= _).run.run _).1 =
        tie _ (p.toCell r sources)
      rw [run_bind, run_liftM, Placeholder.toCell]
      cases p.value sources r.evaluate with
      | error cause => rfl
      | ok v =>
          show (((liftM (tie _ (p.renderValue v r.style)) : Resolving String) >>= _).run.run _).1 =
            tie _ (p.renderValue v r.style >>= _)
          rw [run_bind, run_liftM]
          cases p.renderValue v r.style <;> rfl

/-- Nothing in a row of blanks belongs to a mark. -/
theorem literal_of_blanks (kind : Placeholder.Kind) {cs : List Char}
    (hblanks : ∀ c ∈ cs, Text.isBlank c = true) : kind.pattern.Literal cs := by
  have hbrace : '\x7b' ∉ cs := fun hmem => absurd (hblanks _ hmem) (by decide)
  cases kind with
  | member => exact fun hwithin => hbrace (hwithin.subset (by decide))
  | script =>
      exact ⟨fun hwithin => hbrace (hwithin.subset (by decide)),
        fun hlast => hbrace (List.mem_of_getLast? hlast)⟩

theorem tie_map {α β : Type} (expression : String) (f : α → β)
    (result : Except PlaceholderError α) :
    tie expression (result.map f) = (tie expression result).map f := by
  cases result <;> rfl

/-- A pass shows the placeholder of a single mark between literal texts, or fails with it. -/
theorem pass_whole (r : Resolver) (calls : List Call) (sources : List Source)
    (hinner : kind.pattern.Expression inner) (hbefore : kind.pattern.Literal before)
    (hafter : kind.pattern.Literal after) :
    ((r.pass kind (String.ofList (before ++ kind.pattern.whole inner ++ after)) sources).run.run
        (r.session [] calls).2).1 =
      tie (String.ofList inner) ((r.shows kind sources inner).map fun shown =>
        String.ofList (before ++ shown.toList ++ after)) := by
  have hparts : ∀ part ∈ [(inner, after)],
      kind.pattern.Expression part.1 ∧ kind.pattern.Literal part.2 :=
    List.forall_mem_singleton.mpr ⟨hinner, hafter⟩
  have htext : before ++ kind.pattern.whole inner ++ after =
      kind.pattern.compose before [(inner, after)] := by
    simp [Pattern.compose]
  have hpieces : kind.pattern.pieces (String.ofList (kind.pattern.compose before [(inner, after)])) =
      composedPieces before [(inner, after)] := by
    rw [Pattern.pieces, String.toList_ofList, Pattern.piecesFrom_compose hbefore hparts]
    rfl
  rw [pass_eq, htext, hpieces]
  cases hshows : r.shows kind sources inner with
  | error cause =>
      have hfails : r.rendering kind sources (composedPieces before ([] ++ [(inner, after)])) = _ :=
        rendering_composed_error (List.forall_mem_nil _) hshows
      rw [List.nil_append] at hfails
      rw [hfails]
      rfl
  | ok shown =>
      have hrendered : r.rendering kind sources (composedPieces before [(inner, after)]) = _ :=
        rendering_composed (.cons hshows .nil)
      rw [hrendered]
      simp [Except.map, tie, Except.mapError]

/-- With nothing around it, the text of the placeholder is all that is left. -/
theorem pass_mark (r : Resolver) (calls : List Call) (sources : List Source)
    (hinner : kind.pattern.Expression inner) :
    ((r.pass kind (String.ofList (kind.pattern.whole inner)) sources).run.run
        (r.session [] calls).2).1 =
      tie (String.ofList inner) (r.shows kind sources inner) := by
  have hnothing : kind.pattern.Literal [] := literal_of_blanks kind (List.forall_mem_nil _)
  have hpass := r.pass_whole calls sources hinner hnothing hnothing
  rw [List.nil_append, List.append_nil] at hpass
  rw [hpass]
  cases r.shows kind sources inner with
  | error cause => rfl
  | ok shown => simp [Except.map]

/-- What a mark shows in a line is the text of its cell, brought to its width. -/
theorem shows_eq (r : Resolver) (kind : Placeholder.Kind) (sources : List Source)
    (inner : List Char) :
    r.shows kind sources inner =
      ((Placeholder.read kind (String.ofList inner)).bind fun p => p.toCell r sources).map
        fun cell => Text.pad cell.text (Placeholder.widthOf kind (String.ofList inner))
          (cell.alignment.getD .left) := by
  rw [shows, Placeholder.widthOf]
  cases Placeholder.read kind (String.ofList inner) with
  | error cause => rfl
  | ok p => exact p.render_eq_toCell r sources

/-- Cells and passes of one resolver, after any calls.  Let a column hold a mark that does not hide
where it ends, with blanks around it.  Then a pass over the mark gives what the cell of the column
gives, the same error if there is one, and otherwise the text of the cell brought to the width of
the placeholder in the alignment of the cell, which is left if it has none; blanks around the mark
stay as they are in a pass.  The cell of a bare column, such as one that begins with no mark, is
that of its text between the marks of a member; an error names the text of the placeholder, which
holds the blanks only between marks. -/
theorem cell_agrees_with_pass (r : Resolver) (calls others : List Call) (sources : List Source) :
    let cell := fun column => ((r.cell column sources).run.run (r.session [] calls).2).1
    let pass := fun kind text => ((r.pass kind text sources).run.run (r.session [] others).2).1
    (∀ (kind : Placeholder.Kind) (inner before after : List Char),
      kind.pattern.Expression inner → (∀ c ∈ before, Text.isBlank c = true) →
      (∀ c ∈ after, Text.isBlank c = true) →
      let mark := String.ofList (kind.pattern.whole inner)
      let column := String.ofList (before ++ kind.pattern.whole inner ++ after)
      (pass kind mark = (cell column).map fun shown =>
        Text.pad shown.text (Placeholder.widthOf kind (String.ofList inner))
          (shown.alignment.getD .left)) ∧
      pass kind column = (pass kind mark).map fun shown =>
        String.ofList (before ++ shown.toList ++ after)) ∧
    ∀ column : String, Bare column → ∃ result : Except PlaceholderError Cell,
      cell column = tie (Text.trim column) result ∧
      cell (String.ofList (Pattern.member.whole column.toList)) = tie column result := by
  intro cell pass
  refine ⟨?_, ?_⟩
  · intro kind inner before after hinner hbefore hafter mark column
    have hmark : pass kind mark = tie (String.ofList inner) (r.shows kind sources inner) :=
      r.pass_mark others sources hinner
    refine ⟨?_, ?_⟩
    · show pass kind mark = Except.map _ ((r.cell column sources).run.run _).1
      rw [hmark, cell_eq, cellExpression_whole kind hbefore hafter, shows_eq, tie_map]
    · rw [hmark, ← tie_map]
      exact r.pass_whole others sources hinner (literal_of_blanks kind hbefore)
        (literal_of_blanks kind hafter)
  · intro column hbare
    refine ⟨(Placeholder.readMember column).bind fun p => p.toCell r sources, ?_, ?_⟩
    · show ((r.cell column sources).run.run _).1 = _
      rw [cell_eq, cellExpression_bare hbare, Placeholder.read, Placeholder.readMember_trim]
      cases Placeholder.readMember column <;> rfl
    · show ((r.cell (String.ofList _) sources).run.run _).1 = _
      rw [cell_eq, cellExpression_member]
      rfl

/-- A mark that asks for the right side of four places, in a cell between blanks and in a line; and
a bare member, whose cell is the same between marks. -/
theorem cell_agrees_rightMark :
    Pattern.member.Expression "a:4:right".toList ∧ Bare " a :4" ∧
    ((scriptless.cell "\t$\x7ba:4:right\x7d " [.keyed [("a", .text "x")]]).run.run []).1 =
      .ok { text := "x", numeric := false, alignment := some .right } ∧
    ((scriptless.pass .member "$\x7ba:4:right\x7d" [.keyed [("a", .text "x")]]).run.run []).1 =
      .ok "   x" ∧
    ((scriptless.cell "$\x7b a :4\x7d" [.keyed [("a", .text "x")]]).run.run []).1 =
      .ok { text := "x", numeric := false, alignment := none } := by
  have hinner : Pattern.member.Expression "a:4:right".toList := by decide
  have hbare : Bare " a :4" := by
    apply bare_of_not_opening
    intro kind
    cases kind <;> decide
  have hread : Placeholder.read .member "a:4:right" = .ok {
      kind := .member
      text := "a:4:right"
      base := "a"
      width := 4
      alignment := some .right } := by
    decide
  have hreadBare : Placeholder.read .member "a :4" = .ok {
      kind := .member
      text := "a :4"
      base := "a"
      width := 4 } := by
    decide
  have hcell : ((scriptless.cell "\t$\x7ba:4:right\x7d " [.keyed [("a", .text "x")]]).run.run []).1 =
      .ok { text := "x", numeric := false, alignment := some .right } := by
    have hcolumn : cellExpression "\t$\x7ba:4:right\x7d " = (.member, "a:4:right") := by decide
    refine (cell_eq scriptless [] _ _).trans ?_
    rw [hcolumn, hread]
    rfl
  have hcellBare : ((scriptless.cell " a :4" [.keyed [("a", .text "x")]]).run.run []).1 =
      .ok { text := "x", numeric := false, alignment := none } := by
    have hcolumn : cellExpression " a :4" = (.member, "a :4") := by decide
    refine (cell_eq scriptless [] _ _).trans ?_
    rw [hcolumn, hreadBare]
    rfl
  rcases cell_agrees_with_pass scriptless [] [] [.keyed [("a", .text "x")]] with ⟨hmarks, hplain⟩
  refine ⟨hinner, hbare, hcell, ?_, ?_⟩
  · have hwidth : Placeholder.widthOf .member "a:4:right" = 4 := by
      rw [Placeholder.widthOf, hread]
    have hmark : String.ofList (Pattern.member.whole "a:4:right".toList) = "$\x7ba:4:right\x7d" := by
      decide
    have hcolumn : String.ofList (['\t'] ++ Pattern.member.whole "a:4:right".toList ++ [' ']) =
        "\t$\x7ba:4:right\x7d " := by
      decide
    have hpass := (hmarks .member _ ['\t'] [' '] hinner
      (List.forall_mem_singleton.mpr (by decide)) (List.forall_mem_singleton.mpr (by decide))).1
    simp only [Placeholder.Kind.pattern, hmark, hcolumn, String.ofList_toList, hwidth, session,
      hcell] at hpass
    exact hpass
  · rcases hplain " a :4" hbare with ⟨result, hcolumn, hmarked⟩
    have hresult := hcolumn.symm.trans hcellBare
    cases result with
    | error cause => cases hresult
    | ok shown => exact hmarked.trans hresult

end Resolver

end Platen
