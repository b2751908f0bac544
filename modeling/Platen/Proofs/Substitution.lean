import Platen.Proofs.Isolation
import Platen.Proofs.Sessions

/-!
# Passes as substitutions

A pass puts the rendered text of each placeholder in its place.  It goes once from left to right:
what a placeholder leaves is not read again, and nothing else of the text changes.  The first
placeholder that cannot be read or rendered ends the pass.

Main results:

- Theorem `Resolver.rendering_composed`: what a pass leaves of a text of which every placeholder can
  be shown.
- Theorem `Resolver.rendering_composed_error`: the error of a pass is that of the leftmost
  placeholder that cannot be shown.
- Theorem `Resolver.pass_substitutes`: passes of a resolver after any calls.
-/

namespace Platen.Resolver

variable {r : Resolver} {kind : Placeholder.Kind} {sources : List Source}

/-! ## Rendering pieces -/

/-- The text that a placeholder leaves: it is read and rendered. -/
def shows (r : Resolver) (kind : Placeholder.Kind) (sources : List Source) (inner : List Char) :
    Except PlaceholderError String :=
  (Placeholder.read kind (String.ofList inner)).bind fun p =>
    p.render sources r.evaluate r.style

/-- What pieces are rendered to with a resolver that remembers nothing. -/
def rendering (r : Resolver) (kind : Placeholder.Kind) (sources : List Source)
    (pieces : List Piece) : Except FillError (List Char) :=
  ((r.renderPieces kind sources pieces).run.run []).1

/-- Characters stay as they are. -/
theorem rendering_chars (cs : List Char) (rest : List Piece) :
    r.rendering kind sources (cs.map Piece.char ++ rest) =
      (r.rendering kind sources rest).map (cs ++ ·) := by
  rw [rendering, run_renderPieces_chars, rendering]

/-- A placeholder is rendered by reading and rendering it. -/
theorem render_eq (r : Resolver) (kind : Placeholder.Kind) (sources : List Source)
    (inner : List Char) :
    ((r.render kind sources (String.ofList inner)).run.run []).1 =
      tie (String.ofList inner) (r.shows kind sources inner) := by
  rw [render, run_bind, run_placeholder, shows]
  simp only [List.lookup_nil]
  cases Placeholder.read kind (String.ofList inner) with
  | error cause => rfl
  | ok p => rfl

/-- A placeholder that cannot be shown ends the rendering. -/
theorem rendering_hole_error {inner : List Char} {cause : PlaceholderError}
    (hshows : r.shows kind sources inner = .error cause) (rest : List Piece) :
    r.rendering kind sources (.hole inner :: rest) =
      .error (.invalidPlaceholder (String.ofList inner) cause) := by
  have hrender := r.render_eq kind sources inner
  rw [hshows] at hrender
  rw [rendering, renderPieces, run_bind]
  revert hrender
  rcases (r.render kind sources (String.ofList inner)).run.run [] with ⟨result, after⟩
  rintro rfl
  rfl

/-- The text of a placeholder that can be shown stands before what the rest is rendered to. -/
theorem rendering_hole_ok {inner : List Char} {shown : String}
    (hshows : r.shows kind sources inner = .ok shown) (rest : List Piece) :
    r.rendering kind sources (.hole inner :: rest) =
      (r.rendering kind sources rest).map (shown.toList ++ ·) := by
  have hrender := r.render_eq kind sources inner
  have hsound := (r.transparent_render kind sources (String.ofList inner) [] Memory.sound_nil).2
  rw [hshows] at hrender
  rw [rendering, renderPieces, run_bind]
  revert hrender hsound
  rcases (r.render kind sources (String.ofList inner)).run.run [] with ⟨result, after⟩
  rintro rfl hsound
  -- the rest is rendered from what is remembered by then, which makes no difference
  have hrest := (r.transparent_renderPieces kind sources rest after hsound).1
  rw [rendering, ← hrest]
  show ((r.renderPieces kind sources rest >>= fun out => pure (shown.toList ++ out)).run.run
    after).1 = _
  rw [run_bind]
  rcases (r.renderPieces kind sources rest).run.run after with ⟨result, last⟩
  cases result <;> rfl

/-! ## Texts put together from literal texts and placeholders -/

/-- The pieces of a text that is put together from literal texts and placeholders. -/
def composedPieces (first : List Char) (parts : List (List Char × List Char)) : List Piece :=
  first.map Piece.char ++ parts.flatMap fun part => .hole part.1 :: part.2.map Piece.char

theorem composedPieces_cons (first : List Char) (part : List Char × List Char)
    (parts : List (List Char × List Char)) :
    composedPieces first (part :: parts) =
      first.map Piece.char ++ .hole part.1 :: composedPieces part.2 parts := by
  simp only [composedPieces, List.flatMap_cons, List.cons_append]

/-- The literal texts stay, and every placeholder is replaced by its text. -/
theorem rendering_composed {first : List Char} {parts : List (List Char × List Char)}
    {shown : List String}
    (hshown : List.Forall₂ (fun part text => r.shows kind sources part.1 = .ok text) parts shown) :
    r.rendering kind sources (composedPieces first parts) =
      .ok (first ++ (List.zipWith (fun part text => text.toList ++ part.2) parts
        shown).flatten) := by
  induction hshown generalizing first with
  | nil =>
      rw [composedPieces, List.flatMap_nil, rendering_chars]
      rfl
  | cons hfirst _ ih =>
      rw [composedPieces_cons, rendering_chars, rendering_hole_ok hfirst, ih]
      simp [Except.map]

/-- The leftmost placeholder that cannot be shown gives the error. -/
theorem rendering_composed_error {first : List Char} {before after : List (List Char × List Char)}
    {part : List Char × List Char} {cause : PlaceholderError}
    (hbefore : ∀ earlier ∈ before, ∃ text, r.shows kind sources earlier.1 = .ok text)
    (hpart : r.shows kind sources part.1 = .error cause) :
    r.rendering kind sources (composedPieces first (before ++ part :: after)) =
      .error (.invalidPlaceholder (String.ofList part.1) cause) := by
  induction before generalizing first with
  | nil =>
      rw [List.nil_append, composedPieces_cons, rendering_chars, rendering_hole_error hpart]
      rfl
  | cons earlier before ih =>
      rcases List.forall_mem_cons.mp hbefore with ⟨⟨text, hearlier⟩, hbefore⟩
      rw [List.cons_append, composedPieces_cons, rendering_chars, rendering_hole_ok hearlier,
        ih hbefore]
      rfl

/-! ## Passes -/

/-- A pass renders the pieces of its text, whatever the calls before it have left behind. -/
theorem pass_eq (r : Resolver) (calls : List Call) (kind : Placeholder.Kind) (text : String)
    (sources : List Source) :
    ((r.pass kind text sources).run.run (r.session [] calls).2).1 =
      (r.rendering kind sources (kind.pattern.pieces text)).map String.ofList := by
  have hsound : (r.session [] calls).2.Sound := (Remembers.nil.session r calls).sound
  rw [(r.transparent_pass kind text sources _ hsound).1, pass, run_bind, rendering]
  rcases (r.renderPieces kind sources (kind.pattern.pieces text)).run.run [] with ⟨result, after⟩
  cases result <;> rfl

/-- What a pass makes of a text, after any calls of the resolver.  Let the text be put together from
literal texts, in which no mark opens, and placeholders, whose expressions do not hide where they
end.  If every placeholder can be read and rendered, then the text of each stands in its place, and
the literal texts are unchanged; rendered texts are not read again, whatever they hold.  Otherwise
the leftmost placeholder that cannot be shown gives the error, tied to its expression.  A text in
which no placeholder stands is left as it is. -/
theorem pass_substitutes (r : Resolver) (calls : List Call) (kind : Placeholder.Kind)
    (sources : List Source) :
    let pass := fun text => ((r.pass kind text sources).run.run (r.session [] calls).2).1
    (∀ (first : List Char) (parts : List (List Char × List Char)), kind.pattern.Literal first →
      (∀ part ∈ parts, kind.pattern.Expression part.1 ∧ kind.pattern.Literal part.2) →
      (∀ shown : List String,
        List.Forall₂ (fun part text => r.shows kind sources part.1 = .ok text) parts shown →
        pass (String.ofList (kind.pattern.compose first parts)) =
          .ok (String.ofList (first ++ (List.zipWith (fun part text => text.toList ++ part.2) parts
            shown).flatten))) ∧
      ∀ before part after cause, parts = before ++ part :: after →
        (∀ earlier ∈ before, ∃ text, r.shows kind sources earlier.1 = .ok text) →
        r.shows kind sources part.1 = .error cause →
        pass (String.ofList (kind.pattern.compose first parts)) =
          .error (.invalidPlaceholder (String.ofList part.1) cause)) ∧
    ∀ text : String,
      (∀ inner, kind.pattern.Inside inner → ¬kind.pattern.whole inner <:+: text.toList) →
      pass text = .ok text := by
  intro pass
  have hpass : ∀ text, pass text =
      (r.rendering kind sources (kind.pattern.pieces text)).map String.ofList :=
    fun text => r.pass_eq calls kind text sources
  refine ⟨?_, ?_⟩
  · intro first parts hfirst hparts
    have hpieces : kind.pattern.pieces (String.ofList (kind.pattern.compose first parts)) =
        composedPieces first parts := by
      rw [Pattern.pieces, String.toList_ofList, Pattern.piecesFrom_compose hfirst hparts]
      rfl
    refine ⟨?_, ?_⟩
    · intro shown hshown
      rw [hpass, hpieces, rendering_composed hshown]
      rfl
    · rintro before part after cause rfl hbefore hpart
      rw [hpass, hpieces, rendering_composed_error hbefore hpart]
      rfl
  · intro text hunmarked
    have hplain : kind.pattern.holes text = [] :=
      Pattern.holes_eq_nil_iff.mpr fun inner hmem =>
        hunmarked inner (Pattern.whole_infix_of_mem_piecesFrom hmem).1
          (Pattern.whole_infix_of_mem_piecesFrom hmem).2
    show ((r.pass kind text sources).run.run _).1 = _
    rw [r.run_pass_of_unmarked hplain]

/-- Two placeholders side by side between stray marks; what the second one leaves looks like the
first one and is not read again. -/
theorem pass_strayMarks :
    Pattern.member.Literal "$".toList ∧ Pattern.member.Literal "\x7d$".toList ∧
    Pattern.member.Expression "a".toList ∧ Pattern.member.Expression "b".toList ∧
    ((scriptless.pass .member "$$\x7ba\x7d$\x7bb\x7d\x7d$"
      [.keyed [("a", .text "x"), ("b", .text "$\x7ba\x7d")]]).run.run []).1 =
        .ok "$x$\x7ba\x7d\x7d$" := by
  have hfirst : Pattern.member.Literal "$".toList := by decide
  have hlast : Pattern.member.Literal "\x7d$".toList := by decide
  have ha : Pattern.member.Expression "a".toList := by decide
  have hb : Pattern.member.Expression "b".toList := by decide
  refine ⟨hfirst, hlast, ha, hb, ?_⟩
  have hparts : ∀ part ∈ [("a".toList, []), ("b".toList, "\x7d$".toList)],
      Pattern.member.Expression part.1 ∧ Pattern.member.Literal part.2 := by decide
  have hshown : List.Forall₂
      (fun part text => scriptless.shows .member
        [.keyed [("a", .text "x"), ("b", .text "$\x7ba\x7d")]] part.1 = .ok text)
      [("a".toList, []), ("b".toList, "\x7d$".toList)] ["x", "$\x7ba\x7d"] :=
    .cons (by rfl) (.cons (by rfl) .nil)
  exact ((pass_substitutes scriptless [] .member _).1 _ _ hfirst hparts).1 _ hshown

end Platen.Resolver
