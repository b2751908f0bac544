import Mathlib.Data.List.Dedup
import Platen.Proofs.Memory

/-!
# Sessions of a resolver

One resolver serves many texts and cells, from different sources, and remembers the placeholders
that it reads.  A session is a list of such calls.  No call can tell what came before it; all that a
session leaves behind is each placeholder that it came to and could read, once.

Main results:

- Theorem `Resolver.Remembers.placeholder`: how the memory grows with one placeholder.
- Theorem `Resolver.Remembers.answer`: how it grows with one call, also with one that fails midway.
- Theorem `Resolver.Remembers.length_eq`: how many placeholders are remembered.
- Theorem `Resolver.session_spec`: the results of a session and what is remembered after it.
-/

namespace Platen

namespace Resolver

/-! ## Calls -/

/-- The kind and text of a placeholder. -/
abbrev Key := Placeholder.Kind × String

/-- What a resolver can be asked for. -/
inductive Call where
  | pass (kind : Placeholder.Kind) (text : String) (sources : List Source)
  | cell (column : String) (sources : List Source)

/-- What it answers if it does not fail. -/
inductive Answer where
  | text (s : String)
  | cell (cell : Cell)
  deriving DecidableEq, Repr

/-- The answer to a call. -/
def answer (r : Resolver) : Call → Resolving Answer
  | .pass kind text sources => return .text (← r.pass kind text sources)
  | .cell column sources => return .cell (← r.cell column sources)

/-- The results of calls one after the other, and what is remembered after them. -/
def session (r : Resolver) (memory : Memory) :
    List Call → List (Except FillError Answer) × Memory
  | [] => ([], memory)
  | call :: calls =>
    let (result, memory) := (r.answer call).run.run memory
    let (results, memory) := r.session memory calls
    (result :: results, memory)

/-- The result of a call to a resolver that remembers nothing. -/
def alone (r : Resolver) (call : Call) : Except FillError Answer :=
  ((r.answer call).run.run []).1

/-! ## What calls come to -/

/-- Whether a placeholder can be read. -/
def readable (key : Key) : Bool :=
  (Placeholder.read key.1 key.2).isOk

/-- Whether a placeholder can be read and rendered. -/
def renders (r : Resolver) (sources : List Source) (key : Key) : Bool :=
  ((Placeholder.read key.1 key.2).bind fun p => p.render sources r.evaluate r.style).isOk

/-- The placeholders that are come to in pieces: all of them up to the first that cannot be read and
rendered. -/
def reachedIn (r : Resolver) (kind : Placeholder.Kind) (sources : List Source) :
    List Piece → List Key
  | [] => []
  | .char _ :: rest => r.reachedIn kind sources rest
  | .hole inner :: rest =>
    (kind, String.ofList inner) ::
      if r.renders sources (kind, String.ofList inner) then r.reachedIn kind sources rest else []

/-- The placeholders that a call comes to. -/
def reached (r : Resolver) : Call → List Key
  | .pass kind text sources => r.reachedIn kind sources (kind.pattern.pieces text)
  | .cell column _ => [cellExpression column]

/-! ## What is remembered -/

/-- What a memory holds after placeholders have been come to: each of them that can be read, with
what is read, and none of them twice. -/
structure Remembers (memory : Memory) (keys : List Key) : Prop where
  read : ∀ entry ∈ memory, Placeholder.read entry.1.1 entry.1.2 = .ok entry.2
  nodup : (memory.map Prod.fst).Nodup
  mem_iff : ∀ key, key ∈ memory.map Prod.fst ↔ key ∈ keys ∧ readable key = true

namespace Remembers

variable {memory : Memory} {keys : List Key}

theorem nil : Remembers [] [] where
  read := by simp
  nodup := List.nodup_nil
  mem_iff := by simp

/-- What is remembered is sound. -/
theorem sound (hremembers : Remembers memory keys) : memory.Sound := by
  intro kind text p hlookup
  rcases List.lookup_eq_some_iff.mp hlookup with ⟨before, after, rfl, -⟩
  exact hremembers.read _ (List.mem_append_right before List.mem_cons_self)

/-- As many placeholders are remembered as different ones could be read. -/
theorem length_eq (hremembers : Remembers memory keys) :
    memory.length = (keys.filter readable).dedup.length := by
  have hperm : (memory.map Prod.fst).Perm (keys.filter readable).dedup := by
    rw [List.perm_ext_iff_of_nodup hremembers.nodup (List.nodup_dedup _)]
    intro key
    rw [hremembers.mem_iff, List.mem_dedup, List.mem_filter]
  rw [← hperm.length_eq, List.length_map]

/-- Coming to a placeholder changes nothing if it is remembered or cannot be read. -/
theorem again (hremembers : Remembers memory keys) {key : Key}
    (hkey : readable key = true → key ∈ memory.map Prod.fst) :
    Remembers memory (keys ++ [key]) where
  read := hremembers.read
  nodup := hremembers.nodup
  mem_iff := by
    intro other
    constructor
    · intro hother
      rcases (hremembers.mem_iff other).mp hother with ⟨hold, hread⟩
      exact ⟨List.mem_append_left _ hold, hread⟩
    · rintro ⟨hother, hread⟩
      rcases List.mem_append.mp hother with hold | hnew
      · exact (hremembers.mem_iff other).mpr ⟨hold, hread⟩
      · rw [List.mem_singleton.mp hnew] at hread ⊢
        exact hkey hread

/-- A placeholder that is read for the first time is remembered. -/
theorem learn (hremembers : Remembers memory keys) {key : Key} {p : Placeholder}
    (hread : Placeholder.read key.1 key.2 = .ok p) (hnew : key ∉ memory.map Prod.fst) :
    Remembers ((key, p) :: memory) (keys ++ [key]) where
  read := by
    intro entry hentry
    rcases List.mem_cons.mp hentry with rfl | hold
    · exact hread
    · exact hremembers.read entry hold
  nodup := List.nodup_cons.mpr ⟨hnew, hremembers.nodup⟩
  mem_iff := by
    intro other
    have hreadable : readable key = true := by
      rw [readable, hread]
      rfl
    rw [List.map_cons, List.mem_cons, hremembers.mem_iff, List.mem_append, List.mem_singleton]
    constructor
    · rintro (rfl | ⟨hold, hother⟩)
      · exact ⟨.inr rfl, hreadable⟩
      · exact ⟨.inl hold, hother⟩
    · rintro ⟨hold | rfl, hother⟩
      · exact .inr ⟨hold, hother⟩
      · exact .inl rfl

/-- A placeholder is what would be read, and it is remembered if it can be read. -/
theorem placeholder (hremembers : Remembers memory keys) (kind : Placeholder.Kind)
    (text : String) :
    ∃ after, (placeholder kind text).run.run memory =
        (tie text (Placeholder.read kind text), after) ∧
      Remembers after (keys ++ [(kind, text)]) := by
  rw [run_placeholder]
  cases hlookup : memory.lookup (kind, text) with
  | some p =>
      have hread := hremembers.sound kind text p hlookup
      have hknown : (kind, text) ∈ memory.map Prod.fst := by
        rcases List.lookup_eq_some_iff.mp hlookup with ⟨before, after, rfl, -⟩
        simp
      rw [hread]
      exact ⟨memory, rfl, hremembers.again fun _ => hknown⟩
  | none =>
      have hnew : (kind, text) ∉ memory.map Prod.fst := by
        intro hmem
        rcases List.mem_map.mp hmem with ⟨entry, hentry, hkey⟩
        have hne := List.lookup_eq_none_iff.mp hlookup entry hentry
        rw [hkey] at hne
        simp at hne
      cases hread : Placeholder.read kind text with
      | error e =>
          refine ⟨memory, rfl, hremembers.again fun hreadable => ?_⟩
          rw [readable, hread] at hreadable
          cases hreadable
      | ok p => exact ⟨((kind, text), p) :: memory, rfl, hremembers.learn hread hnew⟩

/-- What is done with a placeholder leaves the memory as it is. -/
theorem render (hremembers : Remembers memory keys) (r : Resolver) (kind : Placeholder.Kind)
    (sources : List Source) (text : String) :
    ∃ result after, (r.render kind sources text).run.run memory = (result, after) ∧
      result.isOk = r.renders sources (kind, text) ∧
      Remembers after (keys ++ [(kind, text)]) := by
  rcases hremembers.placeholder kind text with ⟨after, hrun, hafter⟩
  rw [Resolver.render, run_bind, hrun, renders]
  cases Placeholder.read kind text with
  | error e => exact ⟨_, after, rfl, rfl, hafter⟩
  | ok p =>
      refine ⟨tie text (p.render sources r.evaluate r.style), after, rfl, ?_, hafter⟩
      show _ = (p.render sources r.evaluate r.style).isOk
      cases p.render sources r.evaluate r.style <;> rfl

/-- Pieces are rendered up to the first placeholder that cannot be. -/
theorem renderPieces (hremembers : Remembers memory keys) (r : Resolver)
    (kind : Placeholder.Kind) (sources : List Source) (pieces : List Piece) :
    Remembers ((r.renderPieces kind sources pieces).run.run memory).2
      (keys ++ r.reachedIn kind sources pieces) := by
  induction pieces generalizing memory keys with
  | nil =>
      rw [reachedIn, List.append_nil]
      exact hremembers
  | cons piece rest ih =>
      cases piece with
      | char c =>
          rw [Resolver.renderPieces, memory_bind_pure]
          exact ih hremembers
      | hole inner =>
          rcases hremembers.render r kind sources (String.ofList inner) with
            ⟨result, after, hrun, hrenders, hafter⟩
          rw [Resolver.renderPieces, run_bind, hrun, reachedIn, ← hrenders]
          cases result with
          | error e =>
              -- the pieces behind the failure are not come to
              exact hafter
          | ok shown =>
              have hrest := ih hafter
              rw [List.append_assoc] at hrest
              simp only [memory_bind_pure]
              exact hrest

/-- A call adds the placeholders that it comes to, also if it fails. -/
theorem answer (hremembers : Remembers memory keys) (r : Resolver) (call : Call) :
    Remembers ((r.answer call).run.run memory).2 (keys ++ r.reached call) := by
  cases call with
  | pass kind text sources =>
      rw [Resolver.answer, memory_bind_pure, Resolver.pass, memory_bind_pure]
      exact hremembers.renderPieces r kind sources _
  | cell column sources =>
      rw [Resolver.answer, memory_bind_pure]
      rcases hremembers.placeholder (cellExpression column).1 (cellExpression column).2 with
        ⟨after, hrun, hafter⟩
      have hkept : ((r.cell column sources).run.run memory).2 = after := by
        rw [cell, run_bind, hrun]
        cases Placeholder.read (cellExpression column).1 (cellExpression column).2 with
        | error e => rfl
        | ok p =>
            show (((liftM (tie _ (p.value sources r.evaluate)) : Resolving Value) >>= _).run.run
              after).2 = after
            rw [run_bind, run_liftM]
            cases tie (cellExpression column).2 (p.value sources r.evaluate) with
            | error e => rfl
            | ok v => exact memory_bind_pure (liftM (tie _ (p.renderValue v r.style))) _ after
      rw [hkept]
      exact hafter

/-- A session adds the placeholders that its calls come to. -/
theorem session (hremembers : Remembers memory keys) (r : Resolver) (calls : List Call) :
    Remembers (r.session memory calls).2 (keys ++ calls.flatMap r.reached) := by
  induction calls generalizing memory keys with
  | nil =>
      rw [List.flatMap_nil, List.append_nil]
      exact hremembers
  | cons call calls ih =>
      rw [List.flatMap_cons, ← List.append_assoc]
      exact ih (hremembers.answer r call)

end Remembers

/-! ## Results -/

/-- The answer to a call does not depend on what is remembered. -/
theorem transparent_answer (r : Resolver) (call : Call) : Transparent (r.answer call) := by
  cases call with
  | pass kind text sources => exact (r.transparent_pass kind text sources).bind fun _ => .pure _
  | cell column sources => exact (r.transparent_cell column sources).bind fun _ => .pure _

/-- From a sound memory every call of a session has the result that it has alone. -/
theorem session_results (r : Resolver) (calls : List Call) {memory : Memory}
    (hsound : memory.Sound) : (r.session memory calls).1 = calls.map r.alone := by
  induction calls generalizing memory with
  | nil => rfl
  | cons call calls ih =>
      rcases r.transparent_answer call memory hsound with ⟨hresult, hafter⟩
      rw [List.map_cons, ← ih hafter, alone, ← hresult]
      rfl

/-- What a session of calls gives and leaves behind.  Every call has the result, answer or error,
that it has with a resolver that remembers nothing.  Every placeholder that is remembered is what is
read from its kind and text, and none is remembered twice.  There are as many as the calls came to
different ones that could be read; a call comes to its placeholders from left to right, up to the
first that cannot be read and rendered. -/
theorem session_spec (r : Resolver) (calls : List Call) :
    (r.session [] calls).1 = calls.map r.alone ∧
      (∀ entry ∈ (r.session [] calls).2,
        Placeholder.read entry.1.1 entry.1.2 = .ok entry.2) ∧
      ((r.session [] calls).2.map Prod.fst).Nodup ∧
      (r.session [] calls).2.length =
        ((calls.flatMap r.reached).filter readable).dedup.length := by
  have hremembers := Remembers.nil.session r calls
  rw [List.nil_append] at hremembers
  exact ⟨r.session_results calls Memory.sound_nil, hremembers.read, hremembers.nodup,
    hremembers.length_eq⟩

/-- The second placeholder cannot be rendered, so the third is not come to; the first two are
remembered. -/
example :
    (scriptless.session [] [.pass .member "$\x7ba\x7d$\x7bb\x7d$\x7bc\x7d"
      [.keyed [("a", .text "x")]]]).2.length = 2 := by
  cbv

end Resolver

end Platen
