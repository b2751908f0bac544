import Platen.Expansion

/-!
# Remembered placeholders do not show

A resolver remembers the placeholders that it has read.  A memory is sound if it holds what would be
read again.  This module proves that no result depends on a sound memory, and that memories stay
sound.

Main results:

- Theorem `Resolver.transparent_placeholder`: a placeholder is the same whether it is remembered or
  read.
- Theorems `Resolver.transparent_renderText` and `Resolver.transparent_cell`: rendering a text and
  resolving a cell do not depend on what is remembered.
- Theorem `Line.transparent_rowTexts`: nor do the rows of a marker.
-/

namespace Platen

variable {α β : Type}

/-! ## Running computations -/

/-- A computation runs up to its first failure; what was remembered by then stays. -/
theorem run_bind (x : Resolving α) (f : α → Resolving β) (memory : Memory) :
    (x >>= f).run.run memory =
      match x.run.run memory with
      | (.ok a, memory) => (f a).run.run memory
      | (.error e, memory) => (.error e, memory) := by
  rw [ExceptT.run_bind, StateT.run_bind]
  rcases x.run.run memory with ⟨result, after⟩
  cases result <;> rfl

/-- A computation in two parts gives a result only if both parts do. -/
theorem run_bind_ok {x : Resolving α} {f : α → Resolving β} {memory after : Memory} {b : β}
    (hrun : (x >>= f).run.run memory = (.ok b, after)) :
    ∃ a middle, x.run.run memory = (.ok a, middle) ∧
      (f a).run.run middle = (.ok b, after) := by
  rw [run_bind] at hrun
  cases hx : x.run.run memory with
  | mk result middle =>
      rw [hx] at hrun
      cases result with
      | error e => cases hrun
      | ok a => exact ⟨a, middle, rfl, hrun⟩

/-- What may fail without reading placeholders remembers nothing. -/
theorem run_liftM (x : Except FillError α) (memory : Memory) :
    (liftM x : Resolving α).run.run memory = (x, memory) :=
  rfl

/-- What is remembered does not depend on what is made of a result. -/
theorem memory_bind_pure (x : Resolving α) (f : α → β) (memory : Memory) :
    ((x >>= fun a => pure (f a)).run.run memory).2 = (x.run.run memory).2 := by
  rw [run_bind]
  rcases x.run.run memory with ⟨result, after⟩
  cases result <;> rfl

/-! ## Sound memories -/

/-- Whether everything that is remembered would be read again. -/
def Memory.Sound (memory : Memory) : Prop :=
  ∀ kind text p, memory.lookup (kind, text) = some p → Placeholder.read kind text = .ok p

/-- An empty memory is sound. -/
theorem Memory.sound_nil : Memory.Sound [] := by
  intro kind text p hlookup
  simp at hlookup

/-- A memory stays sound when a placeholder is added that was read. -/
theorem Memory.Sound.cons {memory : Memory} (hsound : memory.Sound) {kind : Placeholder.Kind}
    {text : String} {p : Placeholder} (hread : Placeholder.read kind text = .ok p) :
    Memory.Sound (((kind, text), p) :: memory) := by
  intro kind' text' p' hlookup
  rw [List.lookup_cons] at hlookup
  split at hlookup
  · rename_i hkey
    rcases Prod.mk.inj (eq_of_beq hkey) with ⟨rfl, rfl⟩
    cases hlookup
    exact hread
  · exact hsound kind' text' p' hlookup

/-- Whether the result of a computation is the same from every sound memory, and the memory stays
sound. -/
def Transparent (x : Resolving α) : Prop :=
  ∀ memory : Memory, memory.Sound →
    (x.run.run memory).1 = (x.run.run []).1 ∧ (x.run.run memory).2.Sound

namespace Transparent

/-- A given result does not depend on the memory. -/
theorem pure (a : α) : Transparent (pure a : Resolving α) :=
  fun _ hsound => ⟨rfl, hsound⟩

/-- What is computed without reading placeholders does not depend on the memory. -/
theorem lift (x : Except FillError α) : Transparent (liftM x : Resolving α) :=
  fun _ hsound => ⟨rfl, hsound⟩

/-- What follows a transparent computation sees a sound memory, so its result does not depend on the
memory either. -/
theorem bind {x : Resolving α} {f : α → Resolving β} (hx : Transparent x)
    (hf : ∀ a, Transparent (f a)) : Transparent (x >>= f) := by
  intro memory hsound
  rcases hx memory hsound with ⟨hresult, hafter⟩
  rcases hx [] Memory.sound_nil with ⟨-, hfresh⟩
  rw [run_bind, run_bind]
  revert hresult hafter hfresh
  rcases x.run.run memory with ⟨result, after⟩
  rcases x.run.run [] with ⟨result', fresh⟩
  rintro rfl hafter hfresh
  cases result with
  | error e => exact ⟨rfl, hafter⟩
  | ok a =>
      rcases hf a after hafter with ⟨hleft, hkept⟩
      rcases hf a fresh hfresh with ⟨hright, -⟩
      exact ⟨hleft.trans hright.symm, hkept⟩

/-- From every sound memory a transparent computation gives the result that it gives from an empty
one. -/
theorem run_eq {x : Resolving α} (hx : Transparent x) {result : Except FillError α}
    (hfresh : (x.run.run []).1 = result) {memory : Memory} (hsound : memory.Sound) :
    ∃ after : Memory, x.run.run memory = (result, after) ∧ after.Sound := by
  rcases hx memory hsound with ⟨hresult, hafter⟩
  refine ⟨(x.run.run memory).2, ?_, hafter⟩
  rw [← hfresh, ← hresult]
  rfl

end Transparent

/-! ## Resolving -/

namespace Resolver

/-- A placeholder is remembered or read. -/
theorem run_placeholder (kind : Placeholder.Kind) (text : String) (memory : Memory) :
    (placeholder kind text).run.run memory =
      match memory.lookup (kind, text) with
      | some p => (.ok p, memory)
      | none =>
        match tie text (Placeholder.read kind text) with
        | .ok p => (.ok p, ((kind, text), p) :: memory)
        | .error e => (.error e, memory) := by
  show ((get : Resolving Memory) >>= _).run.run memory = _
  rw [run_bind]
  show (match memory.lookup (kind, text) with
    | some p => Pure.pure p
    | none => _ : Resolving Placeholder).run.run memory = _
  split
  · rfl
  · rw [run_bind, run_liftM]
    cases tie text (Placeholder.read kind text) <;> rfl

/-- A placeholder is the same whether it is remembered or read. -/
theorem transparent_placeholder (kind : Placeholder.Kind) (text : String) :
    Transparent (placeholder kind text) := by
  intro memory hsound
  rw [run_placeholder, run_placeholder]
  cases hread : Placeholder.read kind text with
  | error e =>
      have hmiss : memory.lookup (kind, text) = none := by
        cases hlookup : memory.lookup (kind, text) with
        | none => rfl
        | some p =>
            have hknown := hsound kind text p hlookup
            rw [hread] at hknown
            contradiction
      rw [hmiss]
      exact ⟨rfl, hsound⟩
  | ok p =>
      cases hlookup : memory.lookup (kind, text) with
      | none => exact ⟨rfl, hsound.cons hread⟩
      | some p' =>
          have hknown := hsound kind text p' hlookup
          rw [hread] at hknown
          cases hknown
          exact ⟨rfl, hsound⟩

/-- A placeholder is rendered alike from every sound memory. -/
theorem transparent_render (r : Resolver) (kind : Placeholder.Kind) (sources : List Source)
    (text : String) : Transparent (r.render kind sources text) :=
  (transparent_placeholder kind text).bind fun _ => .lift _

/-- Pieces are rendered alike from every sound memory. -/
theorem transparent_renderPieces (r : Resolver) (kind : Placeholder.Kind) (sources : List Source)
    (pieces : List Piece) : Transparent (r.renderPieces kind sources pieces) := by
  induction pieces with
  | nil => exact .pure _
  | cons piece rest ih =>
      cases piece with
      | char c => exact ih.bind fun _ => .pure _
      | hole inner =>
          exact (r.transparent_render kind sources _).bind fun _ => ih.bind fun _ => .pure _

/-- A pass renders a text alike from every sound memory. -/
theorem transparent_pass (r : Resolver) (kind : Placeholder.Kind) (text : String)
    (sources : List Source) : Transparent (r.pass kind text sources) :=
  (r.transparent_renderPieces kind sources _).bind fun _ => .pure _

/-- Rendering a text does not depend on what is remembered. -/
theorem transparent_renderText (r : Resolver) (text : String) (sources : List Source) :
    Transparent (r.renderText text sources) :=
  (r.transparent_pass .member text sources).bind fun member =>
    r.transparent_pass .script member sources

/-- Resolving a cell does not depend on what is remembered. -/
theorem transparent_cell (r : Resolver) (column : String) (sources : List Source) :
    Transparent (r.cell column sources) :=
  (transparent_placeholder _ _).bind fun _ =>
    (Transparent.lift _).bind fun _ => (Transparent.lift _).bind fun _ => .pure _

/-- A resolver that evaluates no expression. -/
def scriptless : Resolver :=
  { evaluate := fun _ _ => .error "" }

end Resolver

/-! ## Rows -/

/-- The cells of a row are the same from every sound memory. -/
theorem Table.transparent_rowCells (table : Table) (r : Resolver) (sources : List Source)
    (index : Nat) (buffer : WrapBuffer) (columns : List Column) :
    Transparent (table.rowCells r sources index buffer columns) := by
  induction columns generalizing index buffer with
  | nil => exact .pure _
  | cons column columns ih =>
      exact (r.transparent_cell column.text sources).bind fun _ =>
        (ih _ _).bind fun _ => .pure _

/-- The lines of the rows of a table are the same from every sound memory. -/
theorem Table.transparent_rowLinesFrom (table : Table) (r : Resolver) (buffer : WrapBuffer)
    (rows : List Value) : Transparent (table.rowLinesFrom r buffer rows) := by
  induction rows generalizing buffer with
  | nil => exact .pure _
  | cons row rows ih =>
      exact (table.transparent_rowCells r _ 0 buffer table.columns).bind fun _ =>
        (ih _).bind fun _ => .pure _

/-- The lines of the rows of a list are the same from every sound memory. -/
theorem Listing.transparent_rowLines (listing : Listing) (r : Resolver) (rows : List Value) :
    Transparent (listing.rowLines r rows) := by
  induction rows with
  | nil => exact .pure _
  | cons row rows ih =>
      exact (r.transparent_renderText listing.template _).bind fun _ => ih.bind fun _ => .pure _

namespace Line

/-- The member path of the rows of a marker. -/
def source? (line : Line) : Option String :=
  match line.content with
  | .table table => some table.source
  | .list listing => some listing.source
  | .text _ | .empty => none

/-- The values behind a marker, one for each row. -/
def rowValues (line : Line) (sources : List Source) : Except FillError (List Value) :=
  match line.content with
  | .table table => resolveRows table.source sources
  | .list listing => resolveRows listing.source sources
  | .text _ | .empty => .ok []

/-- The texts that a marker shows for its rows. -/
def rowTexts (line : Line) (r : Resolver) (sources : List Source) : Resolving (List String) := do
  let rows ← line.rowValues sources
  match line.content with
  | .table table => table.rowLines r rows
  | .list listing => listing.rowLines r rows
  | .text _ | .empty => return []

/-- The rows of a marker do not depend on what is remembered. -/
theorem transparent_rowTexts (line : Line) (r : Resolver) (sources : List Source) :
    Transparent (line.rowTexts r sources) := by
  refine (Transparent.lift _).bind fun rows => ?_
  cases line.content with
  | table table => exact table.transparent_rowLinesFrom r [] rows
  | list listing => exact listing.transparent_rowLines r rows
  | text s => exact .pure _
  | empty => exact .pure _

end Line

end Platen
