import Platen.Placeholder.Render

/-!
# Resolving the placeholders of a text

A resolver carries an evaluator and a number style.  It remembers every placeholder that it has
read, by kind and text; values are resolved anew each time.  What was remembered stays remembered
when a later step fails.
-/

namespace Platen

/-- The placeholders read so far. -/
abbrev Memory := List ((Placeholder.Kind × String) × Placeholder)

/-- A computation that may read placeholders and may fail. -/
abbrev Resolving (α : Type) := ExceptT FillError (StateM Memory) α

/-- How values are computed and shown. -/
structure Resolver where
  evaluate : Evaluator
  style : NumberStyle := {}

/-- A resolved cell of a table. -/
structure Cell where
  text : String
  /-- Whether the cell holds a number, so that it stands to the right by default. -/
  numeric : Bool
  alignment : Option Alignment
  deriving DecidableEq, Repr

namespace Resolver

/-- Ties the cause of a failure to the text of the placeholder. -/
def tie {α : Type} (expression : String) (result : Except PlaceholderError α) :
    Except FillError α :=
  result.mapError (.invalidPlaceholder expression)

/-- The placeholder with a given text, read only once. -/
def placeholder (kind : Placeholder.Kind) (text : String) : Resolving Placeholder := do
  match (← get).lookup (kind, text) with
  | some p => return p
  | none =>
    let p ← tie text (Placeholder.read kind text)
    modify (((kind, text), p) :: ·)
    return p

/-- The text that a placeholder with a given text leaves in a line. -/
def render (r : Resolver) (kind : Placeholder.Kind) (sources : List Source) (text : String) :
    Resolving String := do
  let p ← placeholder kind text
  tie text (p.render sources r.evaluate r.style)

/-- The text of pieces with the placeholders in them rendered from left to right. -/
def renderPieces (r : Resolver) (kind : Placeholder.Kind) (sources : List Source) :
    List Piece → Resolving (List Char)
  | [] => return []
  | .char c :: rest => return c :: (← r.renderPieces kind sources rest)
  | .hole inner :: rest => do
    let shown ← r.render kind sources (String.ofList inner)
    return shown.toList ++ (← r.renderPieces kind sources rest)

/-- A text with all placeholders of one kind rendered; what they leave is not read again. -/
def pass (r : Resolver) (kind : Placeholder.Kind) (text : String) (sources : List Source) :
    Resolving String :=
  return String.ofList (← r.renderPieces kind sources (kind.pattern.pieces text))

/-- A text with its member placeholders and then its script placeholders rendered. -/
def renderText (r : Resolver) (text : String) (sources : List Source) : Resolving String := do
  r.pass .script (← r.pass .member text sources) sources

/-- The kind and text of the placeholder that a table column holds: an expression in double
braces, or a member path with or without its marks. -/
def cellExpression (column : String) : Placeholder.Kind × String :=
  let trimmed := Text.trimBlanks column.toList
  let inside (pattern : Pattern) :=
    (Text.dropStart? pattern.opening trimmed).bind (Text.dropStop? pattern.closing)
  match inside .script with
  | some inner => (.script, String.ofList inner)
  | none =>
    match inside .member with
    | some inner => (.member, String.ofList inner)
    | none => (.member, String.ofList trimmed)

/-- The cell of a table column. -/
def cell (r : Resolver) (column : String) (sources : List Source) : Resolving Cell := do
  let (kind, text) := cellExpression column
  let p ← placeholder kind text
  let v ← tie text (p.value sources r.evaluate)
  let shown ← tie text (p.renderValue v r.style)
  return {
    text := shown
    numeric := v.isNumeric || p.aggregate.isSome || p.formatter.any Formatter.isNumeric
    alignment := p.alignment }

end Resolver

end Platen
