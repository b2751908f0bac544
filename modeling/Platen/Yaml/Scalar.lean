import Platen.Yaml.Glyph

/-!
# Scalars

A scalar is written plain, between quotes, or as a block of indented lines.  In plain and quoted
scalars a single line end becomes a space and further ones stay; a literal block keeps its line ends
and a folded one joins lines that both begin without white space.
-/

namespace Platen.Yaml

/-- How a scalar is written. -/
inductive Style where
  | plain
  | quoted
  | literal
  | folded
  deriving DecidableEq, Repr

/-! ## White space inside scalars -/

/-- White space between two parts of a scalar: either within a line, or with line ends. -/
structure Gap where
  blanks : List Char := []
  breaks : List Char := []

/-- What a gap contributes to the text. -/
def Gap.text (gap : Gap) : List Char :=
  match gap.breaks with
  | [] => gap.blanks
  | ['\n'] => [' ']
  | '\n' :: rest => rest
  | breaks => breaks

/-- Line ends and the white space between them.  Tabs before column `indent` are refused. -/
def readBreaks? (indent : Nat) : List Glyph → Option (List Char × List Glyph)
  | [] => some ([], [])
  | g :: rest =>
    if isBreak g.char then (readBreaks? indent rest).map fun (breaks, gs) => (g.char :: breaks, gs)
    else if g.char == '\t' && g.column < indent then none
    else if isBlank g.char then readBreaks? indent rest
    else some ([], g :: rest)

/-- A gap, and what follows it. -/
def readGap? (indent : Nat) (gs : List Glyph) : Option (Gap × List Glyph) :=
  let (blanks, rest) := spanGlyphs isBlank gs
  if rest.isEmpty || !atLineEnd rest then some ({ blanks }, rest)
  else (readBreaks? indent rest).map fun (breaks, gs) => ({ breaks }, gs)

/-! ## Plain scalars -/

/-- Whether a character ends a plain scalar inside brackets or braces. -/
def isFlowMark (c : Char) : Bool :=
  c == ',' || c == '[' || c == ']' || c == '\x7b' || c == '\x7d'

/-- The characters of a plain scalar up to the next white space or to a mark that ends it.  Inside
brackets a colon right before another mark is refused. -/
def plainChunk? (flow : Bool) : List Glyph → Option (List Char × List Glyph)
  | [] => some ([], [])
  | g :: rest =>
    if isSpace g.char then some ([], g :: rest)
    else if g.char == ':' && flow && rest.head?.any (fun h => isFlowMark h.char || h.char == '?')
    then none
    else if (g.char == ':' && atSpace rest) || (flow && isFlowMark g.char) then some ([], g :: rest)
    else (plainChunk? flow rest).map fun (chunk, gs) => (g.char :: chunk, gs)

/-- Whether a line that begins at a glyph still belongs to a plain scalar. -/
def continues (flow : Bool) (indent : Nat) : List Glyph → Bool
  | [] => false
  | g :: _ => flow || indent ≤ g.column

/-- A plain scalar from a chunk on, after the text `lead` that joins the chunk to what comes before
it.  The second result says whether the scalar is followed by a line end. -/
def plainFrom? (flow : Bool) (indent : Nat) :
    Nat → List Char → Bool → List Glyph → Option (List Char × Bool × List Glyph)
  | 0, _, _, _ => none
  | fuel + 1, lead, broken, gs =>
    if atMark gs || atChar '#' gs then some ([], broken, gs)
    else do
      let (chunk, rest) ← plainChunk? flow gs
      let shown := if chunk.isEmpty then [] else lead ++ chunk
      if rest.isEmpty || !atSpace rest then some (shown, broken && chunk.isEmpty, rest)
      else
        let (gap, rest) ← readGap? indent rest
        let broken := !gap.breaks.isEmpty
        if continues flow indent rest then
          let (more, broken, rest) ← plainFrom? flow indent fuel gap.text broken rest
          some (shown ++ more, broken, rest)
        else some (shown, broken, rest)

/-- A plain scalar whose further lines begin at column `indent` or after it. -/
def readPlain? (flow : Bool) (indent : Nat) (gs : List Glyph) :
    Option (List Char × Bool × List Glyph) :=
  plainFrom? flow indent (gs.length + 1) [] false gs

/-! ## Quoted scalars -/

/-- The value of a hexadecimal digit. -/
def hexDigit? (c : Char) : Option Nat :=
  if c.isDigit then some (c.toNat - '0'.toNat)
  else if 'a' ≤ c && c ≤ 'f' then some (c.toNat - 'a'.toNat + 10)
  else if 'A' ≤ c && c ≤ 'F' then some (c.toNat - 'A'.toNat + 10)
  else none

/-- A number of `digits` hexadecimal digits, and what follows them. -/
def readHex? : Nat → Nat → List Glyph → Option (Nat × List Glyph)
  | value, 0, gs => some (value, gs)
  | _, _ + 1, [] => none
  | value, digits + 1, g :: rest => do
    let digit ← hexDigit? g.char
    readHex? (16 * value + digit) digits rest

/-- The character with a code, if the code is one of a character. -/
def charOfCode? (code : Nat) : Option Char :=
  if code.isValidChar then some (Char.ofNat code) else none

/-- The character that a letter after a backslash stands for. -/
def escapedChar? (c : Char) : Option Char :=
  match c with
  | '0' => some '\x00'
  | 'a' => some '\x07'
  | 'b' => some '\x08'
  | 't' | '\t' => some '\t'
  | 'n' => some '\n'
  | 'v' => some '\x0b'
  | 'f' => some '\x0c'
  | 'r' => some '\r'
  | 'e' => some '\x1b'
  | ' ' => some ' '
  | '"' => some '"'
  | '/' => some '/'
  | '\\' => some '\\'
  | 'N' => some '\u0085'
  | '_' => some '\u00a0'
  | 'L' => some '\u2028'
  | 'P' => some '\u2029'
  | _ => none

/-- The number of hexadecimal digits that a letter after a backslash announces. -/
def codeLength? (c : Char) : Option Nat :=
  match c with
  | 'x' => some 2
  | 'u' => some 4
  | 'U' => some 8
  | _ => none

/-- What a backslash and the glyphs after it stand for. -/
def readEscape? : List Glyph → Option (List Char × List Glyph)
  | [] => none
  | g :: rest =>
    if isBreak g.char then readBreaks? 0 rest
    else
      match codeLength? g.char with
      | some digits => do
        let (code, rest) ← readHex? 0 digits rest
        let c ← charOfCode? code
        some ([c], rest)
      | none => do
        let c ← escapedChar? g.char
        some ([c], rest)

/-- The quotes that a scalar can stand between. -/
inductive Quote where
  | single
  | double
  deriving DecidableEq, Repr

/-- The character of a quote. -/
def Quote.char : Quote → Char
  | .single => '\''
  | .double => '"'

/-- The text up to the closing quote. -/
def quotedFrom? (quote : Quote) : Nat → List Glyph → Option (List Char × List Glyph)
  | 0, _ => none
  | _, [] => none
  | fuel + 1, g :: rest =>
    if atMark (g :: rest) then none
    else if g.char == quote.char then
      if quote = .single && atChar quote.char rest then
        (quotedFrom? quote fuel (rest.drop 1)).map fun (text, gs) => (g.char :: text, gs)
      else some ([], rest)
    else if quote = .double && g.char == '\\' then do
      let (escaped, rest) ← readEscape? rest
      let (text, rest) ← quotedFrom? quote fuel rest
      some (escaped ++ text, rest)
    else if isSpace g.char then do
      let (gap, rest) ← readGap? 0 (g :: rest)
      let (text, rest) ← quotedFrom? quote fuel rest
      some (gap.text ++ text, rest)
    else (quotedFrom? quote fuel rest).map fun (text, gs) => (g.char :: text, gs)

/-- The text up to the closing quote, and what follows the quote. -/
def readQuoted? (quote : Quote) (gs : List Glyph) : Option (List Char × List Glyph) :=
  quotedFrom? quote (gs.length + 1) gs

/-! ## Block scalars -/

/-- What becomes of the line ends at the end of a block scalar. -/
inductive Chomping where
  /-- All are dropped. -/
  | strip
  /-- The first is kept. -/
  | clip
  /-- All are kept. -/
  | keep
  deriving DecidableEq, Repr

/-- The chomping that a character asks for. -/
def Chomping.ofChar? (c : Char) : Option Chomping :=
  match c with
  | '-' => some .strip
  | '+' => some .keep
  | _ => none

/-- The chomping of a block scalar, if it is given next. -/
def readChomping (gs : List Glyph) : Option Chomping × List Glyph :=
  match gs with
  | [] => (none, [])
  | g :: rest =>
    match Chomping.ofChar? g.char with
    | some chomping => (some chomping, rest)
    | none => (none, gs)

/-- The indentation of a block scalar, zero if it is not given next.  It cannot be given as zero. -/
def readIndentation? (gs : List Glyph) : Option (Nat × List Glyph) :=
  match gs with
  | [] => some (0, [])
  | g :: rest =>
    if g.char == '0' then none
    else if g.char.isDigit then some (g.char.toNat - '0'.toNat, rest)
    else some (0, gs)

/-- The chomping and the indentation of a block scalar, in either order, up to the end of the
line. -/
def readBlockHeader? (gs : List Glyph) : Option (Chomping × Nat × List Glyph) := do
  let (before, gs) := readChomping gs
  let (indentation, gs) ← readIndentation? gs
  let (chomping, gs) :=
    if before.isNone && 0 < indentation then readChomping gs else (before, gs)
  let gs ← dropLineEnd? gs
  some (chomping.getD .clip, indentation, gs)

/-- The empty lines before the next line of a block scalar, and the greatest column that was
reached.  Without an indentation, all spaces belong to it; a tab in its place is refused. -/
def blockBreaks? (indentation : Nat) (deepest : Nat) :
    List Glyph → Option (List Char × Nat × List Glyph)
  | [] => some ([], deepest, [])
  | g :: rest =>
    let inside := indentation = 0 || g.column < indentation
    if g.char == ' ' && inside then blockBreaks? indentation (max deepest (g.column + 1)) rest
    else if g.char == '\t' && inside then none
    else if isBreak g.char then
      (blockBreaks? indentation (max deepest g.column) rest).map
        fun (breaks, found) => (g.char :: breaks, found)
    else some ([], max deepest g.column, g :: rest)

/-- The text of a block scalar as far as it was read: the line end of its last line and those of the
empty lines after it are not part of it yet. -/
structure Block where
  text : List Char := []
  lineEnd : List Char := []
  empties : List Char := []
  /-- Whether the last line began with white space. -/
  indented : Bool := false

/-- What stands between the last line of a block and the next one. -/
def Block.joint (block : Block) (style : Style) (indented : Bool) : List Char :=
  if style = .folded && block.lineEnd == ['\n'] && !block.indented && !indented then
    if block.empties.isEmpty then [' '] else block.empties
  else block.lineEnd ++ block.empties

/-- A block with one more line. -/
def Block.addLine (block : Block) (style : Style) (line lineEnd empties : List Char) : Block :=
  let indented := line.head?.any isBlank
  { text := block.text ++ block.joint style indented ++ line, lineEnd, empties, indented }

/-- The lines of a block scalar that begin at a column. -/
def blockLines? (style : Style) (indentation : Nat) :
    Nat → Block → List Glyph → Option (Block × List Glyph)
  | 0, _, _ => none
  | _, block, [] => some (block, [])
  | fuel + 1, block, g :: rest =>
    if g.column = indentation then do
      let (line, rest) := spanGlyphs (fun c => !isBreak c) (g :: rest)
      let lineEnd := (rest.head?.map (·.char)).toList
      let (empties, _, rest) ← blockBreaks? indentation 0 (rest.drop 1)
      blockLines? style indentation fuel (block.addLine style line lineEnd empties) rest
    else some (block, g :: rest)

/-- The text of a block scalar inside a block at column `parent`, -1 at the top, and what follows
it. -/
def readBlock? (style : Style) (parent : Int) (gs : List Glyph) :
    Option (List Char × List Glyph) := do
  let (chomping, increment, gs) ← readBlockHeader? gs
  let given := if increment = 0 then 0 else parent.toNat + increment
  let (empties, deepest, gs) ← blockBreaks? given 0 gs
  let indentation := if given = 0 then max deepest (max (parent + 1).toNat 1) else given
  let (block, gs) ← blockLines? style indentation (gs.length + 1) { empties } gs
  let text := match chomping with
    | .strip => block.text
    | .clip => block.text ++ block.lineEnd
    | .keep => block.text ++ block.lineEnd ++ block.empties
  some (text, gs)

end Platen.Yaml
