/-!
# Characters with their places

YAML is laid out by lines and columns, so every character of a document carries its place.  All ways
to end a line become a line feed, except the two separators of Unicode, which stay as they are.
-/

namespace Platen.Yaml

/-- A character with its place; lines and columns are counted from zero. -/
structure Glyph where
  char : Char
  line : Nat
  column : Nat
  index : Nat
  deriving DecidableEq, Repr

/-- Whether a character ends a line. -/
def isBreak (c : Char) : Bool :=
  c == '\n' || c == '\r' || c == '\u0085' || c == '\u2028' || c == '\u2029'

/-- Whether a character is white space within a line. -/
def isBlank (c : Char) : Bool :=
  c == ' ' || c == '\t'

/-- Whether a character is white space or ends a line. -/
def isSpace (c : Char) : Bool :=
  isBlank c || isBreak c

/-- Whether a document may hold a character. -/
def isAllowed (c : Char) : Bool :=
  let n := c.toNat
  isBreak c || c == '\t' || (0x20 ≤ n && n ≤ 0x7e) || (0xa0 ≤ n && n ≤ 0xfffd) || 0x10000 ≤ n

/-- Whether a character may stand in the name of an anchor or a tag. -/
def isNameChar (c : Char) : Bool :=
  c.isAlphanum || c == '_' || c == '-'

/-- The character that a line end is read as. -/
def breakChar (c : Char) : Char :=
  if c == '\u2028' || c == '\u2029' then c else '\n'

/-- The characters of a text with their places. -/
def glyphsFrom (line column index : Nat) : List Char → List Glyph
  | [] => []
  | '\r' :: '\n' :: cs => ⟨'\n', line, column, index⟩ :: glyphsFrom (line + 1) 0 (index + 2) cs
  | c :: cs =>
    if isBreak c then
      ⟨breakChar c, line, column, index⟩ :: glyphsFrom (line + 1) 0 (index + 1) cs
    else ⟨c, line, column, index⟩ :: glyphsFrom line (column + 1) (index + 1) cs

/-- The characters of a document, if all of them are allowed.  A mark of the byte order at the start
is passed over. -/
def glyphs? (s : String) : Option (List Glyph) :=
  let cs := match s.toList with
    | '\ufeff' :: cs => cs
    | cs => cs
  if cs.all isAllowed then some (glyphsFrom 0 0 0 cs) else none

/-- Whether what comes next is white space, a line end, or the end of the text. -/
def atSpace : List Glyph → Bool
  | [] => true
  | g :: _ => isSpace g.char

/-- Whether what comes next is a line end or the end of the text. -/
def atLineEnd : List Glyph → Bool
  | [] => true
  | g :: _ => isBreak g.char

/-- Whether a given character comes next. -/
def atChar (c : Char) : List Glyph → Bool
  | [] => false
  | g :: _ => g.char == c

/-- What follows a mark of a document, three times `c` at the start of a line. -/
def afterMark? (c : Char) : List Glyph → Option (List Glyph)
  | a :: b :: d :: rest =>
    if a.column = 0 && a.char == c && b.char == c && d.char == c && atSpace rest then some rest
    else none
  | _ => none

/-- Whether a mark of a document comes next. -/
def atMark (gs : List Glyph) : Bool :=
  (afterMark? '-' gs).isSome || (afterMark? '.' gs).isSome

/-- Passes over spaces and tabs. -/
def dropBlanks (gs : List Glyph) : List Glyph :=
  gs.dropWhile fun g => isBlank g.char

/-- What follows the white space, comment and line end after a directive or the header of a block
scalar. -/
def dropLineEnd? (gs : List Glyph) : Option (List Glyph) :=
  let gs := dropBlanks gs
  let gs := if atChar '#' gs then gs.dropWhile fun g => !isBreak g.char else gs
  match gs with
  | [] => some []
  | g :: rest => if isBreak g.char then some rest else none

/-- The characters of a run, and what follows them. -/
def spanGlyphs (accept : Char → Bool) (gs : List Glyph) : List Char × List Glyph :=
  ((gs.takeWhile fun g => accept g.char).map (·.char), gs.dropWhile fun g => accept g.char)

end Platen.Yaml
