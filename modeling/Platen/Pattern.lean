/-!
# Marked places in a text

Three kinds of marks stand for something else in a line: `${…}` for a member, `{{…}}` for an
expression and `%{…}` for a directive.  A text is read from left to right as single characters and
marked places; marks do not overlap, and what stands between them is never looked at twice.
-/

namespace Platen

/-- The three kinds of marks. -/
inductive Pattern where
  | member
  | script
  | directive
  deriving DecidableEq, Repr

/-- A part of a text: a character that stands for itself, or a marked place with the text inside. -/
inductive Piece where
  | char (c : Char)
  | hole (inner : List Char)
  deriving DecidableEq, Repr

namespace Pattern

/-- The characters before the text inside a mark. -/
def opening : Pattern → List Char
  | member => ['$', '\x7b']
  | script => ['\x7b', '\x7b']
  | directive => ['%', '\x7b']

/-- The characters after the text inside a mark. -/
def closing : Pattern → List Char
  | member | directive => ['\x7d']
  | script => ['\x7d', '\x7d']

/-- Whether a character is a brace. -/
def isBrace (c : Char) : Bool :=
  c == '\x7b' || c == '\x7d'

/-- The text up to the closing brace: not empty and without braces. -/
def innerBraced? (cs : List Char) : Option (List Char) :=
  let inner := cs.takeWhile (!isBrace ·)
  match inner, cs.drop inner.length with
  | _ :: _, '\x7d' :: _ => some inner
  | _, _ => none

/-- The text up to the first two closing braces on the same line. -/
def untilClosing? : List Char → Option (List Char)
  | [] => none
  | [_] => none
  | c :: d :: rest =>
    if c = '\x7d' && d = '\x7d' then some []
    else if c = '\n' then none
    else (untilClosing? (d :: rest)).map (c :: ·)

/-- The text of an expression: at least one character, up to the first two closing braces after it
on the same line. -/
def innerScript? : List Char → Option (List Char)
  | [] => none
  | c :: rest => if c = '\n' then none else (untilClosing? rest).map (c :: ·)

/-- The text inside the mark that a text begins with, if it begins with one. -/
def innerAt? (pattern : Pattern) : List Char → Option (List Char)
  | c :: d :: rest =>
    if [c, d] = pattern.opening then
      match pattern with
      | member | directive => innerBraced? rest
      | script => innerScript? rest
    else none
  | _ => none

/-- A marked place as it is written. -/
def whole (pattern : Pattern) (inner : List Char) : List Char :=
  pattern.opening ++ inner ++ pattern.closing

/-- The pieces of a text whose first `skip` characters belong to a mark already taken. -/
def piecesFrom (pattern : Pattern) : Nat → List Char → List Piece
  | _, [] => []
  | skip + 1, _ :: rest => piecesFrom pattern skip rest
  | 0, c :: rest =>
    match pattern.innerAt? (c :: rest) with
    | some inner => .hole inner :: piecesFrom pattern ((pattern.whole inner).length - 1) rest
    | none => .char c :: piecesFrom pattern 0 rest

/-- The pieces of a text. -/
def pieces (pattern : Pattern) (text : String) : List Piece :=
  pattern.piecesFrom 0 text.toList

/-- The texts inside the marked places of a text. -/
def holes (pattern : Pattern) (text : String) : List (List Char) :=
  (pattern.pieces text).filterMap fun
    | .hole inner => some inner
    | .char _ => none

end Pattern

end Platen
