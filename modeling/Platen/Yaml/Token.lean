import Platen.Yaml.Scalar

/-!
# Tokens

The tokens of a YAML document.  Indentation opens and closes block collections.  A key without a
mark of its own is recognised by the colon after it, so the token that opens its mapping is put in
afterwards, at the place where the key began.
-/

namespace Platen.Yaml

/-- A token. -/
inductive Token where
  | startDocument
  | endDocument
  | version (major minor : Nat)
  /-- The meaning of a tag handle. -/
  | handle (name meaning : String)
  | startSequence
  | startMapping
  /-- The end of a block collection. -/
  | endBlock
  | openSequence
  | closeSequence
  | openMapping
  | closeMapping
  /-- The hyphen before an item. -/
  | item
  | comma
  | key
  | value
  | alias (name : String)
  | anchor (name : String)
  | tag (handle suffix : String)
  | scalar (style : Style) (text : String)
  deriving DecidableEq, Repr

/-- A place where a key may have begun. -/
structure PossibleKey where
  /-- Whether nothing but a key can stand there. -/
  required : Bool
  /-- The number of tokens before it. -/
  place : Nat
  start : Glyph

/-- The greatest number of characters from the start of a key to its colon. -/
def keyLimit : Nat := 1024

/-- The state between two tokens. -/
structure Scan where
  /-- The column of the innermost block collection, -1 outside of all. -/
  indent : Int := -1
  /-- The columns of the block collections around it. -/
  outer : List Int := []
  /-- Whether a key may begin here. -/
  keyAllowed : Bool := true
  /-- The possible key at the current level of brackets, then those at the levels around it. -/
  level : Option PossibleKey := none
  levels : List (Option PossibleKey) := []
  /-- The tokens so far, the last one first. -/
  tokens : List Token := []

namespace Scan

/-- Whether the scan is inside brackets or braces. -/
def inFlow (s : Scan) : Bool :=
  !s.levels.isEmpty

/-- Adds a token. -/
def push (s : Scan) (token : Token) : Scan :=
  { s with tokens := token :: s.tokens }

/-- Adds a token before all but the first `place` ones. -/
def pushAt (s : Scan) (place : Nat) (token : Token) : Scan :=
  { s with tokens := s.tokens.insertIdx (s.tokens.length - place) token }

/-- Allows or forbids a key at this place. -/
def allowKey (s : Scan) (allowed : Bool) : Scan :=
  { s with keyAllowed := allowed }

/-! ## Possible keys -/

/-- Whether a possible key is too far back to become one at a glyph. -/
def isStale (key : PossibleKey) (g : Glyph) : Bool :=
  key.start.line < g.line || key.start.index + keyLimit < g.index

/-- Gives up a possible key if it is too far back; a required one must not be given up. -/
def dropStaleAt? (g : Glyph) : Option PossibleKey → Option (Option PossibleKey)
  | none => some none
  | some key =>
    if isStale key g then if key.required then none else some none else some (some key)

/-- Gives up all possible keys that are too far back. -/
def dropStale? (s : Scan) (g : Glyph) : Option Scan := do
  let level ← dropStaleAt? g s.level
  let levels ← s.levels.mapM (dropStaleAt? g)
  some { s with level, levels }

/-- Gives up the possible key at the current level, which must not be a required one. -/
def dropKey? (s : Scan) : Option Scan :=
  if s.level.any (·.required) then none else some { s with level := none }

/-- Notes that a key may begin at a glyph. -/
def noteKey? (s : Scan) (g : Glyph) : Option Scan :=
  if s.keyAllowed then do
    let s ← s.dropKey?
    some { s with
      level := some
        { required := !s.inFlow && s.indent = g.column
          place := s.tokens.length
          start := g } }
  else some s

/-! ## Indentation -/

/-- Opens a block collection at a column, if it is further in; its token goes to a place. -/
def openBlock (s : Scan) (column place : Nat) (token : Token) : Scan :=
  if !s.inFlow && s.indent < column then
    { s with indent := column, outer := s.indent :: s.outer }.pushAt place token
  else s

/-- Closes block collections until the innermost one is not further in than a column. -/
def closeFrom (tokens : List Token) (column indent : Int) : List Int → Int × List Int × List Token
  | [] => (indent, [], tokens)
  | next :: outer =>
    if column < indent then closeFrom (.endBlock :: tokens) column next outer
    else (indent, next :: outer, tokens)

/-- Closes the block collections that are further in than a column. -/
def closeBlocks (s : Scan) (column : Int) : Scan :=
  if s.inFlow then s
  else
    let (indent, outer, tokens) := closeFrom s.tokens column s.indent s.outer
    { s with indent, outer, tokens }

/-- The column from which further lines belong to a scalar in the current block. -/
def scalarColumn (s : Scan) : Nat :=
  (s.indent + 1).toNat

/-! ## Structure -/

/-- The mark of a document, before which all blocks end. -/
def documentMark? (s : Scan) (token : Token) : Option Scan := do
  let s ← (s.closeBlocks (-1)).dropKey?
  some ((s.allowKey false).push token)

/-- An opening bracket or brace. -/
def openFlow? (s : Scan) (g : Glyph) (token : Token) : Option Scan := do
  let s ← s.noteKey? g
  some (({ s with level := none, levels := s.level :: s.levels }.allowKey true).push token)

/-- A closing bracket or brace. -/
def closeFlow? (s : Scan) (token : Token) : Option Scan := do
  let s ← s.dropKey?
  let s := match s.levels with
    | [] => s
    | level :: levels => { s with level, levels }
  some ((s.allowKey false).push token)

/-- A comma. -/
def comma? (s : Scan) : Option Scan := do
  let s ← s.dropKey?
  some ((s.allowKey true).push .comma)

/-- A hyphen before an item. -/
def item? (s : Scan) (g : Glyph) : Option Scan := do
  if !s.inFlow && !s.keyAllowed then none
  else
    let s ← (s.openBlock g.column s.tokens.length .startSequence).dropKey?
    some ((s.allowKey true).push .item)

/-- A question mark before a key. -/
def key? (s : Scan) (g : Glyph) : Option Scan := do
  if !s.inFlow && !s.keyAllowed then none
  else
    let s ← (s.openBlock g.column s.tokens.length .startMapping).dropKey?
    some ((s.allowKey !s.inFlow).push .key)

/-- A colon before a value. -/
def value? (s : Scan) (g : Glyph) : Option Scan :=
  match s.level with
  | some key =>
    let s := s.pushAt key.place .key
    let s := s.openBlock key.start.column key.place .startMapping
    some (({ s with level := none }.allowKey false).push .value)
  | none =>
    if !s.inFlow && !s.keyAllowed then none
    else
      let s := s.openBlock g.column s.tokens.length .startMapping
      some ((s.allowKey !s.inFlow).push .value)

end Scan

/-! ## Names -/

/-- The name of an anchor or alias. -/
def readName? (gs : List Glyph) : Option (String × List Glyph) :=
  let (name, rest) := spanGlyphs isNameChar gs
  let ended := match rest with
    | [] => true
    | g :: _ => isSpace g.char || "?:,]\x7d%@\x60".toList.contains g.char
  if name.isEmpty || !ended then none else some (String.ofList name, rest)

/-- Whether a character may stand in a tag as it is; the marks of collections only between angle
brackets or in a directive. -/
def isTagChar (marks : Bool) (c : Char) : Bool :=
  isNameChar c || ";/?:@&=+$.!~*'()".toList.contains c || (marks && ",[]".toList.contains c)

/-- The characters of a tag, with percent codes as the bytes that they stand for. -/
def readTagBytes? (marks : Bool) : Nat → List Glyph → Option (ByteArray × List Glyph)
  | 0, _ => none
  | _, [] => some (.empty, [])
  | fuel + 1, g :: rest =>
    if g.char == '%' then do
      let (code, rest) ← readHex? 0 2 rest
      let (bytes, rest) ← readTagBytes? marks fuel rest
      some (ByteArray.mk #[code.toUInt8] ++ bytes, rest)
    else if isTagChar marks g.char then do
      let (bytes, rest) ← readTagBytes? marks fuel rest
      some ((String.singleton g.char).toUTF8 ++ bytes, rest)
    else some (.empty, g :: rest)

/-- The text of a tag. -/
def readTagText? (marks : Bool) (gs : List Glyph) : Option (String × List Glyph) := do
  let (bytes, rest) ← readTagBytes? marks (gs.length + 1) gs
  let text ← String.fromUTF8? bytes
  some (text, rest)

/-- The letters of a tag handle after its first exclamation mark, and whether a second mark ends
them. -/
def readHandle (gs : List Glyph) : String × Bool × List Glyph :=
  let (name, rest) := spanGlyphs isNameChar gs
  if atChar '!' rest then (String.ofList name, true, rest.drop 1)
  else (String.ofList name, false, rest)

/-- A tag after its first exclamation mark: between angle brackets, after a handle, or local. -/
def readTag? (gs : List Glyph) : Option (String × String × List Glyph) := do
  if atChar '<' gs then
    let (text, rest) ← readTagText? true (gs.drop 1)
    if text.isEmpty || !atChar '>' rest then none else some ("", text, rest.drop 1)
  else
    let (name, closed, rest) := readHandle gs
    let (text, rest) ← readTagText? false rest
    if closed then if text.isEmpty then none else some ("!" ++ name ++ "!", text, rest)
    else if (name ++ text).isEmpty then some ("", "!", rest)
    else some ("!", name ++ text, rest)

/-! ## Directives -/

/-- A number of at most nine digits. -/
def readVersionNumber? (gs : List Glyph) : Option (Nat × List Glyph) :=
  let (digits, rest) := spanGlyphs Char.isDigit gs
  if digits.isEmpty || 9 < digits.length then none
  else some (digits.foldl (fun n d => 10 * n + (d.toNat - '0'.toNat)) 0, rest)

/-- A directive after its percent sign. -/
def readDirective? (gs : List Glyph) : Option (Token × List Glyph) := do
  let (name, rest) := spanGlyphs isNameChar gs
  if !atSpace rest then none
  else
    let rest := dropBlanks rest
    match String.ofList name with
    | "YAML" =>
      let (major, rest) ← readVersionNumber? rest
      if !atChar '.' rest then none
      else
        let (minor, rest) ← readVersionNumber? (rest.drop 1)
        some (.version major minor, ← dropLineEnd? rest)
    | "TAG" =>
      if !atChar '!' rest then none
      else
        let (handle, closed, rest) := readHandle (rest.drop 1)
        if (!handle.isEmpty && !closed) || !rest.head?.any (isBlank ·.char) then none
        else
          let (meaning, rest) ← readTagText? true (dropBlanks rest)
          if meaning.isEmpty || !atSpace rest then none
          else
            let full := "!" ++ handle ++ (if closed then "!" else "")
            some (.handle full meaning, ← dropLineEnd? rest)
    | _ => none

/-! ## Tokens of a text -/

/-- Passes over white space, comments and line ends; after a line end outside of brackets a key may
begin.  A tab counts as white space only where no key may begin. -/
def skipSpace (flow keyAllowed comment : Bool) : List Glyph → Bool × List Glyph
  | [] => (keyAllowed, [])
  | g :: rest =>
    if isBreak g.char then skipSpace flow (keyAllowed || !flow) false rest
    else if comment then skipSpace flow keyAllowed true rest
    else if g.char == ' ' || (g.char == '\t' && (flow || !keyAllowed)) then
      skipSpace flow keyAllowed false rest
    else if g.char == '#' then skipSpace flow keyAllowed true rest
    else (keyAllowed, g :: rest)

/-- The characters that begin no plain scalar. -/
def indicators : List Char :=
  "-?:,[]\x7b\x7d#&*!|>'\"%@\x60".toList

/-- Whether a plain scalar begins with a glyph. -/
def startsPlain (flow : Bool) (g : Glyph) (rest : List Glyph) : Bool :=
  (!isBlank g.char && !indicators.contains g.char)
    || (g.char == '-' && !rest.head?.any (isBlank ·.char))
    || (!flow && (g.char == '?' || g.char == ':') && !atSpace rest)

namespace Scan

/-- An anchor, alias or tag. -/
def property? (s : Scan) (g : Glyph) (token : Token) : Option Scan := do
  let s ← s.noteKey? g
  some ((s.allowKey false).push token)

/-- A plain scalar, after which a key may begin if it is followed by a line end. -/
def plain? (s : Scan) (g : Glyph) (rest : List Glyph) : Option (Scan × List Glyph) := do
  let s ← s.noteKey? g
  let (text, broken, rest) ← readPlain? s.inFlow s.scalarColumn (g :: rest)
  some ((s.allowKey broken).push (.scalar .plain (String.ofList text)), rest)

/-- A quoted scalar. -/
def quoted? (s : Scan) (g : Glyph) (quote : Quote) (rest : List Glyph) :
    Option (Scan × List Glyph) := do
  let s ← s.noteKey? g
  let (text, rest) ← readQuoted? quote rest
  some ((s.allowKey false).push (.scalar .quoted (String.ofList text)), rest)

/-- A block scalar. -/
def block? (s : Scan) (style : Style) (rest : List Glyph) : Option (Scan × List Glyph) := do
  let s ← s.dropKey?
  let (text, rest) ← readBlock? style s.indent rest
  some ((s.allowKey true).push (.scalar style (String.ofList text)), rest)

/-- An anchor or an alias. -/
def named? (s : Scan) (g : Glyph) (make : String → Token) (rest : List Glyph) :
    Option (Scan × List Glyph) := do
  let (name, rest) ← readName? rest
  some (← s.property? g (make name), rest)

/-- A tag; it ends at white space, or at a comma inside brackets. -/
def tag? (s : Scan) (g : Glyph) (rest : List Glyph) : Option (Scan × List Glyph) := do
  let (handle, suffix, rest) ← readTag? rest
  if atSpace rest || (s.inFlow && atChar ',' rest) then
    some (← s.property? g (.tag handle suffix), rest)
  else none

/-- A directive. -/
def directive? (s : Scan) (rest : List Glyph) : Option (Scan × List Glyph) := do
  let (token, rest) ← readDirective? rest
  some (← s.documentMark? token, rest)

/-- One token at a glyph. -/
def step? (s : Scan) (g : Glyph) (rest : List Glyph) : Option (Scan × List Glyph) :=
  let after (result : Option Scan) : Option (Scan × List Glyph) := result.map (·, rest)
  if g.column = 0 && g.char == '%' then s.directive? rest
  else
    match afterMark? '-' (g :: rest), afterMark? '.' (g :: rest) with
    | some rest, _ => (s.documentMark? .startDocument).map (·, rest)
    | none, some rest => (s.documentMark? .endDocument).map (·, rest)
    | none, none =>
      match g.char with
      | '[' => after (s.openFlow? g .openSequence)
      | '\x7b' => after (s.openFlow? g .openMapping)
      | ']' => after (s.closeFlow? .closeSequence)
      | '\x7d' => after (s.closeFlow? .closeMapping)
      | ',' => after s.comma?
      | '*' => s.named? g .alias rest
      | '&' => s.named? g .anchor rest
      | '!' => s.tag? g rest
      | '\'' => s.quoted? g .single rest
      | '"' => s.quoted? g .double rest
      | c =>
        if c == '-' && atSpace rest then after (s.item? g)
        else if c == '?' && (s.inFlow || atSpace rest) then after (s.key? g)
        else if c == ':' && (s.inFlow || atSpace rest) then after (s.value? g)
        else if c == '|' && !s.inFlow then s.block? .literal rest
        else if c == '>' && !s.inFlow then s.block? .folded rest
        else if startsPlain s.inFlow g rest then s.plain? g rest
        else none

/-- The state after all tokens of a text. -/
def run? : Nat → Scan → List Glyph → Option Scan
  | 0, _, _ => none
  | fuel + 1, s, gs =>
    match skipSpace s.inFlow s.keyAllowed false gs with
    | (_, []) => (s.closeBlocks (-1)).dropKey?
    | (keyAllowed, g :: rest) => do
      let s ← (s.allowKey keyAllowed).dropStale? g
      let (s, rest) ← (s.closeBlocks g.column).step? g rest
      run? fuel s rest

end Scan

/-- The tokens of a text. -/
def tokens? (s : String) : Option (List Token) := do
  let gs ← glyphs? s
  let scan ← Scan.run? (gs.length + 1) {} gs
  some scan.tokens.reverse

end Platen.Yaml
