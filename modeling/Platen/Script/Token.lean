import Platen.Bits
import Platen.Decimal.Reader
import Platen.Json.Reader
import Platen.Script.Error

/-!
# Tokens

An expression is read as names, literals and symbols with white space between them.  Reading stops
at the first place where no token starts; the error belongs to that place and is only met by a
reader that gets there.
-/

namespace Platen.Script

/-- The signs of the language. -/
inductive Symbol where
  | plus
  | minus
  | star
  | starStar
  | slash
  | slashSlash
  | percent
  | dot
  | comma
  | colon
  | tilde
  | bar
  | assign
  | equal
  | notEqual
  | less
  | lessEqual
  | greater
  | greaterEqual
  | openParen
  | closeParen
  | openBracket
  | closeBracket
  | openBrace
  | closeBrace
  /-- Two closing braces outside all brackets; no expression holds them. -/
  | closing
  deriving DecidableEq, Repr

/-- A token. -/
inductive Token where
  | word (name : String)
  | text (s : String)
  | int (n : Nat)
  | float (x : Float)
  | symbol (s : Symbol)

/-- A token, or what is wrong at its place. -/
abbrev Lexeme := Except Error Token

namespace Token

open Decimal

/-- The symbols of two characters. -/
def twoCharSymbol? : Char → Char → Option Symbol
  | '/', '/' => some .slashSlash
  | '*', '*' => some .starStar
  | '=', '=' => some .equal
  | '!', '=' => some .notEqual
  | '>', '=' => some .greaterEqual
  | '<', '=' => some .lessEqual
  | _, _ => none

/-- The symbols of one character. -/
def oneCharSymbol? : Char → Option Symbol
  | '+' => some .plus
  | '-' => some .minus
  | '*' => some .star
  | '/' => some .slash
  | '%' => some .percent
  | '.' => some .dot
  | ',' => some .comma
  | ':' => some .colon
  | '~' => some .tilde
  | '|' => some .bar
  | '=' => some .assign
  | '>' => some .greater
  | '<' => some .less
  | '(' => some .openParen
  | ')' => some .closeParen
  | '[' => some .openBracket
  | ']' => some .closeBracket
  | '\x7b' => some .openBrace
  | '\x7d' => some .closeBrace
  | _ => none

/-- How a symbol changes the number of open brackets. -/
def bracketChange : Symbol → Int
  | .openParen | .openBracket | .openBrace => 1
  | .closeParen | .closeBracket | .closeBrace => -1
  | _ => 0

/-- White space between tokens. -/
def isGap (c : Char) : Bool :=
  c == ' ' || c == '\t' || c == '\n' || c == '\x0c' || c == '\r'

/-- Whether a name can start with a character. -/
def startsName (c : Char) : Bool :=
  c.isAlpha || c == '_'

/-- Whether a name can go on with a character. -/
def continuesName (c : Char) : Bool :=
  c.isAlphanum || c == '_'

/-! ## Numbers -/

/-- Where a number being read stands. -/
inductive NumberState where
  | radix
  | integer
  | fraction
  | exponent
  | exponentDigits
  deriving DecidableEq, Repr

/-- The state after one more character, if the number goes on with it. -/
def NumberState.next? (radix : Nat) (state : NumberState) (c : Char) : Option NumberState :=
  if c = '.' then if state = integer then some fraction else none
  else if (c = 'e' || c = 'E') && (state = integer || state = fraction) then some exponent
  else if (c = '+' || c = '-') && state = exponent then some exponentDigits
  else if c.isDigit then some (if state = exponent then exponentDigits else state)
  else if state = .radix && radix = 16 && (Json.hexValue? c).isSome then some state
  else if c = '_' then some state
  else none

/-- The characters of a number from a state on, the state they end in, and what follows. -/
def spanNumber (radix : Nat) (state : NumberState) :
    List Char → List Char × NumberState × List Char
  | [] => ([], state, [])
  | c :: rest =>
    match state.next? radix c with
    | some next =>
      let (digits, last, rest) := spanNumber radix next rest
      (c :: digits, last, rest)
    | none => ([], state, c :: rest)

/-- The radix of a number, and the characters after its mark. -/
def readRadix (cs : List Char) : Nat × List Char :=
  match cs with
  | '0' :: c :: rest =>
    if c = 'b' || c = 'B' then (2, rest)
    else if c = 'o' || c = 'O' then (8, rest)
    else if c = 'x' || c = 'X' then (16, rest)
    else (10, cs)
  | _ => (10, cs)

/-- The greatest integer literal, plus one. -/
def integerLimit : Nat := Bits.span 128

/-- The number written in digits of a radix. -/
def readInteger (radix : Nat) (digits : List Char) : Except Error Nat :=
  if digits.isEmpty then .error .malformed
  else
    match digits.mapM (fun c => (Json.hexValue? c).filter (· < radix)) with
    | none => .error .malformed
    | some values =>
      let n := values.foldl (fun n d => radix * n + d) 0
      if n < integerLimit then .ok n else .error .malformed

/-- The number that a text begins with, and what follows it. -/
def readNumber (cs : List Char) : Lexeme × List Char :=
  let (radix, cs) := readRadix cs
  let (written, state, rest) := spanNumber radix (if radix = 10 then .integer else .radix) cs
  let digits := written.filter (· ≠ '_')
  let token : Lexeme :=
    if written.getLast? = some '_' then .error .malformed
    else if state = .integer || state = .radix then (readInteger radix digits).map .int
    else
      match readFloat? digits with
      | some x => .ok (.float x)
      | none => .error .malformed
  (token, rest)

/-! ## Texts -/

/-- The characters up to a closing quote, and what follows it.  A backslash takes the next character
along, whatever it is. -/
def spanText (quote : Char) : List Char → Option (List Char × List Char)
  | [] => none
  | [c] => if c = quote then some ([], []) else none
  | c :: d :: rest =>
    if c = quote then some ([], d :: rest)
    else if c = '\\' then (spanText quote rest).map fun (cs, rest) => (c :: d :: cs, rest)
    else (spanText quote (d :: rest)).map fun (cs, rest) => (c :: cs, rest)

/-- The code of a `\u` escape: four hexadecimal digits, of which the first may be a plus sign. -/
def readCode (cs : List Char) : Except Error Nat :=
  let digits := match cs with
    | '+' :: rest => rest
    | _ => cs
  if cs.length ≠ 4 then .error .badEscape
  else
    match digits.mapM Json.hexValue? with
    | some values => .ok (values.foldl (fun n d => 16 * n + d) 0)
    | none => .error .badEscape

/-- The character of an escape of one letter. -/
def escapeChar? : Char → Option Char
  | '"' => some '"'
  | '\\' => some '\\'
  | '/' => some '/'
  | '\'' => some '\''
  | 'b' => some '\x08'
  | 'f' => some '\x0c'
  | 'n' => some '\n'
  | 'r' => some '\r'
  | 't' => some '\t'
  | _ => none

/-- A text with its escapes replaced.  A surrogate waits for its partner in `pending`; each step
takes at least one character, so the length of the text is fuel enough. -/
def unescape (pending : Option Nat) : Nat → List Char → Except Error (List Char)
  | 0, _ => if pending.isSome then .error .badEscape else .ok []
  | _, [] => if pending.isSome then .error .badEscape else .ok []
  | fuel + 1, '\\' :: 'u' :: rest => do
    let code ← readCode (rest.take 4)
    let isSurrogate := 0xd800 ≤ code && code ≤ 0xdfff
    match pending, isSurrogate with
    | none, false => return Char.ofNat code :: (← unescape none fuel (rest.drop 4))
    | none, true => unescape (some code) fuel (rest.drop 4)
    | some high, true =>
      if high ≤ 0xdbff && 0xdc00 ≤ code then
        let c := Char.ofNat (0x10000 + (high - 0xd800) * 0x400 + (code - 0xdc00))
        return c :: (← unescape none fuel (rest.drop 4))
      else .error .badEscape
    | some _, false => .error .badEscape
  | fuel + 1, '\\' :: c :: rest => do
    match escapeChar? c with
    | some d =>
      if pending.isSome then .error .badEscape
      else return d :: (← unescape none fuel rest)
    | none => .error .badEscape
  | _ + 1, ['\\'] => .error .badEscape
  | fuel + 1, c :: rest => do
    if pending.isSome then .error .badEscape
    else return c :: (← unescape none fuel rest)

/-- The text literal that follows an opening quote, and what follows it. -/
def readText (quote : Char) (cs : List Char) : Lexeme × List Char :=
  match spanText quote cs with
  | none => (.error .malformed, [])
  | some (written, rest) =>
    ((unescape none (written.length + 1) written).map fun s => .text (String.ofList s), rest)

/-! ## All tokens -/

/-- Whether two closing braces, possibly after a sign, stand at the front. -/
def startsClosing : List Char → Bool
  | '\x7d' :: '\x7d' :: _ => true
  | c :: '\x7d' :: '\x7d' :: _ => c = '-' || c = '+'
  | _ => false

/-- The token that starts at a character, and what follows it. -/
def readOne (c : Char) (rest : List Char) : Lexeme × List Char :=
  let one : Lexeme × List Char :=
    match oneCharSymbol? c with
    | some s => (.ok (.symbol s), rest)
    | none =>
      if c = '"' || c = '\'' then readText c rest
      else if c.isDigit then readNumber (c :: rest)
      else if startsName c then
        let name := c :: rest.takeWhile continuesName
        (.ok (.word (String.ofList name)), rest.dropWhile continuesName)
      else (.error .malformed, [])
  match rest with
  | d :: rest =>
    match twoCharSymbol? c d with
    | some s => (.ok (.symbol s), rest)
    | none => one
  | [] => one

/-- The tokens of a text up to its end or the first error.  Each token takes at least one
character, so the length of the text is fuel enough. -/
def readAll (brackets : Int) : Nat → List Char → List Lexeme
  | 0, _ => []
  | fuel + 1, cs =>
    match cs.dropWhile isGap with
    | [] => []
    | c :: rest =>
      if brackets = 0 && startsClosing (c :: rest) then [.ok (.symbol .closing)]
      else
        match readOne c rest with
        | (.error e, _) => [.error e]
        | (.ok (.symbol s), rest) =>
          .ok (.symbol s) :: readAll (brackets + bracketChange s) fuel rest
        | (.ok token, rest) => .ok token :: readAll brackets fuel rest

/-- The tokens of an expression. -/
def ofText (s : String) : List Lexeme :=
  readAll 0 (s.length + 1) s.toList

end Token

end Platen.Script
