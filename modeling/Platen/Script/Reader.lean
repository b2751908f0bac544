import Platen.Script.Term
import Platen.Script.Token

/-!
# Reading expressions

Operators bind in levels, from `or` at the loosest to `**` at the tightest; the operators of one
level group from the left.  After the operands come attributes, items and calls, then filters and
tests.  Expressions may be nested only so deep.

Every call of a reader passes on less fuel.  Between two tokens only a bounded number of calls is
nested, so a multiple of the number of tokens is enough.
-/

namespace Platen.Script.Reader

/-- A reader of tokens. -/
abbrev Reading (α : Type) := StateT (List Lexeme) (Except Error) α

/-- The greatest depth of nested expressions. -/
def depthLimit : Nat := 150

/-- The text is not an expression. -/
def refuse {α : Type} : Reading α :=
  throw .malformed

/-- The next token, which is left in place. -/
def peek : Reading (Option Token) := do
  match ← get with
  | [] => return none
  | .ok token :: _ => return some token
  | .error e :: _ => throw e

/-- Passes over a token. -/
def advance : Reading Unit :=
  modify List.tail

/-- The next token, which there must be. -/
def next : Reading Token := do
  match ← peek with
  | some token =>
    advance
    return token
  | none => refuse

/-- Whether the next token is a given symbol. -/
def atSymbol (s : Symbol) : Reading Bool := do
  match ← peek with
  | some (.symbol t) => return s = t
  | _ => return false

/-- Passes over a symbol if it comes next. -/
def skipSymbol (s : Symbol) : Reading Bool := do
  if ← atSymbol s then
    advance
    return true
  else return false

/-- Passes over a symbol that must come next. -/
def expectSymbol (s : Symbol) : Reading Unit := do
  if ← skipSymbol s then return () else refuse

/-- Passes over a word if it comes next. -/
def skipWord (word : String) : Reading Bool := do
  match ← peek with
  | some (.word w) =>
    if w = word then
      advance
      return true
    else return false
  | _ => return false

/-- The name that must come next. -/
def expectName : Reading String := do
  match ← next with
  | .word name => return name
  | _ => refuse

/-! ## Levels of operators -/

/-- The levels of operators with two operands that are tighter than comparisons. -/
inductive Level where
  | sum
  | concat
  | product
  | power
  deriving DecidableEq, Repr

/-- The level of the operands of a level; the operands of powers have no operators of their own. -/
def Level.tighter? : Level → Option Level
  | .sum => some .concat
  | .concat => some .product
  | .product => some .power
  | .power => none

/-- The operator that a symbol stands for at a level. -/
def Level.operator? : Level → Symbol → Option BinaryOp
  | .sum, .plus => some .add
  | .sum, .minus => some .sub
  | .concat, .tilde => some .concat
  | .product, .star => some .mul
  | .product, .slash => some .div
  | .product, .slashSlash => some .floorDiv
  | .product, .percent => some .rem
  | .power, .starStar => some .pow
  | _, _ => none

/-- The comparison that a token stands for. -/
def comparison? : Token → Option BinaryOp
  | .symbol .equal => some .equal
  | .symbol .notEqual => some .notEqual
  | .symbol .less => some .less
  | .symbol .lessEqual => some .lessEqual
  | .symbol .greater => some .greater
  | .symbol .greaterEqual => some .greaterEqual
  | .word "in" => some .member
  | _ => none

/-- Whether a test without parentheses takes the next token as its argument. -/
def startsArgument : Token → Bool
  | .word w => w != "and" && w != "or" && w != "else" && w != "is"
  | .text _ | .int _ | .float _ => true
  | .symbol s => s = .plus || s = .minus || s = .openBracket || s = .openBrace

/-- The literal or name that a word is. -/
def ofWord (word : String) : Term :=
  match word with
  | "true" | "True" => .literal (.bool true)
  | "false" | "False" => .literal (.bool false)
  | "none" | "None" => .literal .none
  | name => .name name

mutual
/-- An expression, with the depth of expressions around it. -/
def readTerm (fuel depth : Nat) : Reading Term :=
  match fuel with
  | 0 => refuse
  | fuel + 1 => do
    if depthLimit ≤ depth then refuse
    else readConditional fuel (depth + 1)
termination_by structural fuel

/-- An expression that may be followed by conditions. -/
def readConditional (fuel depth : Nat) : Reading Term :=
  match fuel with
  | 0 => refuse
  | fuel + 1 => do
    let yes ← readOr fuel depth
    readConditions fuel depth yes
termination_by structural fuel

/-- The conditions after an expression. -/
def readConditions (fuel depth : Nat) (yes : Term) : Reading Term :=
  match fuel with
  | 0 => refuse
  | fuel + 1 => do
    if ← skipWord "if" then
      let test ← readOr fuel depth
      if ← skipWord "else" then
        let no ← readConditional fuel depth
        readConditions fuel depth (.conditional test yes (some no))
      else readConditions fuel depth (.conditional test yes none)
    else return yes
termination_by structural fuel

/-- Operands joined by `or`. -/
def readOr (fuel depth : Nat) : Reading Term :=
  match fuel with
  | 0 => refuse
  | fuel + 1 => do
    let left ← readAnd fuel depth
    readOrs fuel depth left
termination_by structural fuel

/-- Further operands joined by `or`. -/
def readOrs (fuel depth : Nat) (left : Term) : Reading Term :=
  match fuel with
  | 0 => refuse
  | fuel + 1 => do
    if ← skipWord "or" then
      let right ← readAnd fuel depth
      readOrs fuel depth (.logic .or left right)
    else return left
termination_by structural fuel

/-- Operands joined by `and`. -/
def readAnd (fuel depth : Nat) : Reading Term :=
  match fuel with
  | 0 => refuse
  | fuel + 1 => do
    let left ← readNot fuel depth
    readAnds fuel depth left
termination_by structural fuel

/-- Further operands joined by `and`. -/
def readAnds (fuel depth : Nat) (left : Term) : Reading Term :=
  match fuel with
  | 0 => refuse
  | fuel + 1 => do
    if ← skipWord "and" then
      let right ← readNot fuel depth
      readAnds fuel depth (.logic .and left right)
    else return left
termination_by structural fuel

/-- A comparison, possibly negated. -/
def readNot (fuel depth : Nat) : Reading Term :=
  match fuel with
  | 0 => refuse
  | fuel + 1 => do
    if ← skipWord "not" then
      return .unary .not (← readNot fuel depth)
    else
      let left ← readLevel fuel depth .sum
      readComparisons fuel depth left
termination_by structural fuel

/-- The comparisons after an operand. -/
def readComparisons (fuel depth : Nat) (left : Term) : Reading Term :=
  match fuel with
  | 0 => refuse
  | fuel + 1 => do
    if ← skipWord "not" then
      if ← skipWord "in" then
        let right ← readLevel fuel depth .sum
        readComparisons fuel depth (.unary .not (.binary .member left right))
      else refuse
    else
      match (← peek).bind comparison? with
      | some op =>
        advance
        let right ← readLevel fuel depth .sum
        readComparisons fuel depth (.binary op left right)
      | none => return left
termination_by structural fuel

/-- Operands joined by the operators of a level. -/
def readLevel (fuel depth : Nat) (level : Level) : Reading Term :=
  match fuel with
  | 0 => refuse
  | fuel + 1 => do
    let left ← readOperand fuel depth level
    readOperators fuel depth level left
termination_by structural fuel

/-- An operand of a level. -/
def readOperand (fuel depth : Nat) (level : Level) : Reading Term :=
  match fuel with
  | 0 => refuse
  | fuel + 1 =>
    match level.tighter? with
    | some tighter => readLevel fuel depth tighter
    | none => readFiltered fuel depth
termination_by structural fuel

/-- Further operands joined by the operators of a level. -/
def readOperators (fuel depth : Nat) (level : Level) (left : Term) : Reading Term :=
  match fuel with
  | 0 => refuse
  | fuel + 1 => do
    match ← peek with
    | some (.symbol s) =>
      match level.operator? s with
      | some op =>
        advance
        let right ← readOperand fuel depth level
        readOperators fuel depth level (.binary op left right)
      | none => return left
    | _ => return left
termination_by structural fuel

/-- A value with its attributes, items and calls, then its filters and tests. -/
def readFiltered (fuel depth : Nat) : Reading Term :=
  match fuel with
  | 0 => refuse
  | fuel + 1 => do
    let value ← readNegated fuel depth
    let value ← readAccesses fuel depth value
    readFilters fuel depth value
termination_by structural fuel

/-- A value with minus signs before it. -/
def readNegated (fuel depth : Nat) : Reading Term :=
  match fuel with
  | 0 => refuse
  | fuel + 1 => do
    if ← skipSymbol .minus then
      return .unary .negate (← readNegated fuel depth)
    else readPrimary fuel depth
termination_by structural fuel

/-- The attributes, items and calls after a value. -/
def readAccesses (fuel depth : Nat) (subject : Term) : Reading Term :=
  match fuel with
  | 0 => refuse
  | fuel + 1 => do
    match ← peek with
    | some (.symbol .dot) =>
      advance
      let name ← expectName
      readAccesses fuel depth (.field subject name)
    | some (.symbol .openBracket) =>
      advance
      let access ← readSubscript fuel depth subject
      readAccesses fuel depth access
    | some (.symbol .openParen) =>
      advance
      let arguments ← readArguments fuel depth false true
      readAccesses fuel depth (Term.callOf subject arguments)
    | _ => return subject
termination_by structural fuel

/-- An item or a slice, up to its closing bracket. -/
def readSubscript (fuel depth : Nat) (subject : Term) : Reading Term :=
  match fuel with
  | 0 => refuse
  | fuel + 1 => do
    let start ← if ← atSymbol .colon then pure none else some <$> readTerm fuel depth
    if ← skipSymbol .colon then
      let stop ←
        if (← atSymbol .closeBracket) || (← atSymbol .colon) then pure none
        else some <$> readTerm fuel depth
      let step ←
        if ← skipSymbol .colon then
          if ← atSymbol .closeBracket then pure none else some <$> readTerm fuel depth
        else pure none
      expectSymbol .closeBracket
      return .slice subject start stop step
    else
      expectSymbol .closeBracket
      match start with
      | some key => return .item subject key
      | none => refuse
termination_by structural fuel

/-- The filters and tests after a value. -/
def readFilters (fuel depth : Nat) (subject : Term) : Reading Term :=
  match fuel with
  | 0 => refuse
  | fuel + 1 => do
    match ← peek with
    | some (.symbol .bar) =>
      advance
      let name ← expectName
      let arguments ←
        if ← skipSymbol .openParen then readArguments fuel depth false true else pure []
      readFilters fuel depth (.filter name subject arguments)
    | some (.word "is") =>
      advance
      let negated ← skipWord "not"
      let name ← expectName
      let arguments ← readTestArguments fuel depth
      let test := Term.test name subject arguments
      readFilters fuel depth (if negated then .unary .not test else test)
    | _ => return subject
termination_by structural fuel

/-- The arguments of a test: in parentheses, or a single value without filters. -/
def readTestArguments (fuel depth : Nat) : Reading (List (Passing × Term)) :=
  match fuel with
  | 0 => refuse
  | fuel + 1 => do
    if ← skipSymbol .openParen then readArguments fuel depth false true
    else if (← peek).any startsArgument then
      let value ← readNegated fuel depth
      return [(.positional, ← readAccesses fuel depth value)]
    else return []
termination_by structural fuel

/-- Arguments up to the closing parenthesis.  `named` says that a named argument came before, after
which there are no positional ones; `first` that no argument came before. -/
def readArguments (fuel depth : Nat) (named first : Bool) : Reading (List (Passing × Term)) :=
  match fuel with
  | 0 => refuse
  | fuel + 1 => do
    if ← skipSymbol .closeParen then return []
    else
      if !first then expectSymbol .comma
      if ← (if first then pure false else skipSymbol .closeParen) then return []
      else if ← skipSymbol .starStar then
        let value ← readTerm fuel depth
        return (.keywordSpread, value) :: (← readArguments fuel depth true false)
      else if ← skipSymbol .star then
        let value ← readTerm fuel depth
        return (.spread, value) :: (← readArguments fuel depth named false)
      else
        let value ← readTerm fuel depth
        match value, ← atSymbol .assign with
        | .name name, true =>
          advance
          let value ← readOr fuel depth
          return (.keyword name, value) :: (← readArguments fuel depth true false)
        | value, _ =>
          if named then refuse
          else return (.positional, value) :: (← readArguments fuel depth false false)
termination_by structural fuel

/-- A literal, a name, or an expression in brackets. -/
def readPrimary (fuel depth : Nat) : Reading Term :=
  match fuel with
  | 0 => refuse
  | fuel + 1 => do
    if depthLimit ≤ depth then refuse
    else
      match ← next with
      | .word word => return ofWord word
      | .text s => return .literal (.text s)
      | .int n => return .literal (.int n)
      | .float x => return .literal (.float x)
      | .symbol .openParen => readParenthesized fuel (depth + 1)
      | .symbol .openBracket => return .list (← readItems fuel (depth + 1) .closeBracket true)
      | .symbol .openBrace => return .map (← readEntries fuel (depth + 1) true)
      | .symbol _ => refuse
termination_by structural fuel

/-- An expression in parentheses, or a list of several with commas between them. -/
def readParenthesized (fuel depth : Nat) : Reading Term :=
  match fuel with
  | 0 => refuse
  | fuel + 1 => do
    if ← skipSymbol .closeParen then return .list []
    else
      let value ← readTerm fuel depth
      if ← skipSymbol .comma then
        return .list (value :: (← readItems fuel depth .closeParen true))
      else
        expectSymbol .closeParen
        return value
termination_by structural fuel

/-- Items with commas between them up to a closing symbol; `first` says that none came before. -/
def readItems (fuel depth : Nat) (close : Symbol) (first : Bool) : Reading (List Term) :=
  match fuel with
  | 0 => refuse
  | fuel + 1 => do
    if ← skipSymbol close then return []
    else
      if !first then expectSymbol .comma
      if ← (if first then pure false else skipSymbol close) then return []
      else
        let value ← readTerm fuel depth
        return value :: (← readItems fuel depth close false)
termination_by structural fuel

/-- Entries of a map up to its closing brace; `first` says that none came before. -/
def readEntries (fuel depth : Nat) (first : Bool) : Reading (List (Term × Term)) :=
  match fuel with
  | 0 => refuse
  | fuel + 1 => do
    if ← skipSymbol .closeBrace then return []
    else
      if !first then expectSymbol .comma
      if ← (if first then pure false else skipSymbol .closeBrace) then return []
      else
        let key ← readTerm fuel depth
        expectSymbol .colon
        let value ← readTerm fuel depth
        return (key, value) :: (← readEntries fuel depth false)
termination_by structural fuel
end

/-- The expression that a list of tokens writes. -/
def readAll (tokens : List Lexeme) : Except Error Term := do
  let (term, rest) ← (readTerm (20 * tokens.length + 20) 0).run tokens
  match rest with
  | [] => return term
  | .ok _ :: _ => throw .malformed
  | .error e :: _ => throw e

/-- The expression that a text writes. -/
def ofText (s : String) : Except Error Term :=
  readAll (Token.ofText s)

end Platen.Script.Reader
