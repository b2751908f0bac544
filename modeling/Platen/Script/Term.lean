/-!
# Expressions

The tree of an expression.  Arguments of calls, filters and tests are given by position, by name, or
spread out from a list or a map.
-/

namespace Platen.Script

/-- Operators with two operands that are both always evaluated. -/
inductive BinaryOp where
  | add
  | sub
  | mul
  | div
  | floorDiv
  | rem
  | pow
  | concat
  | equal
  | notEqual
  | less
  | lessEqual
  | greater
  | greaterEqual
  | member
  deriving DecidableEq, Repr

/-- Operators with two operands of which the first may decide alone. -/
inductive LogicOp where
  | and
  | or
  deriving DecidableEq, Repr

/-- Operators with one operand. -/
inductive UnaryOp where
  | not
  | negate
  deriving DecidableEq, Repr

/-- A value that is written out in an expression. -/
inductive Literal where
  | none
  | bool (b : Bool)
  | int (n : Nat)
  | float (x : Float)
  | text (s : String)

/-- How an argument is passed. -/
inductive Passing where
  | positional
  | spread
  | keyword (name : String)
  | keywordSpread
  deriving DecidableEq, Repr

/-- An expression. -/
inductive Term where
  | literal (value : Literal)
  | name (name : String)
  | list (items : List Term)
  | map (entries : List (Term × Term))
  | unary (op : UnaryOp) (operand : Term)
  | binary (op : BinaryOp) (left right : Term)
  | logic (op : LogicOp) (left right : Term)
  | conditional (test yes : Term) (no : Option Term)
  | field (subject : Term) (name : String)
  | item (subject key : Term)
  | slice (subject : Term) (start stop step : Option Term)
  | call (name : String) (arguments : List (Passing × Term))
  | method (subject : Term) (name : String) (arguments : List (Passing × Term))
  | apply (callee : Term) (arguments : List (Passing × Term))
  | block (name : String)
  | filter (name : String) (subject : Term) (arguments : List (Passing × Term))
  | test (name : String) (subject : Term) (arguments : List (Passing × Term))
  deriving Inhabited

namespace Term

/-- The call of an expression: of a function by its name, of a method, or of whatever the expression
yields. -/
def callOf (callee : Term) (arguments : List (Passing × Term)) : Term :=
  match callee with
  | .name f => .call f arguments
  | .field (.name "self") f => .block f
  | .field subject f => .method subject f arguments
  | callee => .apply callee arguments

end Term

end Platen.Script
