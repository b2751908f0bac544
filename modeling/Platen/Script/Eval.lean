import Platen.Entries
import Platen.Script.Filter
import Platen.Script.Function

/-!
# Evaluation

The value of an expression among named values.  Operands are evaluated from left to right, `and`,
`or` and conditionals only as far as needed.  Missing values may be passed on, but using one as a
truth value or as the subject of a field, item or slice is an error.
-/

namespace Platen.Script

/-- The named values that an expression sees.  Bindings hide globals, and both hide functions. -/
structure Scope where
  bindings : Entries Datum := []
  globals : Entries Datum := []

/-- What a name stands for, if anything. -/
def Scope.find? (scope : Scope) (name : String) : Option Datum :=
  match scope.bindings.get? name with
  | some d => some d
  | none =>
    match scope.globals.get? name with
    | some d => some d
    | none => (Function.find? name).map fun _ => .function name

/-- A literal as a value. -/
def Literal.datum : Literal → Datum
  | .none => .none
  | .bool b => .bool b
  | .int n => .int n
  | .float x => .float x
  | .text s => Datum.ofText s

/-! ## Arguments -/

/-- Whether an argument has a name, so that it comes after those in order. -/
def Passing.isNamed : Passing → Bool
  | .positional | .spread => false
  | .keyword _ | .keywordSpread => true

/-- The arguments in order, with the items of those that are spread out. -/
def spreadOut : List (Passing × Datum) → Except Error Arguments
  | [] => .ok []
  | (.spread, d) :: rest =>
    match d.items? with
    | some items => do return items.map .value ++ (← spreadOut rest)
    | none => .error .invalidOperation
  | (_, d) :: rest => do return .value d :: (← spreadOut rest)

/-- The named arguments together; of two with one name the later wins. -/
def mergeNamed (entries : Named) : List (Passing × Datum) → Except Error Named
  | [] => .ok entries
  | (.keyword name, d) :: rest => mergeNamed (Datum.insert (Datum.ofText name) d entries) rest
  | (_, .map added) :: rest =>
    mergeNamed (added.foldl (fun entries (key, d) => Datum.insert key d entries) entries) rest
  | (_, _) :: _ => .error .invalidOperation

/-- The arguments of a call from those in order and those with names. -/
def gather (ordered named : List (Passing × Datum)) : Except Error Arguments := do
  match named with
  | [] => spreadOut ordered
  | named =>
    let entries ← mergeNamed [] named
    return (← spreadOut ordered) ++ [.named entries]

/-! ## Calls -/

/-- The value of a call of a value. -/
def callDatum (callee : Datum) (args : Arguments) : Except Error Datum :=
  match callee with
  | .function name =>
    match Function.find? name with
    | some run => run args
    | none => .error .invalidOperation
  | _ => .error .invalidOperation

/-- The value of a call of a name.  The two names that only templates can call are refused. -/
def callName (scope : Scope) (name : String) (args : Arguments) : Except Error Datum :=
  if name = "super" || name = "loop" then .error .invalidOperation
  else
    match scope.find? name with
    | some callee => callDatum callee args
    | none => .error .unknownFunction

/-- The value of a call of a method: of the value in the field of that name. -/
def callMethod (subject : Datum) (name : String) (args : Arguments) : Except Error Datum :=
  match subject.field? name with
  | some callee => callDatum callee args
  | none => .error .unknownMethod

/-! ## Expressions -/

/-- The value of an operator on one operand. -/
def UnaryOp.apply (op : UnaryOp) (d : Datum) : Except Error Datum :=
  match op with
  | .not => d.truth.map fun b => .bool !b
  | .negate => d.negate

/-- Whether the first operand decides alone. -/
def LogicOp.decides (op : LogicOp) (first : Bool) : Bool :=
  match op with
  | .and => !first
  | .or => first

mutual
/-- The value of an expression. -/
def eval (scope : Scope) : Term → Except Error Datum
  | .literal value => .ok value.datum
  | .name name => .ok ((scope.find? name).getD .undefined)
  | .list items => do return Datum.ofList (← evalItems scope items)
  | .map entries => do return Datum.ofPairs (← evalEntries scope entries)
  | .unary op operand => do op.apply (← eval scope operand)
  | .binary op left right => do
    let a ← eval scope left
    let b ← eval scope right
    op.apply a b
  | .logic op left right => do
    let a ← eval scope left
    if op.decides (← a.truth) then return a else eval scope right
  | .conditional test yes no => do
    let a ← eval scope test
    if ← a.truth then eval scope yes else evalOr scope .undefined no
  | .field subject name => do
    let d ← eval scope subject
    d.getField name
  | .item subject key => do
    let d ← eval scope subject
    let k ← eval scope key
    d.getItem k
  | .slice subject start stop step => do
    let d ← eval scope subject
    let start ← evalOr scope .none start
    let stop ← evalOr scope .none stop
    let step ← evalOr scope .none step
    match d with
    | .undefined => .error .undefinedValue
    | d => d.slice start stop step
  | .call name args => do
    let ordered ← evalPassed scope false args
    let named ← evalPassed scope true args
    callName scope name (← gather ordered named)
  | .method subject name args => do
    let d ← eval scope subject
    let ordered ← evalPassed scope false args
    let named ← evalPassed scope true args
    callMethod d name (← gather ordered named)
  | .apply callee args => do
    let d ← eval scope callee
    let ordered ← evalPassed scope false args
    let named ← evalPassed scope true args
    callDatum d (← gather ordered named)
  | .block _ => .error .unknownBlock
  | .filter name subject args => do
    let d ← eval scope subject
    let ordered ← evalPassed scope false args
    let named ← evalPassed scope true args
    Filter.run name d (← gather ordered named)
  | .test name subject args => do
    let d ← eval scope subject
    let ordered ← evalPassed scope false args
    let named ← evalPassed scope true args
    return .bool (← Filter.runTest name d (← gather ordered named))

/-- The value of an expression that may be absent. -/
def evalOr (scope : Scope) (absent : Datum) : Option Term → Except Error Datum
  | none => .ok absent
  | some term => eval scope term

/-- The values of expressions. -/
def evalItems (scope : Scope) : List Term → Except Error (List Datum)
  | [] => .ok []
  | term :: rest => do
    let d ← eval scope term
    return d :: (← evalItems scope rest)

/-- The keys and values of map entries. -/
def evalEntries (scope : Scope) : List (Term × Term) → Except Error (List (Datum × Datum))
  | [] => .ok []
  | (key, value) :: rest => do
    let k ← eval scope key
    let d ← eval scope value
    return (k, d) :: (← evalEntries scope rest)

/-- The values of those arguments that have names, or of those that have none. -/
def evalPassed (scope : Scope) (named : Bool) :
    List (Passing × Term) → Except Error (List (Passing × Datum))
  | [] => .ok []
  | (passing, term) :: rest =>
    if passing.isNamed == named then do
      let d ← eval scope term
      return (passing, d) :: (← evalPassed scope named rest)
    else evalPassed scope named rest
end

end Platen.Script
