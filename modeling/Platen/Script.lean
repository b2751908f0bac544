import Platen.Placeholder.Render
import Platen.Script.Eval
import Platen.Script.Exchange
import Platen.Script.Reader
import Platen.Text.Blank

/-!
# Scripts

An expression is read, evaluated among named values, and its result brought back as data.  Globals
are visible to every expression; bindings of the same name hide them.
-/

namespace Platen.Script

/-- Named values as a script sees them. -/
def scopeOf (globals bindings : Entries Value) : Scope :=
  { bindings := Datum.ofEntries bindings, globals := Datum.ofEntries globals }

/-- The value of an expression; an undefined one is refused. -/
def evaluate (globals : Entries Value) (expression : String) (bindings : Entries Value) :
    Except Error Value := do
  let term ← Reader.ofText expression
  match ← eval (scopeOf globals bindings) term with
  | .undefined => .error (.undefinedResult (Text.trim expression))
  | result => return Value.ofJson (← result.toJson)

/-- The evaluator of a report with given globals. -/
def evaluator (globals : Entries Value) : Evaluator :=
  fun expression bindings => (evaluate globals expression bindings).mapError Error.message

end Platen.Script
