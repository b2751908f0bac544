/-!
# Errors of scripts

Every way in which reading or evaluating an expression can fail, with its wording.
-/

namespace Platen.Script

/-- Why an expression has no value. -/
inductive Error where
  /-- The text is not an expression. -/
  | malformed
  | badEscape
  | invalidOperation
  /-- A missing value is used where one is needed. -/
  | undefinedValue
  | unknownFilter
  | unknownTest
  | unknownFunction
  | unknownMethod
  | unknownBlock
  | missingArgument
  | tooManyArguments
  /-- The expression as a whole has no value. -/
  | undefinedResult (expression : String)
  /-- The result is an integer of more than 64 bits. -/
  | numberOutOfRange
  /-- The result has a map key that cannot be written as text. -/
  | keyNotText
  | keyNotFinite
  deriving DecidableEq, Repr

/-- The wording of an error. -/
def Error.message : Error → String
  | malformed => "syntax error"
  | badEscape => "bad string escape"
  | invalidOperation => "invalid operation"
  | undefinedValue => "undefined value"
  | unknownFilter => "unknown filter"
  | unknownTest => "unknown test"
  | unknownFunction => "unknown function"
  | unknownMethod => "unknown method"
  | unknownBlock => "unknown block"
  | missingArgument => "missing argument"
  | tooManyArguments => "too many arguments"
  | undefinedResult expression => "'" ++ expression ++ "' is undefined"
  | numberOutOfRange => "number out of range"
  | keyNotText => "key must be a string"
  | keyNotFinite => "float key must be finite"

end Platen.Script
