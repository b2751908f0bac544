import Platen.Formatter

/-!
# Errors

What can go wrong when a report is put together: a placeholder that cannot be resolved, a section
that does not fit on its page, and a line that a page does not take.
-/

namespace Platen

/-- The steps of a placeholder that can fail. -/
inductive PlaceholderError.Kind where
  | missingMember
  | evaluation
  | aggregateMismatch
  | format
  | malformed
  deriving DecidableEq, Repr

/-- The words for a kind of error. -/
def PlaceholderError.Kind.name : PlaceholderError.Kind → String
  | missingMember => "missing member"
  | evaluation => "evaluation error"
  | aggregateMismatch => "aggregate type mismatch"
  | format => "format error"
  | malformed => "syntax error"

/-- Why a placeholder cannot be read or resolved. -/
inductive PlaceholderError where
  /-- No source answers the member. -/
  | missingMember (name : String)
  /-- The evaluator refuses the expression. -/
  | evaluation (detail : String)
  /-- An aggregate is asked of something that is not a list. -/
  | notCollection (kind : Value.Kind)
  /-- An aggregate is asked of a list with values of several kinds. -/
  | mixedCollection (first odd : Value.Kind)
  /-- A sum is asked of values that are not numbers. -/
  | sumNotNumeric
  /-- The formatter refuses the value. -/
  | format (cause : FormatError)
  | emptyMember
  | emptyExpression
  | unknownModifier (segment : String)
  | secondFormatter
  | secondAggregate
  deriving DecidableEq, Repr

namespace PlaceholderError

/-- The step that failed. -/
def kind : PlaceholderError → Kind
  | missingMember _ => .missingMember
  | evaluation _ => .evaluation
  | notCollection _ | mixedCollection .. | sumNotNumeric => .aggregateMismatch
  | format _ => .format
  | emptyMember | emptyExpression | unknownModifier _ | secondFormatter | secondAggregate =>
    .malformed

/-- The wording of the cause. -/
def detail : PlaceholderError → String
  | missingMember name => "no data source has member '" ++ name ++ "'"
  | evaluation text => text
  | notCollection kind => "aggregate needs a collection, got a " ++ kind.name
  | mixedCollection first odd =>
    "collection mixes " ++ first.name ++ " and " ++ odd.name ++ " values"
  | sumNotNumeric => "sum needs numeric values"
  | format cause => cause.message
  | emptyMember => "empty member name"
  | emptyExpression => "empty expression"
  | unknownModifier segment => "unknown modifier '" ++ segment ++ "'"
  | secondFormatter => "more than one formatter"
  | secondAggregate => "sum and count are mutually exclusive"

/-- Kind and cause in one line. -/
def message (e : PlaceholderError) : String :=
  e.kind.name ++ ": " ++ e.detail

end PlaceholderError

/-- Why a line cannot be put on a page. -/
inductive DocumentError where
  | pageFull (page : Nat)
  | positionOutOfRange (page position : Nat)
  deriving DecidableEq, Repr

/-- The wording of an error. -/
def DocumentError.message : DocumentError → String
  | pageFull page => "Page " ++ toString page ++ " is full"
  | positionOutOfRange page position =>
    "Position " ++ toString position ++ " is out of range for page " ++ toString page

/-- Why there is no room for the lines of a section. -/
inductive Shortage where
  /-- The first row would stand at or below the footer. -/
  | sectionBelowFooter (start footerStart : Nat)
  /-- Header and footer of the section fill its pages. -/
  | sectionWithoutRows
  /-- Header and footer of the report fill a new page. -/
  | pageWithoutContent
  deriving DecidableEq, Repr

/-- The wording of a shortage. -/
def Shortage.message : Shortage → String
  | sectionBelowFooter start footerStart =>
    "section starts at line " ++ toString start ++ " but its footer starts at line "
      ++ toString footerStart
  | sectionWithoutRows => "section header and footer leave no room for rows"
  | pageWithoutContent => "page header and footer leave no room for content"

/-- Why a report cannot be filled. -/
inductive FillError where
  | invalidPlaceholder (expression : String) (cause : PlaceholderError)
  | insufficientSpace (page : Nat) (shortage : Shortage)
  | document (cause : DocumentError)
  deriving DecidableEq, Repr

/-- The placeholder that is at fault and the step that failed. -/
def FillError.place (expression : String) (kind : PlaceholderError.Kind) : String :=
  "Invalid placeholder '" ++ expression ++ "' (" ++ kind.name ++ ")"

/-- The wording of an error. -/
def FillError.message : FillError → String
  | invalidPlaceholder expression cause => place expression cause.kind ++ ": " ++ cause.detail
  | insufficientSpace page shortage =>
    "Insufficient page space on page " ++ toString page ++ ": " ++ shortage.message
  | document cause => cause.message

end Platen
