import Platen.Entries

/-!
# JSON documents

Numbers are kept in two kinds: integers, and everything else as floating-point numbers.  The members
of an object are in the order of their names.
-/

namespace Platen

/-- A JSON document. -/
inductive Json where
  | null
  | bool (b : Bool)
  | int (i : Int)
  | float (x : Float)
  | text (s : String)
  | list (items : List Json)
  | object (members : List (String × Json))
  deriving Inhabited

namespace Json

/-- Why a text is not a JSON document. -/
inductive ReadError where
  /-- The text breaks a rule of the grammar or a limit on numbers and nesting. -/
  | malformed
  /-- The text ends before the document does. -/
  | endOfText
  deriving DecidableEq, Repr

end Json

end Platen
