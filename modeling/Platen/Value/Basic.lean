import Platen.Calendar.Date
import Platen.Entries

/-!
# Values

The data that fills a report: scalars, dates, lists, maps and objects.  An object is known by its
handle alone; it answers some properties and some operations, and lists the names of the properties
that are shown.
-/

namespace Platen

/-- A piece of data. -/
inductive Value where
  | null
  | bool (b : Bool)
  | int (i : Int)
  | float (x : Float)
  | text (s : String)
  | date (d : Date)
  | list (items : List Value)
  | map (entries : List (String × Value))
  | object (handle : Nat) (properties operations : List (String × Value)) (names : List String)
  deriving Inhabited

namespace Value

/-- Whether a value is missing. -/
def isNull : Value → Bool
  | null => true
  | _ => false

/-- Whether a value is a number. -/
def isNumeric : Value → Bool
  | int _ | float _ => true
  | _ => false

/-- The kinds of values that are told apart when they are named. -/
inductive Kind where
  | null
  | bool
  | number
  | text
  | date
  | list
  | map
  | object
  deriving DecidableEq, Repr

/-- The kind of a value; both sorts of numbers are of one kind. -/
def kind : Value → Kind
  | null => .null
  | bool _ => .bool
  | int _ | float _ => .number
  | text _ => .text
  | date _ => .date
  | list _ => .list
  | map _ => .map
  | object .. => .object

/-- The word for a kind. -/
def Kind.name : Kind → String
  | .null => "null"
  | .bool => "bool"
  | .number => "number"
  | .text => "text"
  | .date => "date"
  | .list => "list"
  | .map => "map"
  | .object => "object"

mutual
/-- Equality of values.  Numbers of different sorts differ, floating-point numbers are compared as
numbers, and objects are equal only to themselves. -/
def beq : Value → Value → Bool
  | null, null => true
  | bool a, bool b => a == b
  | int a, int b => a == b
  | float a, float b => a == b
  | text a, text b => a == b
  | date a, date b => a == b
  | list a, list b => beqItems a b
  | map a, map b => beqEntries a b
  | object a .., object b .. => a == b
  | _, _ => false

/-- Equality of lists of values. -/
def beqItems : List Value → List Value → Bool
  | [], [] => true
  | a :: as, b :: bs => beq a b && beqItems as bs
  | _, _ => false

/-- Equality of lists of named values. -/
def beqEntries : List (String × Value) → List (String × Value) → Bool
  | [], [] => true
  | (m, a) :: as, (n, b) :: bs => m == n && beq a b && beqEntries as bs
  | _, _ => false
end

instance : BEq Value := ⟨beq⟩

end Value

end Platen
