import Platen.Calendar.Date
import Platen.Decimal.Reader
import Platen.Text.Blank

/-!
# Reading dates

A date is written as year, month and day with hyphens, alone or followed by a mark and the time of
day with colons.  White space may stand before each number.  A year with a sign may have any number
of digits, one without at most four; every other number has one or two digits.
-/

namespace Platen.Date

open Decimal Text

/-- One to `most` digits after white space, and what follows them. -/
def readField? (most : Nat) (cs : List Char) : Option (Nat × List Char) :=
  let cs := dropBlanks cs
  let digits := (cs.take most).takeWhile Char.isDigit
  if digits.isEmpty then none else some (digitsValue digits, cs.drop digits.length)

/-- A year, and what follows it. -/
def readYear? (cs : List Char) : Option (Int × List Char) :=
  match dropBlanks cs with
  | '-' :: rest =>
    let (digits, rest) := spanDigits rest
    if digits.isEmpty then none else some (-Int.ofNat (digitsValue digits), rest)
  | '+' :: rest =>
    let (digits, rest) := spanDigits rest
    if digits.isEmpty then none else some (Int.ofNat (digitsValue digits), rest)
  | cs => (readField? 4 cs).map fun (n, rest) => (Int.ofNat n, rest)

/-- What follows the mark `c`. -/
def readMark? (c : Char) (cs : List Char) : Option (List Char) :=
  match cs with
  | d :: rest => if c = d then some rest else none
  | [] => none

/-- Year, month and day, and what follows them. -/
def readDay? (cs : List Char) : Option (Int × Nat × Nat × List Char) := do
  let (year, cs) ← readYear? cs
  let cs ← readMark? '-' cs
  let (month, cs) ← readField? 2 cs
  let cs ← readMark? '-' cs
  let (day, cs) ← readField? 2 cs
  some (year, month, day, cs)

/-- Hour, minute and second, and what follows them. -/
def readTime? (cs : List Char) : Option (Nat × Nat × Nat × List Char) := do
  let (hour, cs) ← readField? 2 cs
  let cs ← readMark? ':' cs
  let (minute, cs) ← readField? 2 cs
  let cs ← readMark? ':' cs
  let (second, cs) ← readField? 2 cs
  some (hour, minute, second, cs)

/-- What stands between the day and the time of day. -/
inductive Separator where
  /-- The letter `T`. -/
  | letter
  /-- White space, possibly none. -/
  | blank
  deriving DecidableEq, Repr

/-- What follows a separator. -/
def Separator.read? : Separator → List Char → Option (List Char)
  | .letter, cs => readMark? 'T' cs
  | .blank, cs => some (dropBlanks cs)

/-- The date with the given fields in a year of the calendar. -/
def ofCalendar? (year : Int) (month day hour minute second : Nat) : Option Date :=
  if Calendar.coversYear year then ofFields? year month day hour minute second else none

/-- A day and a time of day, up to the end of the text. -/
def readStamp? (separator : Separator) (cs : List Char) : Option Date := do
  let (year, month, day, cs) ← readDay? cs
  let cs ← separator.read? cs
  let (hour, minute, second, cs) ← readTime? cs
  if cs.isEmpty then ofCalendar? year month day hour minute second else none

/-- A day alone, up to the end of the text; its time of day is midnight. -/
def readDayOnly? (cs : List Char) : Option Date := do
  let (year, month, day, cs) ← readDay? cs
  if cs.isEmpty then ofCalendar? year month day 0 0 0 else none

/-- The date that a text writes in one of the three layouts. -/
def read? (cs : List Char) : Option Date :=
  readStamp? .letter cs <|> readStamp? .blank cs <|> readDayOnly? cs

end Platen.Date
