/-!
# Padding to a width

A text is brought to an exact number of characters: cut after the width, or filled with spaces on
the side that its alignment leaves open.  Width zero means that the text is left alone.
-/

namespace Platen

/-- Where a text stands in a field that is wider than it. -/
inductive Alignment where
  | left
  | right
  | center
  deriving DecidableEq, Repr

/-- The number of spaces to the left of a text in a field with `gap` free places. -/
def Alignment.before (alignment : Alignment) (gap : Nat) : Nat :=
  match alignment with
  | .left => 0
  | .right => gap
  | .center => gap / 2

/-- An alignment leaves at most the free places to the left of a text. -/
theorem Alignment.before_le (alignment : Alignment) (gap : Nat) : alignment.before gap ≤ gap := by
  cases alignment
  · exact Nat.zero_le gap
  · exact Nat.le_refl gap
  · exact Nat.div_le_self gap 2

namespace Text

/-- A row of `n` spaces. -/
def blanks (n : Nat) : List Char :=
  List.replicate n ' '

/-- The characters brought to exactly `width`, which is not zero. -/
def fitTo (width : Nat) (alignment : Alignment) (cs : List Char) : List Char :=
  if width ≤ cs.length then cs.take width
  else
    let gap := width - cs.length
    let left := alignment.before gap
    blanks left ++ cs ++ blanks (gap - left)

/-- A text padded or cut to `width` characters; width zero leaves it untouched. -/
def pad (text : String) (width : Nat) (alignment : Alignment) : String :=
  if width = 0 then text else String.ofList (fitTo width alignment text.toList)

/-- A fitted text has exactly the width asked for. -/
theorem length_fitTo (width : Nat) (alignment : Alignment) (cs : List Char) :
    (fitTo width alignment cs).length = width := by
  have h := Alignment.before_le alignment (width - cs.length)
  unfold fitTo
  split
  · simp [List.length_take]; omega
  · simp [blanks]; omega

end Text

end Platen
