/-!
# Sets of code points given by their bounds

A set of code points is stored as the increasing list of the places where membership changes: the
first bound opens a range, the second closes it before that code point, and so on.  A code point is
in the set exactly when an odd number of bounds lie at or below it.
-/

namespace Platen.Text

/-- The number of bounds at or below `n`, looked for between the positions `low` and `high`. -/
def boundsUpTo (bounds : Array Nat) (n low high : Nat) : Nat :=
  if low < high then
    let middle := (low + high) / 2
    if bounds.getD middle 0 ≤ n then boundsUpTo bounds n (middle + 1) high
    else boundsUpTo bounds n low middle
  else low
termination_by high - low

/-- Whether `n` lies in the set with these bounds. -/
def inBounds (bounds : Array Nat) (n : Nat) : Bool :=
  boundsUpTo bounds n 0 bounds.size % 2 == 1

end Platen.Text
