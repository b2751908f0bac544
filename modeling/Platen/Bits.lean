/-!
# Integers of a number of bits

The ranges of integers that a number of bits can hold, with a sign or without, and what bits keep of
an integer that is out of range.
-/

namespace Platen.Bits

/-- The number of values that bits can hold. -/
def span (bits : Nat) : Nat := Nat.pow 2 bits

/-- Whether bits hold an integer without a sign. -/
def unsigned (bits : Nat) (i : Int) : Bool :=
  0 ≤ i && i < span bits

/-- Whether bits hold an integer, one of them being its sign. -/
def signed (bits : Nat) (i : Int) : Bool :=
  -(span (bits - 1) : Int) ≤ i && i < span (bits - 1)

/-- The greatest integer that bits hold without a sign. -/
def greatest (bits : Nat) : Int := span bits - 1

/-- What bits keep of an integer, one of them being its sign. -/
def wrap (bits : Nat) (i : Int) : Int := i.bmod (span bits)

variable {bits : Nat} {i : Int}

/-- With one bit more there are twice as many values. -/
theorem span_eq (hbits : 0 < bits) : span bits = 2 * span (bits - 1) := by
  obtain ⟨fewer, rfl⟩ : ∃ fewer, bits = fewer + 1 := ⟨bits - 1, by omega⟩
  rw [Nat.add_sub_cancel]
  exact Nat.pow_succ'

/-- An integer within range is kept. -/
theorem wrap_of_signed (hbits : 0 < bits) (hi : signed bits i = true) : wrap bits i = i := by
  simp only [signed, Bool.and_eq_true, decide_eq_true_eq] at hi
  have hspan := span_eq hbits
  rw [wrap, Int.bmod_eq_of_le] <;> omega

end Platen.Bits
