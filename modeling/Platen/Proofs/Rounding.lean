import Mathlib.Algebra.Order.Field.Rat
import Mathlib.Tactic.Linarith
import Mathlib.Tactic.Ring
import Platen.Decimal.Fixed

/-!
# Rounding to units of a place

A decimal with a fixed number of places counts the units of its last place.  The number of units is
the rounded quotient of two natural numbers.  This module proves that it is the nearest one, when it
is zero, and that whole numbers are written without rounding.

Main results:

- Theorem `roundHalfEven_nearest`: no multiple is nearer than the one that is rounded to.
- Theorem `fixedUnits_bounds`: the units are at most a half away from the number.
- Theorem `fixedUnits_of_whole`: a whole number has the units that it stands for.
-/

namespace Platen.Decimal

/-! ## Quotients -/

/-- A quotient is rounded down if the rest is at most one half, and up if it is at least that. -/
theorem roundHalfEven_cases (n d : Nat) :
    roundHalfEven n d = n / d ∧ 2 * (n % d) ≤ d ∨
      roundHalfEven n d = n / d + 1 ∧ d ≤ 2 * (n % d) := by
  rw [roundHalfEven]
  split_ifs <;> omega

/-- A fraction is at most a half away from the integer it is rounded to. -/
theorem roundHalfEven_bounds (n : Nat) {d : Nat} (hd : 0 < d) :
    2 * n ≤ (2 * roundHalfEven n d + 1) * d ∧ 2 * roundHalfEven n d * d ≤ 2 * n + d := by
  have hdiv : d * (n / d) + n % d = n := Nat.div_add_mod n d
  have hup : ∀ q, (2 * q + 1) * d = 2 * (d * q) + d := fun q => by ring
  have hdown : ∀ q, 2 * q * d = 2 * (d * q) := fun q => by ring
  rw [hup, hdown]
  rcases roundHalfEven_cases n d with ⟨hround, hrest⟩ | ⟨hround, hrest⟩ <;> rw [hround]
  · omega
  · rw [Nat.mul_succ]
    have hmod : n % d < d := Nat.mod_lt n hd
    omega

/-- No multiple is nearer than the one that is rounded to. -/
theorem roundHalfEven_nearest (n other : Nat) {d : Nat} (hd : 0 < d) :
    |(roundHalfEven n d * d : Int) - n| ≤ |(other * d : Int) - n| := by
  obtain ⟨habove, hbelow⟩ := roundHalfEven_bounds n hd
  have habove : (2 * n : Int) ≤ 2 * (roundHalfEven n d * d) + d := by
    exact_mod_cast (by linarith : 2 * n ≤ 2 * (roundHalfEven n d * d) + d)
  have hbelow : (2 * (roundHalfEven n d * d) : Int) ≤ 2 * n + d := by
    exact_mod_cast (by linarith : 2 * (roundHalfEven n d * d) ≤ 2 * n + d)
  rcases Nat.lt_trichotomy other (roundHalfEven n d) with hlt | rfl | hgt
  · have hgap : (other * d + d : Int) ≤ roundHalfEven n d * d := by
      exact_mod_cast (by nlinarith : other * d + d ≤ roundHalfEven n d * d)
    rw [abs_sub_comm (other * d : Int), abs_le]
    have habs := le_abs_self ((n : Int) - other * d)
    constructor <;> linarith
  · exact le_rfl
  · have hgap : (roundHalfEven n d * d + d : Int) ≤ other * d := by
      exact_mod_cast (by nlinarith : roundHalfEven n d * d + d ≤ other * d)
    rw [abs_le]
    have habs := le_abs_self ((other * d : Int) - n)
    constructor <;> linarith

/-- What is at most one half is rounded to zero. -/
theorem roundHalfEven_eq_zero_iff (n : Nat) {d : Nat} (hd : 0 < d) :
    roundHalfEven n d = 0 ↔ 2 * n ≤ d := by
  rcases Nat.lt_or_ge n d with hlt | hge
  · rw [roundHalfEven, Nat.div_eq_of_lt hlt, Nat.mod_eq_of_lt hlt, Nat.zero_mod, if_pos rfl]
    by_cases habove : d < 2 * n
    · rw [if_neg (by omega), if_pos habove]
      exact iff_of_false (by decide) (by omega)
    · rw [if_neg habove, ite_self]
      exact iff_of_true rfl (by omega)
  · have hquotient : 0 < n / d := Nat.div_pos hge hd
    rcases roundHalfEven_cases n d with ⟨hround, -⟩ | ⟨hround, -⟩ <;> omega

/-- A quotient without rest is kept. -/
theorem roundHalfEven_mul (n : Nat) {d : Nat} (hd : 0 < d) : roundHalfEven (n * d) d = n := by
  rw [roundHalfEven, Nat.mul_div_cancel n hd, Nat.mul_mod_left, if_pos (by omega)]

/-- An integer is its own rounding. -/
theorem roundHalfEven_one (n : Nat) : roundHalfEven n 1 = n := by
  simpa using roundHalfEven_mul n Nat.one_pos

/-- A common factor does not matter. -/
theorem roundHalfEven_mul_mul (n d : Nat) {c : Nat} (hc : 0 < c) :
    roundHalfEven (n * c) (d * c) = roundHalfEven n d := by
  have hbelow : 2 * (n % d * c) < d * c ↔ 2 * (n % d) < d := by
    rw [← Nat.mul_assoc, Nat.mul_lt_mul_right hc]
  have habove : d * c < 2 * (n % d * c) ↔ d < 2 * (n % d) := by
    rw [← Nat.mul_assoc, Nat.mul_lt_mul_right hc]
  rw [roundHalfEven, roundHalfEven, Nat.mul_div_mul_right n d hc, Nat.mul_mod_mul_right]
  simp only [hbelow, habove]

/-- A quotient is at most a half away from the integer it is rounded to. -/
theorem abs_roundHalfEven_sub_div_le (n : Nat) {d : Nat} (hd : 0 < d) :
    |(roundHalfEven n d : ℚ) - n / d| ≤ 1 / 2 := by
  obtain ⟨habove, hbelow⟩ := roundHalfEven_bounds n hd
  have hcast : (0 : ℚ) < d := Nat.cast_pos.mpr hd
  have habove : (2 * n : ℚ) ≤ (2 * roundHalfEven n d + 1) * d := by exact_mod_cast habove
  have hbelow : (2 * roundHalfEven n d * d : ℚ) ≤ 2 * n + d := by exact_mod_cast hbelow
  rw [abs_le]
  constructor
  · rw [neg_le_sub_iff_le_add, div_le_iff₀ hcast]
    linarith
  · rw [sub_le_iff_le_add, ← sub_le_iff_le_add', le_div_iff₀ hcast]
    linarith

/-! ## Units of the last place -/

/-- With an exponent that is not negative a significand is multiplied. -/
theorem mul_zpow_of_nonneg (significand : Nat) {exponent : Int} (hexponent : 0 ≤ exponent) :
    (significand * 2 ^ exponent : ℚ) = (significand * Nat.pow 2 exponent.toNat : Nat) := by
  have hcast : (2 : ℚ) ^ exponent = 2 ^ exponent.toNat := by
    rw [← zpow_natCast, Int.toNat_of_nonneg hexponent]
  rw [hcast, Nat.cast_mul]
  norm_cast

/-- With a negative exponent a significand is divided. -/
theorem mul_zpow_of_neg (significand : Nat) {exponent : Int} (hexponent : exponent < 0) :
    (significand * 2 ^ exponent : ℚ) = significand / (Nat.pow 2 (-exponent).toNat : Nat) := by
  have hcast : (2 : ℚ) ^ exponent = ((2 : ℚ) ^ (-exponent).toNat)⁻¹ := by
    rw [← zpow_natCast, Int.toNat_of_nonneg (by omega), zpow_neg, inv_inv]
  rw [hcast, div_eq_mul_inv]
  norm_cast

/-- The units of the last place are a rounded quotient. -/
theorem exists_fixedUnits_eq (places significand : Nat) (exponent : Int) :
    ∃ n d, 0 < d ∧ fixedUnits places significand exponent = roundHalfEven n d ∧
      (significand * 2 ^ exponent * 10 ^ places : ℚ) = n / d := by
  have hten : ((Nat.pow 10 places : Nat) : ℚ) = 10 ^ places := by norm_cast
  rcases le_or_gt 0 exponent with hexponent | hexponent
  · refine ⟨significand * Nat.pow 2 exponent.toNat * Nat.pow 10 places, 1, Nat.one_pos, ?_, ?_⟩
    · rw [fixedUnits, if_pos hexponent, roundHalfEven_one]
    · rw [mul_zpow_of_nonneg significand hexponent, Nat.cast_one, div_one,
        Nat.cast_mul _ (Nat.pow 10 places), hten]
  · refine ⟨significand * Nat.pow 10 places, Nat.pow 2 (-exponent).toNat, Nat.two_pow_pos _, ?_, ?_⟩
    · rw [fixedUnits, if_neg (by omega)]
    · rw [mul_zpow_of_neg significand hexponent, div_mul_eq_mul_div, Nat.cast_mul, hten]

variable {significand : Nat} {exponent : Int}

/-- The units of the last place are at most a half away from the number. -/
theorem fixedUnits_bounds (places significand : Nat) (exponent : Int) :
    |(fixedUnits places significand exponent : ℚ) - significand * 2 ^ exponent * 10 ^ places| ≤
      1 / 2 := by
  obtain ⟨n, d, hd, hunits, hvalue⟩ := exists_fixedUnits_eq places significand exponent
  rw [hunits, hvalue]
  exact abs_roundHalfEven_sub_div_le n hd

/-- A number is rounded to zero if it is at most half a unit. -/
theorem fixedUnits_eq_zero_iff (places significand : Nat) (exponent : Int) :
    fixedUnits places significand exponent = 0 ↔
      significand * 2 ^ exponent * 10 ^ places ≤ (1 / 2 : ℚ) := by
  obtain ⟨n, d, hd, hunits, hvalue⟩ := exists_fixedUnits_eq places significand exponent
  have hcast : (0 : ℚ) < d := Nat.cast_pos.mpr hd
  have hhalf : 2 * n ≤ d ↔ (2 * n : ℚ) ≤ d := by norm_cast
  rw [hunits, hvalue, roundHalfEven_eq_zero_iff n hd, div_le_iff₀ hcast, hhalf]
  constructor <;> intro h <;> linarith

/-- A whole number is written without rounding. -/
theorem fixedUnits_of_whole (places : Nat) {whole : Nat}
    (hwhole : (significand * 2 ^ exponent : ℚ) = whole) :
    fixedUnits places significand exponent = whole * 10 ^ places := by
  obtain ⟨n, d, hd, hunits, hvalue⟩ := exists_fixedUnits_eq places significand exponent
  have hcast : (d : ℚ) ≠ 0 := Nat.cast_ne_zero.mpr hd.ne'
  rw [hwhole, eq_div_iff hcast] at hvalue
  have hn : whole * 10 ^ places * d = n := by exact_mod_cast hvalue
  rw [hunits, ← hn, roundHalfEven_mul _ hd]

end Platen.Decimal
