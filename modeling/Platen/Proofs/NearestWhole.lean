import Mathlib.Algebra.Order.Floor.Semifield
import Mathlib.Data.Rat.Floor
import Mathlib.Tactic.FieldSimp
import Platen.Proofs.Binary64
import Platen.Proofs.Rounding

/-!
# The numbers nearest to integers

An integer becomes a floating-point number by way of a product that is rounded to a significand of
53 bits.  Up to that size it is kept; a larger one becomes the nearest integer that 53 bits and a
shift can write.  Rounding to integers is exact, because only numbers below that size have a
fraction.

Main results:

- Theorems `nearestWhole_eq_self_iff` and `nearestWhole_nearest`: which numbers are kept, and that
  the others become the nearest of these.
- Theorem `exists_ofFloat_ofInt`: the parts of the number that an integer becomes.
- Theorem `exists_ofFloat_roundHalfAway`: the parts of a number that is rounded to an integer.
-/

namespace Platen.Decimal

open Float.Model (Format UnpackedFloat totalExponent)
open Float.Model.UnpackedFloat (Sign ExtendedMantissa shiftToTargetExponent shiftToExponent)

/-! ## Shifted significands -/

/-- A significand whose last bits are shifted out, with the first of them and with whether there are
others. -/
theorem shiftRight_exact (significand places : Nat) :
    ExtendedMantissa.ofMantissaAndAccuracy significand .exact >>> places =
      ⟨significand / 2 ^ places, decide (2 ^ places ≤ 2 * (significand % 2 ^ places)),
        decide (2 * (significand % 2 ^ places) % 2 ^ places ≠ 0)⟩ := by
  change Nat.repeat ExtendedMantissa.shiftRightOne places ⟨significand, false, false⟩ = _
  induction places with
  | zero => simp [Nat.repeat, Nat.mod_one]
  | succ places ih =>
      have hpos : 0 < 2 ^ places := Nat.two_pow_pos places
      have hrest : significand % 2 ^ places < 2 ^ places := Nat.mod_lt _ hpos
      have hbits : significand % (2 ^ places * 2) =
          significand % 2 ^ places + 2 ^ places * (significand / 2 ^ places % 2) := Nat.mod_mul
      rw [Nat.repeat, ih, ExtendedMantissa.shiftRightOne, Nat.div_div_eq_div_mul, pow_succ, hbits]
      generalize significand % 2 ^ places = rest at hrest
      have hbit := Nat.mod_two_eq_zero_or_one (significand / 2 ^ places)
      generalize significand / 2 ^ places % 2 = bit at hbit
      have htwice : 2 * rest % 2 ^ places = 2 * rest ∨ 2 ^ places ≤ 2 * rest :=
        (Nat.lt_or_ge (2 * rest) (2 ^ places)).imp_left Nat.mod_eq_of_lt
      have hothers : 2 * (rest + 2 ^ places * bit) % (2 ^ places * 2) = 2 * rest := by
        have hproduct : 2 * (rest + 2 ^ places * bit) = 2 * rest + 2 ^ places * 2 * bit := by ring
        rw [hproduct, Nat.add_mul_mod_self_left]
        exact Nat.mod_eq_of_lt (by omega)
      rw [ExtendedMantissa.mk.injEq, hothers]
      refine ⟨rfl, ?_, ?_⟩
      · rcases hbit with rfl | rfl
        · simp
          omega
        · simp
          omega
      · rw [Bool.eq_iff_iff, Bool.or_eq_true, decide_eq_true_iff, decide_eq_true_iff,
          decide_eq_true_iff]
        omega

/-- A shifted significand is rounded half to even. -/
theorem roundedMantissa_shiftRight (significand places : Nat) :
    (ExtendedMantissa.ofMantissaAndAccuracy significand .exact >>> places).roundedMantissa =
      roundHalfEven significand (2 ^ places) := by
  have hrest : significand % 2 ^ places < 2 ^ places := Nat.mod_lt _ (Nat.two_pow_pos places)
  rw [shiftRight_exact, roundHalfEven]
  generalize significand / 2 ^ places = quotient
  generalize significand % 2 ^ places = rest at hrest
  rcases Nat.lt_trichotomy (2 * rest) (2 ^ places) with hbelow | hhalf | habove
  · rw [if_pos hbelow, Nat.mod_eq_of_lt hbelow, decide_eq_false (by omega)]
    by_cases hzero : 2 * rest = 0
    · rw [decide_eq_false (not_not.mpr hzero)]
      rfl
    · rw [decide_eq_true hzero]
      rfl
  · rw [if_neg hhalf.not_lt, if_neg hhalf.not_gt, hhalf, Nat.mod_self, decide_eq_true le_rfl,
      decide_eq_false (not_not.mpr rfl)]
    change quotient + quotient % 2 = _
    split_ifs <;> omega
  · have hrest : 2 * rest % 2 ^ places = 2 * rest - 2 ^ places := by
      rw [Nat.mod_eq_sub_mod habove.le, Nat.mod_eq_of_lt (by omega)]
    rw [if_neg habove.not_gt, if_pos habove, hrest, decide_eq_true habove.le,
      decide_eq_true (by omega)]
    rfl

/-- Every place that a number is shifted by adds a bit. -/
theorem log2_mul_two_pow {n : Nat} (hn : n ≠ 0) (places : Nat) :
    (n * 2 ^ places).log2 = n.log2 + places := by
  induction places with
  | zero => rw [pow_zero, Nat.mul_one, Nat.add_zero]
  | succ places ih =>
      have hne : n * 2 ^ places ≠ 0 := Nat.mul_ne_zero hn (Nat.two_pow_pos places).ne'
      rw [pow_succ, ← Nat.mul_assoc, Nat.mul_comm, Nat.log2_two_mul hne, ih, Nat.add_assoc]

/-- The first bit of a number of 53 bits is bit 52. -/
theorem log2_eq_fifty_two {n : Nat} (hle : 2 ^ 52 ≤ n) (hlt : n < 2 ^ 53) : n.log2 = 52 :=
  (Nat.log2_eq_iff (by omega)).mpr ⟨hle, hlt⟩

variable {significand places : Nat} {exponent : Int}

/-- A significand with too many bits is shifted until 53 of them are left. -/
theorem shiftToTargetExponent_eq (hbits : significand.log2 = 52 + places)
    (hleast : -1074 ≤ exponent + places) :
    shiftToTargetExponent .binary64 significand exponent .exact =
      (ExtendedMantissa.ofMantissaAndAccuracy significand .exact >>> places,
        exponent + places) := by
  have htarget : Format.binary64.targetExponent (totalExponent significand exponent) =
      exponent + places := by
    change max ((significand.log2 : Int) + 1 + exponent - 53) (-1074) = _
    rw [hbits]
    omega
  rw [shiftToTargetExponent, htarget, shiftToExponent]
  have hamount : (exponent + places - exponent).toNat = places := by omega
  simp only [hamount]

/-- Rounding shifts a significand, rounds it, and shifts it again if that has carried. -/
theorem roundWithAccuracy_eq (sign : Sign) (hbits : significand.log2 = 52 + places)
    (hleast : -1074 ≤ exponent + places) {carried : ExtendedMantissa} {shifted : Int}
    (hcarried : shiftToTargetExponent .binary64 (roundHalfEven significand (2 ^ places))
      (exponent + places) .exact = (carried, shifted)) (hpos : 0 < carried.mantissa) :
    UnpackedFloat.roundWithAccuracy .binary64 sign significand exponent .exact =
      .finite sign carried.mantissa shifted hpos := by
  rw [UnpackedFloat.roundWithAccuracy, shiftToTargetExponent_eq hbits hleast]
  dsimp only
  rw [roundedMantissa_shiftRight, hcarried]
  exact dif_neg hpos.ne'

/-- A number with enough bits is rounded to one with a significand of 53 bits. -/
theorem exists_roundWithAccuracy (sign : Sign) (hbits : significand.log2 = 52 + places)
    (hleast : -1074 ≤ exponent + places) :
    ∃ rounded shifted hpos,
      UnpackedFloat.roundWithAccuracy .binary64 sign significand exponent .exact =
        .finite sign rounded shifted hpos ∧
      (2 ^ 52 ≤ rounded ∧ rounded < 2 ^ 53) ∧
      (exponent + places ≤ shifted ∧ shifted ≤ exponent + places + 1) ∧
      (rounded * 2 ^ shifted : ℚ) =
        roundHalfEven significand (2 ^ places) * 2 ^ (exponent + places) := by
  have hpos : 0 < 2 ^ places := Nat.two_pow_pos places
  have hne : significand ≠ 0 := by
    rintro rfl
    rw [Nat.log2_zero] at hbits
    omega
  obtain ⟨hle, hlt⟩ := (Nat.log2_eq_iff hne).mp hbits
  have hlower : 2 ^ 52 ≤ significand / 2 ^ places := by
    rw [Nat.le_div_iff_mul_le hpos, ← pow_add]
    exact hle
  have hupper : significand / 2 ^ places < 2 ^ 53 := by
    rw [Nat.div_lt_iff_lt_mul hpos, ← pow_add, Nat.add_right_comm 52 1]
    exact hlt
  have hrange : 2 ^ 52 ≤ roundHalfEven significand (2 ^ places) ∧
      roundHalfEven significand (2 ^ places) < 2 ^ 53 ∨
      roundHalfEven significand (2 ^ places) = 2 ^ 53 := by
    rcases roundHalfEven_cases significand (2 ^ places) with ⟨h, -⟩ | ⟨h, -⟩ <;> omega
  have hround := @roundWithAccuracy_eq significand places exponent sign hbits hleast
  generalize roundHalfEven significand (2 ^ places) = rounded at hround hrange
  rcases hrange with hrange | rfl
  · have hlog : rounded.log2 = 52 + 0 := log2_eq_fifty_two hrange.1 hrange.2
    have hshift := @shiftToTargetExponent_eq rounded 0 (exponent + places) hlog (by omega)
    rw [Nat.cast_zero, add_zero] at hshift
    have hsignificand : 0 < rounded := by omega
    exact ⟨rounded, exponent + places, hsignificand, hround hshift hsignificand,
      hrange, by omega, rfl⟩
  · have hlog : (2 ^ 53).log2 = 52 + 1 := Nat.log2_two_pow
    -- The rounding has carried into a bit of its own.
    have hshift := @shiftToTargetExponent_eq (2 ^ 53) 1 (exponent + places) hlog (by omega)
    refine ⟨2 ^ 52, exponent + places + 1, by decide, hround hshift (by decide),
      by decide, by omega, ?_⟩
    rw [zpow_add_one₀ two_ne_zero]
    push_cast
    ring

/-- The floating-point number that an exact positive number is rounded to. -/
theorem exists_ofFloat_pack (hbits : significand.log2 = 52 + places)
    (hleast : -1074 ≤ exponent + places) (hgreatest : exponent + places ≤ 970) :
    ∃ rounded shifted,
      Binary64.ofFloat (.ofModel (.pack
        (.roundWithAccuracy .binary64 .positive significand exponent .exact))) =
          .finite false rounded shifted ∧
      (rounded * 2 ^ shifted : ℚ) =
        roundHalfEven significand (2 ^ places) * 2 ^ (exponent + places) := by
  obtain ⟨rounded, shifted, hpos, hround, hrange, hshifted, hvalue⟩ :=
    exists_roundWithAccuracy .positive hbits hleast
  have hcanonical : Canonical (.finite .positive rounded shifted hpos) :=
    ⟨hrange.2, by omega, by omega, .inl hrange.1⟩
  refine ⟨rounded, shifted, ?_, hvalue⟩
  rw [hround, ofFloat_pack hcanonical]
  rfl

/-! ## Natural numbers -/

/-- The nearest natural number that 53 bits and a shift can write. -/
def nearestWhole (n : Nat) : Nat :=
  roundHalfEven n (2 ^ (n.log2 + 1 - 53)) * 2 ^ (n.log2 + 1 - 53)

/-- A number of at most 53 bits is kept. -/
theorem nearestWhole_of_lt {n : Nat} (hn : n < 2 ^ 53) : nearestWhole n = n := by
  have hshift : n.log2 + 1 - 53 = 0 := by
    rcases Nat.eq_zero_or_pos n with rfl | hpos
    · rfl
    · have hlog := (Nat.log2_lt hpos.ne').mpr hn
      omega
  rw [nearestWhole, hshift, pow_zero, Nat.mul_one, roundHalfEven_one]

/-- A larger number is rounded to a multiple of the place of its 53rd bit. -/
theorem exists_nearestWhole_eq {n : Nat} (hn : 2 ^ 53 ≤ n) :
    ∃ places, (2 ^ (52 + places) ≤ n ∧ n < 2 ^ (53 + places)) ∧
      nearestWhole n = roundHalfEven n (2 ^ places) * 2 ^ places := by
  have hne : n ≠ 0 := by omega
  have hlog : 53 ≤ n.log2 := (Nat.le_log2 hne).mpr hn
  obtain ⟨places, hplaces⟩ : ∃ places, n.log2 = 52 + places := ⟨n.log2 - 52, by omega⟩
  have hshift : n.log2 + 1 - 53 = places := by omega
  obtain ⟨hle, hlt⟩ := (Nat.log2_eq_iff hne).mp hplaces
  rw [Nat.add_right_comm] at hlt
  exact ⟨places, ⟨hle, hlt⟩, by rw [nearestWhole, hshift]⟩

/-- Only zero becomes zero. -/
theorem nearestWhole_eq_zero_iff {n : Nat} : nearestWhole n = 0 ↔ n = 0 := by
  rcases Nat.lt_or_ge n (2 ^ 53) with hsmall | hlarge
  · rw [nearestWhole_of_lt hsmall]
  · obtain ⟨places, ⟨hle, -⟩, hvalue⟩ := exists_nearestWhole_eq hlarge
    have hpos : 0 < 2 ^ places := Nat.two_pow_pos places
    rw [pow_add] at hle
    rw [hvalue, Nat.mul_eq_zero, roundHalfEven_eq_zero_iff n hpos]
    omega

/-- The numbers that stay as they are have at most 53 bits before the zeros at their end. -/
theorem nearestWhole_eq_self_iff {n : Nat} :
    nearestWhole n = n ↔ ∃ significand < 2 ^ 53, ∃ places, n = significand * 2 ^ places := by
  rcases Nat.lt_or_ge n (2 ^ 53) with hsmall | hlarge
  · exact iff_of_true (nearestWhole_of_lt hsmall) ⟨n, hsmall, 0, by rw [pow_zero, Nat.mul_one]⟩
  obtain ⟨places, ⟨hle, hlt⟩, hvalue⟩ := exists_nearestWhole_eq hlarge
  rw [hvalue]
  constructor
  · intro hself
    rw [← hself, pow_add] at hlt
    exact ⟨_, Nat.lt_of_mul_lt_mul_right hlt, places, hself.symm⟩
  · rintro ⟨significand, hsignificand, shift, rfl⟩
    have hshift : 52 + places < 53 + shift := by
      rw [← Nat.pow_lt_pow_iff_right one_lt_two, pow_add _ 53]
      exact hle.trans_lt (Nat.mul_lt_mul_of_pos_right hsignificand (Nat.two_pow_pos shift))
    obtain ⟨rest, rfl⟩ : ∃ rest, shift = rest + places := ⟨shift - places, by omega⟩
    rw [pow_add, ← Nat.mul_assoc, roundHalfEven_mul _ (Nat.two_pow_pos places)]

/-- No number of 53 bits is nearer, however far it is shifted. -/
theorem nearestWhole_nearest (n : Nat) {other : Nat} (hother : other < 2 ^ 53) (shift : Nat) :
    |(nearestWhole n : Int) - n| ≤ |(other * 2 ^ shift : Int) - n| := by
  rcases Nat.lt_or_ge n (2 ^ 53) with hsmall | hlarge
  · rw [nearestWhole_of_lt hsmall, sub_self, abs_zero]
    exact abs_nonneg _
  obtain ⟨places, ⟨hle, -⟩, hvalue⟩ := exists_nearestWhole_eq hlarge
  have hnearest := fun multiple =>
    roundHalfEven_nearest n multiple (Nat.two_pow_pos places)
  push_cast at hnearest
  rw [hvalue, Nat.cast_mul, Nat.cast_pow, Nat.cast_two]
  rcases le_or_gt places shift with hcoarse | hfine
  · obtain ⟨rest, rfl⟩ : ∃ rest, shift = rest + places := ⟨shift - places, by omega⟩
    have h := hnearest (other * 2 ^ rest)
    push_cast at h
    rwa [pow_add, ← mul_assoc]
  · -- A finer number of 53 bits is below every number of the size of the one given.
    have hfiner : other * 2 ^ shift ≤ 2 ^ 52 * 2 ^ places :=
      calc other * 2 ^ shift ≤ 2 ^ 53 * 2 ^ shift := Nat.mul_le_mul_right _ hother.le
        _ = 2 ^ 52 * 2 ^ (shift + 1) := by ring
        _ ≤ 2 ^ 52 * 2 ^ places :=
          Nat.mul_le_mul_left _ (Nat.pow_le_pow_right two_pos (by omega))
    rw [pow_add] at hle
    have hfiner : (other * 2 ^ shift : Int) ≤ 2 ^ 52 * 2 ^ places := by exact_mod_cast hfiner
    have hle : (2 ^ 52 * 2 ^ places : Int) ≤ n := by exact_mod_cast hle
    refine (hnearest (2 ^ 52)).trans ?_
    push_cast
    rw [abs_of_nonpos (by linarith), abs_of_nonpos (by linarith)]
    linarith

/-! ## Conversions -/

section Conversions

variable {n : Nat}

/-- The number of a word is scaled up to 53 bits before it is rounded. -/
theorem ofUInt64_eq (hpos : 0 < n) (hn : n < 2 ^ 64) (hplaces : n.log2 + places = 52) :
    UnpackedFloat.ofUInt64 .binary64 n.toUInt64 =
      .roundWithAccuracy .binary64 .positive (n * 2 ^ places) (-places) .exact := by
  have hword : n.toUInt64.toNat = n := UInt64.toNat_ofNat_of_lt' hn
  have hsign : compare (n : Int) 0 = .gt := by
    rw [compare_gt_iff_gt]
    omega
  have htarget : Format.binary64.targetExponent (totalExponent n 0) = -places := by
    change max ((n.log2 : Int) + 1 + 0 - 53) (-1074) = _
    omega
  rw [UnpackedFloat.ofUInt64, UnpackedFloat.ofNat, UnpackedFloat.ofInt, UnpackedFloat.normalize,
    hword, hsign]
  simp only [UnpackedFloat.round, Int.toNat_natCast, htarget, UnpackedFloat.decreaseExponent,
    zero_sub, neg_neg, Nat.shiftLeft_eq]

/-- The conversion of a word is exact if its number is small enough. -/
theorem exists_unpack_toFloat (hpos : 0 < n) (hn : n < 2 ^ 53) :
    ∃ significand exponent hsignificand,
      n.toUInt64.toFloat.toModel.unpack = .finite .positive significand exponent hsignificand ∧
      (2 ^ 52 ≤ significand ∧ significand < 2 ^ 53) ∧ (-52 ≤ exponent ∧ exponent ≤ 1) ∧
      (significand * 2 ^ exponent : ℚ) = n := by
  have hlog : n.log2 < 53 := (Nat.log2_lt hpos.ne').mpr hn
  obtain ⟨places, hplaces⟩ : ∃ places, n.log2 + places = 52 := ⟨52 - n.log2, by omega⟩
  have hscaled : (n * 2 ^ places).log2 = 52 + 0 := by
    rw [log2_mul_two_pow hpos.ne', hplaces]
  obtain ⟨significand, exponent, hsignificand, hround, hrange, hexponent, hvalue⟩ :=
    @exists_roundWithAccuracy _ 0 (-places) .positive hscaled (by omega)
  refine ⟨significand, exponent, hsignificand, ?_, hrange, by omega, ?_⟩
  · change UnpackedFloat.unpack .binary64
      (UnpackedFloat.pack .binary64 (.ofUInt64 .binary64 n.toUInt64)) = _
    rw [ofUInt64_eq hpos (hn.trans (by decide)) hplaces, hround]
    exact unpack_pack ⟨hrange.2, by omega, by omega, .inl hrange.1⟩
  · rw [hvalue, pow_zero, roundHalfEven_one, Nat.cast_zero, add_zero, Nat.cast_mul, zpow_neg,
      zpow_natCast, Nat.cast_pow, Nat.cast_two]
    exact mul_inv_cancel_right₀ (by positivity) _

/-- A small number is read from its word, times one. -/
theorem ofNat_of_lt (hn : n < 2 ^ 53) :
    Float.ofNat n = n.toUInt64.toFloat * Float.ofBits 0x3FF0000000000000 := by
  change Float.ofScientific n false 0 = _
  rw [Float.ofScientific, dif_pos ⟨hn, by decide⟩]
  rfl

/-- A large number is read as a significand that is rounded. -/
theorem ofNat_of_le (hn : 2 ^ 53 ≤ n) :
    Float.ofNat n = .ofModel (.pack
      (.roundWithAccuracy .binary64 .positive (n * 2 ^ 53) (-53) .exact)) := by
  have hleast : ¬(0 : Int) < -(2 ^ 11 + n.log2) := by omega
  change Float.ofScientific n false 0 = _
  rw [Float.ofScientific, dif_neg (by omega)]
  change Float.ofModel (.pack (.ofScientific .binary64 n 0)) = _
  rw [UnpackedFloat.ofScientific, dif_neg (by omega), if_neg (by decide), if_neg hleast,
    if_pos le_rfl]
  change Float.ofModel (.pack
    (.roundWithAccuracy .binary64 .positive (n <<< 53 * 1) (-53 + 0) .exact)) = _
  rw [Nat.shiftLeft_eq, Nat.mul_one, Int.add_zero]

/-- A small number is read as it is. -/
theorem exists_ofFloat_ofNat_of_lt (hpos : 0 < n) (hn : n < 2 ^ 53) :
    ∃ significand exponent, Binary64.ofFloat (Float.ofNat n) = .finite false significand exponent ∧
      (significand * 2 ^ exponent : ℚ) = n := by
  obtain ⟨significand, exponent, hsignificand, hunpack, hrange, hexponent, hvalue⟩ :=
    exists_unpack_toFloat hpos hn
  have hone : (Float.ofBits 0x3FF0000000000000).toModel.unpack =
      .finite .positive (2 ^ 52) (-52) (by decide) := rfl
  have hproduct : n.toUInt64.toFloat * Float.ofBits 0x3FF0000000000000 =
      .ofModel (.pack (.roundWithAccuracy .binary64 .positive (significand * 2 ^ 52)
        (exponent + -52) .exact)) := by
    change Float.ofModel (.pack (.mul .binary64 n.toUInt64.toFloat.toModel.unpack
      (Float.ofBits 0x3FF0000000000000).toModel.unpack)) = _
    rw [hunpack, hone]
    rfl
  have hbits : (significand * 2 ^ 52).log2 = 52 + 52 := by
    rw [log2_mul_two_pow hsignificand.ne', log2_eq_fifty_two hrange.1 hrange.2]
  have hround := @exists_ofFloat_pack (significand * 2 ^ 52) 52 (exponent + -52) hbits (by omega)
    (by omega)
  rw [roundHalfEven_mul significand (Nat.two_pow_pos 52)] at hround
  rw [ofNat_of_lt hn, hproduct, ← hvalue]
  simpa using hround

/-- A large number is read as the nearest one that 53 bits and a shift can write. -/
theorem exists_ofFloat_ofNat_of_le (hle : 2 ^ 53 ≤ n) (hn : n < 2 ^ 64) :
    ∃ significand exponent, Binary64.ofFloat (Float.ofNat n) = .finite false significand exponent ∧
      (significand * 2 ^ exponent : ℚ) = nearestWhole n := by
  have hne : n ≠ 0 := by omega
  have hlower : 53 ≤ n.log2 := (Nat.le_log2 hne).mpr hle
  have hupper : n.log2 < 64 := (Nat.log2_lt hne).mpr hn
  obtain ⟨places, hplaces⟩ : ∃ places, n.log2 + 1 = places + 53 := ⟨n.log2 - 52, by omega⟩
  have hbits : (n * 2 ^ 53).log2 = 52 + (places + 53) := by
    rw [log2_mul_two_pow hne]
    omega
  have hround := @exists_ofFloat_pack (n * 2 ^ 53) (places + 53) (-53) hbits (by omega) (by omega)
  rw [pow_add, roundHalfEven_mul_mul n _ (Nat.two_pow_pos 53)] at hround
  rw [ofNat_of_le hle, nearestWhole, hplaces, Nat.add_sub_cancel]
  simpa using hround

/-- A natural number is read as the nearest floating-point number. -/
theorem exists_ofFloat_ofNat (hn : n < 2 ^ 64) :
    ∃ significand exponent, Binary64.ofFloat (Float.ofNat n) = .finite false significand exponent ∧
      (significand * 2 ^ exponent : ℚ) = nearestWhole n := by
  rcases Nat.eq_zero_or_pos n with rfl | hpos
  · refine ⟨0, -1074, by decide +kernel, ?_⟩
    rw [nearestWhole_eq_zero_iff.mpr rfl, Nat.cast_zero, zero_mul]
  rcases Nat.lt_or_ge n (2 ^ 53) with hsmall | hlarge
  · rw [nearestWhole_of_lt hsmall]
    exact exists_ofFloat_ofNat_of_lt hpos hsmall
  · exact exists_ofFloat_ofNat_of_le hlarge hn

end Conversions

/-! ## Integers -/

/-- An integer is read as the nearest floating-point number. -/
theorem exists_ofFloat_ofInt {i : Int} (hi : i.natAbs < 2 ^ 64) :
    ∃ significand exponent,
      Binary64.ofFloat (ofInt i) = .finite (decide (i < 0)) significand exponent ∧
      (significand * 2 ^ exponent : ℚ) = nearestWhole i.natAbs := by
  obtain ⟨significand, exponent, hparts, hvalue⟩ := exists_ofFloat_ofNat hi
  refine ⟨significand, exponent, ?_, hvalue⟩
  rw [ofInt, ofFloat_withSign, hparts, Binary64.withSign]

/-- Adding one half and rounding down can be done with integers. -/
theorem halfAway_eq_floor (n : Nat) {d : Nat} (hd : 0 < d) :
    (2 * n + d) / (2 * d) = ⌊(n / d + 1 / 2 : ℚ)⌋₊ := by
  have hcast : (d : ℚ) ≠ 0 := Nat.cast_ne_zero.mpr hd.ne'
  rw [← @Nat.floor_div_eq_div ℚ]
  congr 1
  push_cast
  field_simp

/-- Rounding to an integer gives that integer exactly, with the sign of the number. -/
theorem exists_ofFloat_roundHalfAway {x : Float} {negative : Bool}
    (hx : Binary64.ofFloat x = .finite negative significand exponent) :
    ∃ rounded shifted,
      Binary64.ofFloat (roundHalfAway x) = .finite negative rounded shifted ∧
      (rounded * 2 ^ shifted : ℚ) = ⌊(significand * 2 ^ exponent + 1 / 2 : ℚ)⌋₊ := by
  rcases le_or_gt 0 exponent with hexponent | hexponent
  · refine ⟨significand, exponent, ?_, ?_⟩
    · rw [roundHalfAway, hx]
      simp only [if_pos hexponent, hx]
    · rw [mul_zpow_of_nonneg significand hexponent, Nat.cast_inj, eq_comm,
        Nat.floor_eq_iff (by positivity)]
      constructor <;> linarith
  · have hunit : 2 ^ 1 ≤ Nat.pow 2 (-exponent).toNat := Nat.pow_le_pow_right two_pos (by omega)
    have hfloor := halfAway_eq_floor significand (Nat.two_pow_pos (-exponent).toNat)
    -- A number with a fraction is small, and so its integer is kept.
    have hsmall : (2 * significand + Nat.pow 2 (-exponent).toNat) /
        (2 * Nat.pow 2 (-exponent).toNat) < 2 ^ 53 := by
      obtain ⟨hsignificand, -, -⟩ := bounds_of_finite hx
      rw [Nat.div_lt_iff_lt_mul (by omega)]
      omega
    obtain ⟨rounded, shifted, hparts, hexact⟩ := exists_ofFloat_ofNat (hsmall.trans (by decide))
    refine ⟨rounded, shifted, ?_, ?_⟩
    · rw [roundHalfAway, hx]
      simp only [if_neg hexponent.not_ge]
      rw [ofFloat_withSign, hparts, Binary64.withSign]
    · rw [hexact, nearestWhole_of_lt hsmall, mul_zpow_of_neg significand hexponent]
      exact congrArg Nat.cast hfloor

end Platen.Decimal
