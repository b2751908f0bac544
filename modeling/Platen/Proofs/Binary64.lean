import Mathlib.Algebra.Order.Field.Power
import Mathlib.Algebra.Order.Field.Rat
import Mathlib.Tactic.Positivity
import Mathlib.Tactic.Ring
import Platen.Decimal.Binary64

/-!
# The parts of a floating-point number

The exact view of a number takes its word apart; floating-point operations take it apart in their
own way, compute with the parts and pack the result again.  This module proves that both see the
same parts and that packing loses nothing of parts that a word can hold.  Signs and comparisons with
zero are read off the parts.

Main results:

- Theorem `ofFloat_eq`: the exact view shows the parts that operations work on.
- Theorem `unpack_pack`: parts that a word can hold are packed without loss.
- Theorem `ofFloat_withSign`: setting a sign changes nothing else.
- Theorem `lt_zero_iff`: which numbers are below zero.
-/

namespace Platen.Decimal

open Float.Model (Format UnpackedFloat)
open Float.Model.UnpackedFloat (Sign unpackExponent unpackMantissa unpackSign)

/-! ## Words -/

/-- The parts of the number that a word of 64 bits stands for. -/
def Binary64.ofWord (bits : Nat) : Binary64 :=
  let negative := bits / 2 ^ 63 == 1
  let biased := bits / 2 ^ 52 % 2 ^ 11
  let fraction := bits % 2 ^ 52
  if biased = 2047 then
    if fraction = 0 then .infinite negative else .nan
  else if biased = 0 then .finite negative fraction (-1074)
  else .finite negative (2 ^ 52 + fraction) (Int.ofNat biased - 1075)

/-- The parts that floating-point operations work on.  They tell zero from the other numbers. -/
def Binary64.ofUnpacked : UnpackedFloat → Binary64
  | .notANumber => .nan
  | .infinity sign => .infinite (sign == .negative)
  | .zero sign => .finite (sign == .negative) 0 (-1074)
  | .finite sign significand exponent _ => .finite (sign == .negative) significand exponent

/-- A finite number other than zero shows its parts as they are. -/
theorem Binary64.ofUnpacked_finite (sign : Sign) (significand : Nat) (exponent : Int)
    (hpos : 0 < significand) :
    ofUnpacked (.finite sign significand exponent hpos) =
      .finite (sign == .negative) significand exponent := rfl

/-- Signs are compared as what they are. -/
theorem beq_negative_iff (sign : Sign) : (sign == .negative) = true ↔ sign = .negative := by
  cases sign with
  | positive => exact ⟨fun h => absurd h (by decide), fun h => nomatch h⟩
  | negative => exact iff_of_true rfl rfl

/-- The parts of a number are those of its word. -/
theorem ofFloat_eq_ofWord (x : Float) : Binary64.ofFloat x = .ofWord x.toBits.toNat := rfl

variable (word : BitVec 64)

/-- The exponent stands in the eleven bits before the significand. -/
theorem toNat_unpackExponent :
    (@unpackExponent .binary64 word).toNat = word.toNat / 2 ^ 52 % 2 ^ 11 := by
  change (word.toNat >>> 52) % 2 ^ 11 = _
  rw [Nat.shiftRight_eq_div_pow]

/-- The significand stands in the last 52 bits. -/
theorem toNat_unpackMantissa :
    (@unpackMantissa .binary64 word).toNat = word.toNat % 2 ^ 52 := rfl

/-- The first bit is set for a negative number. -/
theorem ofBitVec_unpackSign :
    (Sign.ofBitVec (@unpackSign .binary64 word) == .negative) = (word.toNat / 2 ^ 63 == 1) := by
  have hsign : (@unpackSign .binary64 word).toNat = word.toNat / 2 ^ 63 := by
    change (word.toNat >>> 63) % 2 ^ 1 = _
    rw [Nat.shiftRight_eq_div_pow]
    omega
  rw [← hsign]
  generalize @unpackSign .binary64 word = sign
  revert sign
  decide

/-- A normal number has one bit more than its word holds. -/
theorem toNat_one_append (fraction : BitVec 52) :
    (1#1 ++ fraction).toNat = 2 ^ 52 + fraction.toNat := by
  rw [BitVec.toNat_append, ← Nat.shiftLeft_add_eq_or_of_lt fraction.isLt]
  rfl

/-- The parts are those that floating-point operations work on. -/
theorem ofWord_toNat :
    Binary64.ofWord word.toNat = .ofUnpacked (UnpackedFloat.unpack .binary64 word) := by
  have hones : (@unpackExponent .binary64 word).toNat = 2047 ↔
      @unpackExponent .binary64 word = -1#11 := by
    rw [← BitVec.toNat_inj]; rfl
  have hzeros : (@unpackExponent .binary64 word).toNat = 0 ↔
      @unpackExponent .binary64 word = 0#11 := by
    rw [← BitVec.toNat_inj]; rfl
  have hnone : (@unpackMantissa .binary64 word).toNat = 0 ↔
      @unpackMantissa .binary64 word = 0#52 := by
    rw [← BitVec.toNat_inj]; rfl
  rw [Binary64.ofWord]
  simp only [← toNat_unpackExponent word, ← toNat_unpackMantissa word, ← ofBitVec_unpackSign word,
    hones, hzeros, hnone]
  unfold UnpackedFloat.unpack
  by_cases hspecial : @unpackExponent .binary64 word = -1#11
  · rw [if_pos hspecial, if_pos hspecial]
    split <;> rfl
  · rw [if_neg hspecial, if_neg hspecial]
    by_cases hzero : @unpackExponent .binary64 word = 0#11
    · rw [if_pos hzero, if_pos hzero]
      by_cases hfraction : @unpackMantissa .binary64 word = 0#52
      · rw [dif_pos hfraction, hfraction]
        rfl
      · rw [dif_neg hfraction, Binary64.ofUnpacked_finite, hzero]
        rfl
    · rw [if_neg hzero, if_neg hzero, Binary64.ofUnpacked_finite, toNat_one_append]
      rfl

/-! ## Canonical parts -/

/-- The parts that a word can stand for: a significand of 53 bits whose first bit is set, unless the
exponent is the least one. -/
def Canonical : UnpackedFloat → Prop
  | .finite _ significand exponent _ =>
      significand < 2 ^ 53 ∧ -1074 ≤ exponent ∧ exponent ≤ 971 ∧
        (2 ^ 52 ≤ significand ∨ exponent = -1074)
  | _ => True

/-- The parts of a word are canonical. -/
theorem canonical_unpack : Canonical (UnpackedFloat.unpack .binary64 word) := by
  have hfraction : (@unpackMantissa .binary64 word).toNat < 2 ^ 52 := BitVec.isLt _
  have hexponent : (@unpackExponent .binary64 word).toNat < 2 ^ 11 := BitVec.isLt _
  unfold UnpackedFloat.unpack
  by_cases hspecial : @unpackExponent .binary64 word = -1#11
  · rw [if_pos hspecial]
    split <;> trivial
  · rw [if_neg hspecial]
    have hfinite : (@unpackExponent .binary64 word).toNat ≠ 2047 := fun h =>
      hspecial (BitVec.toNat_inj.mp h)
    by_cases hzero : @unpackExponent .binary64 word = 0#11
    · rw [if_pos hzero, hzero]
      by_cases hnone : @unpackMantissa .binary64 word = 0#52
      · rw [dif_pos hnone]
        trivial
      · rw [dif_neg hnone]
        change (@unpackMantissa .binary64 word).toNat < 2 ^ 53 ∧ (-1074 : Int) ≤ -1074 ∧
          (-1074 : Int) ≤ 971 ∧ (_ ∨ (-1074 : Int) = -1074)
        omega
    · rw [if_neg hzero]
      have hnormal : (@unpackExponent .binary64 word).toNat ≠ 0 := fun h =>
        hzero (BitVec.toNat_inj.mp h)
      change (1#1 ++ @unpackMantissa .binary64 word).toNat < 2 ^ 53 ∧
        -1074 ≤ ((@unpackExponent .binary64 word).toNat : Int) - 1075 ∧
        ((@unpackExponent .binary64 word).toNat : Int) - 1075 ≤ 971 ∧
        (2 ^ 52 ≤ (1#1 ++ @unpackMantissa .binary64 word).toNat ∨ _)
      rw [toNat_one_append]
      omega

/-- The word of three components is the sum of their numbers, each in its place. -/
theorem toNat_packComponents (sign : Sign) (exponent : BitVec 11) (fraction : BitVec 52) :
    (UnpackedFloat.packComponents .binary64 sign exponent fraction).toNat =
      (sign == .negative).toNat * 2 ^ 63 + exponent.toNat * 2 ^ 52 + fraction.toNat := by
  have hsign : sign.toBitVec.toNat = (sign == .negative).toNat := by cases sign <;> rfl
  change (sign.toBitVec ++ exponent ++ fraction).toNat = _
  rw [BitVec.toNat_append, ← Nat.shiftLeft_add_eq_or_of_lt fraction.isLt, BitVec.toNat_append,
    ← Nat.shiftLeft_add_eq_or_of_lt exponent.isLt, hsign, Nat.shiftLeft_eq, Nat.shiftLeft_eq]
  ring

/-- Packed components are the parts again. -/
theorem ofWord_packComponents (sign : Sign) (exponent : BitVec 11) (fraction : BitVec 52) :
    Binary64.ofWord (UnpackedFloat.packComponents .binary64 sign exponent fraction).toNat =
      if exponent.toNat = 2047 then
        if fraction.toNat = 0 then .infinite (sign == .negative) else .nan
      else if exponent.toNat = 0 then .finite (sign == .negative) fraction.toNat (-1074)
      else .finite (sign == .negative) (2 ^ 52 + fraction.toNat)
        (Int.ofNat exponent.toNat - 1075) := by
  have hexponent := exponent.isLt
  have hfraction := fraction.isLt
  have hbit : (sign == Sign.negative).toNat ≤ 1 := Bool.toNat_le _
  rw [toNat_packComponents]
  generalize hword : (sign == Sign.negative).toNat * 2 ^ 63 + exponent.toNat * 2 ^ 52 +
    fraction.toNat = bits
  have hsign : (bits / 2 ^ 63 == 1) = (sign == Sign.negative) := by
    have hdiv : bits / 2 ^ 63 = (sign == Sign.negative).toNat := by omega
    rw [hdiv]
    cases sign == Sign.negative <;> rfl
  have hbiased : bits / 2 ^ 52 % 2 ^ 11 = exponent.toNat := by omega
  have hrest : bits % 2 ^ 52 = fraction.toNat := by omega
  rw [Binary64.ofWord]
  simp only [hsign, hbiased, hrest]

/-- The word of a finite number other than zero. -/
theorem pack_finite (sign : Sign) (significand : Nat) (exponent : Int) (hpos : 0 < significand) :
    UnpackedFloat.pack .binary64 (.finite sign significand exponent hpos) =
      if 2 ^ 11 ≤ (exponent + 1023 + 52).toNat + 1 then
        UnpackedFloat.packedInfinity .binary64 sign
      else if significand.log2 + 1 = 53 then
        UnpackedFloat.packComponents .binary64 sign (.ofNat 11 (exponent + 1023 + 52).toNat)
          (.ofNat 52 significand)
      else UnpackedFloat.packComponents .binary64 sign 0#11 (.ofNat 52 significand) := rfl

/-- The word of canonical parts shows them again. -/
theorem ofWord_pack {parts : UnpackedFloat} (hparts : Canonical parts) :
    Binary64.ofWord (UnpackedFloat.pack .binary64 parts).toNat = .ofUnpacked parts := by
  cases parts with
  | notANumber => exact ofWord_packComponents ..
  | infinity sign => exact ofWord_packComponents ..
  | zero sign => exact ofWord_packComponents ..
  | finite sign significand exponent hpos =>
      obtain ⟨hsignificand, hleast, hgreatest, hnormal⟩ := hparts
      have hlog : significand.log2 + 1 = 53 ↔ 2 ^ 52 ≤ significand := by
        have hlower : 52 ≤ significand.log2 ↔ 2 ^ 52 ≤ significand := Nat.le_log2 (by omega)
        have hupper : significand.log2 < 53 ↔ significand < 2 ^ 53 := Nat.log2_lt (by omega)
        omega
      rw [pack_finite, if_neg (by omega), Binary64.ofUnpacked_finite]
      by_cases hbits : 2 ^ 52 ≤ significand
      · rw [if_pos (hlog.mpr hbits), ofWord_packComponents, BitVec.toNat_ofNat, BitVec.toNat_ofNat,
          if_neg (by omega), if_neg (by omega)]
        congr 1
        · omega
        · rw [Int.ofNat_eq_natCast]
          omega
      · obtain rfl : exponent = -1074 := hnormal.resolve_left hbits
        rw [if_neg (mt hlog.mp hbits), ofWord_packComponents, BitVec.toNat_ofNat,
          BitVec.toNat_ofNat, if_neg (by decide), if_pos rfl]
        congr 1
        omega

/-- Different parts show differently. -/
theorem ofUnpacked_injective : Function.Injective Binary64.ofUnpacked := by
  intro parts other h
  have hsign : ∀ {sign sign' : Sign}, (sign == .negative) = (sign' == .negative) →
      sign = sign' := by
    intro sign sign' hsame
    rw [Bool.eq_iff_iff, beq_negative_iff, beq_negative_iff] at hsame
    cases sign <;> cases sign' <;> simp at hsame ⊢
  cases parts with
  | notANumber =>
      cases other with
      | notANumber => rfl
      | infinity _ | zero _ | finite _ _ _ _ => cases h
  | infinity sign =>
      cases other with
      | infinity sign' => rw [hsign (Binary64.infinite.inj h)]
      | notANumber | zero _ | finite _ _ _ _ => cases h
  | zero sign =>
      cases other with
      | zero sign' => rw [hsign (Binary64.finite.inj h).1]
      | finite sign' significand' exponent' hpos' =>
          exact absurd (Binary64.finite.inj h).2.1 hpos'.ne
      | notANumber | infinity _ => cases h
  | finite sign significand exponent hpos =>
      cases other with
      | zero sign' => exact absurd (Binary64.finite.inj h).2.1 hpos.ne'
      | finite sign' significand' exponent' hpos' =>
          obtain ⟨hsame, rfl, rfl⟩ := Binary64.finite.inj h
          obtain rfl := hsign hsame
          rfl
      | notANumber | infinity _ => cases h

/-- Canonical parts are packed without loss. -/
theorem unpack_pack {parts : UnpackedFloat} (hparts : Canonical parts) :
    UnpackedFloat.unpack .binary64 (UnpackedFloat.pack .binary64 parts) = parts := by
  apply ofUnpacked_injective
  rw [← ofWord_toNat, ofWord_pack hparts]

/-! ## Floating-point numbers -/

/-- The parts of a number are those that floating-point operations work on. -/
theorem ofFloat_eq (x : Float) : Binary64.ofFloat x = .ofUnpacked x.toModel.unpack :=
  ofWord_toNat x.toModel.toBits.toBitVec

/-- A number that is packed from canonical parts shows these parts. -/
theorem ofFloat_pack {parts : UnpackedFloat} (hparts : Canonical parts) :
    Binary64.ofFloat (.ofModel (.pack parts)) = .ofUnpacked parts :=
  ofWord_pack hparts

/-- The parts that floating-point operations work on are canonical. -/
theorem canonical_toModel (x : Float) : Canonical x.toModel.unpack :=
  canonical_unpack x.toModel.toBits.toBitVec

/-- A finite number has a significand and an exponent. -/
theorem exists_of_isFinite {x : Float} (hx : isFinite x = true) :
    ∃ negative significand exponent,
      Binary64.ofFloat x = .finite negative significand exponent := by
  rw [isFinite] at hx
  cases hparts : Binary64.ofFloat x with
  | finite negative significand exponent => exact ⟨negative, significand, exponent, rfl⟩
  | nan => rw [hparts] at hx; cases hx
  | infinite negative => rw [hparts] at hx; cases hx

/-- The significand and the exponent of a finite number are bounded. -/
theorem bounds_of_finite {x : Float} {negative : Bool} {significand : Nat} {exponent : Int}
    (hx : Binary64.ofFloat x = .finite negative significand exponent) :
    significand < 2 ^ 53 ∧ -1074 ≤ exponent ∧ exponent ≤ 971 := by
  have hcanonical := canonical_toModel x
  rw [ofFloat_eq] at hx
  cases hparts : x.toModel.unpack <;> rw [hparts] at hx hcanonical <;> cases hx
  · decide
  · exact ⟨hcanonical.1, hcanonical.2.1, hcanonical.2.2.1⟩

/-- The parts with the other sign. -/
def Binary64.neg : Binary64 → Binary64
  | .nan => .nan
  | .infinite negative => .infinite !negative
  | .finite negative significand exponent => .finite (!negative) significand exponent

/-- The parts with the sign given. -/
def Binary64.withSign (negative : Bool) : Binary64 → Binary64
  | .nan => .nan
  | .infinite _ => .infinite negative
  | .finite _ significand exponent => .finite negative significand exponent

/-- Negating a number changes its sign alone. -/
theorem ofFloat_neg (x : Float) : Binary64.ofFloat (-x) = (Binary64.ofFloat x).neg := by
  have hcanonical : Canonical x.toModel.unpack.neg := by
    have hparts := canonical_toModel x
    cases h : x.toModel.unpack <;> rw [h] at hparts
    case finite => exact hparts
    all_goals trivial
  change Binary64.ofFloat (.ofModel (.pack x.toModel.unpack.neg)) = _
  rw [ofFloat_pack hcanonical, ofFloat_eq]
  cases x.toModel.unpack with
  | notANumber => rfl
  | infinity sign | zero sign | finite sign _ _ _ => cases sign <;> rfl

/-- The magnitude of a number differs from it in the sign alone. -/
theorem ofFloat_magnitude (x : Float) :
    Binary64.ofFloat (magnitude x) = (Binary64.ofFloat x).withSign false := by
  have hword : ∀ word : UInt64, Binary64.ofFloat (Float.ofBits word) = .ofWord word.toNat := by
    intro word
    rw [Float.ofBits, Float.Model.ofBits, ofFloat_pack (canonical_unpack _), ← ofWord_toNat]
    rfl
  have hbits : x.toBits.toNat < 2 ^ 64 := x.toBits.toNat_lt
  rw [magnitude, hword, ofFloat_eq_ofWord, UInt64.toNat_ofNat']
  change Binary64.ofWord (x.toBits.toNat % 2 ^ 63 % 2 ^ 64) = _
  generalize x.toBits.toNat = bits at hbits
  have hsign : (bits % 2 ^ 63 % 2 ^ 64 / 2 ^ 63 == 1) = false := by
    rw [beq_eq_false_iff_ne]
    omega
  have hbiased : bits % 2 ^ 63 % 2 ^ 64 / 2 ^ 52 % 2 ^ 11 = bits / 2 ^ 52 % 2 ^ 11 := by omega
  have hfraction : bits % 2 ^ 63 % 2 ^ 64 % 2 ^ 52 = bits % 2 ^ 52 := by omega
  rw [Binary64.ofWord, Binary64.ofWord]
  simp only [hsign, hbiased, hfraction]
  split
  · split <;> rfl
  · split <;> rfl

/-- Setting the sign of a number changes nothing else. -/
theorem ofFloat_withSign (negative : Bool) (x : Float) :
    Binary64.ofFloat (withSign negative x) = (Binary64.ofFloat x).withSign negative := by
  cases negative with
  | false => exact ofFloat_magnitude x
  | true =>
      change Binary64.ofFloat (-magnitude x) = _
      rw [ofFloat_neg, ofFloat_magnitude]
      cases Binary64.ofFloat x <;> rfl

/-! ## Values -/

/-- The exact value of a finite number. -/
def exactValue (x : Float) : ℚ :=
  match Binary64.ofFloat x with
  | .finite negative significand exponent =>
      (if negative then -1 else 1) * (significand * 2 ^ exponent)
  | _ => 0

/-- The exact value of a number whose parts are known. -/
theorem exactValue_eq {x : Float} {negative : Bool} {significand : Nat} {exponent : Int}
    (hx : Binary64.ofFloat x = .finite negative significand exponent) :
    exactValue x = (if negative then -1 else 1) * (significand * 2 ^ exponent) := by
  rw [exactValue, hx]

/-- The size of a number does not depend on its sign. -/
theorem abs_exactValue {x : Float} {negative : Bool} {significand : Nat} {exponent : Int}
    (hx : Binary64.ofFloat x = .finite negative significand exponent) :
    |exactValue x| = significand * 2 ^ exponent := by
  rw [exactValue_eq hx]
  cases negative <;> simp

/-- Comparing a number with zero compares the parts. -/
theorem lt_zero_iff_compare (x : Float) :
    x < 0.0 ↔ x.toModel.unpack.compare (.zero .positive) = some .lt := by
  have hlt : x < 0.0 ↔ decide (x.toModel < (0.0 : Float).toModel) = true := Iff.rfl
  have hmodel : x.toModel < (0.0 : Float).toModel ↔
      x.toModel.unpack.lt (0.0 : Float).toModel.unpack = true := Iff.rfl
  have hzero : (0.0 : Float).toModel.unpack = .zero .positive := rfl
  rw [hlt, decide_eq_true_iff, hmodel, hzero, UnpackedFloat.lt, beq_iff_eq]

/-- A finite number is below zero if its exact value is. -/
theorem lt_zero_iff {x : Float} (hx : isFinite x = true) : x < 0.0 ↔ exactValue x < 0 := by
  rw [isFinite, ofFloat_eq] at hx
  rw [lt_zero_iff_compare]
  have hshown := ofFloat_eq x
  cases hparts : x.toModel.unpack <;> rw [hparts] at hx hshown
  case notANumber => cases hx
  case infinity sign => cases hx
  case zero sign =>
    rw [exactValue_eq hshown, Nat.cast_zero, zero_mul, mul_zero]
    exact iff_of_false nofun (lt_irrefl 0)
  case finite sign significand exponent hpos =>
    have hsize : (0 : ℚ) < significand * 2 ^ exponent := by positivity
    rw [exactValue_eq hshown]
    cases sign with
    | positive => exact iff_of_false nofun (by simpa [beq_negative_iff] using hsize.le)
    | negative => exact iff_of_true rfl (by simpa [beq_negative_iff] using hsize)

/-- A number is below zero if it is negative and not zero. -/
theorem lt_zero_iff_of_parts {x : Float} {negative : Bool} {significand : Nat} {exponent : Int}
    (hx : Binary64.ofFloat x = .finite negative significand exponent) :
    x < 0.0 ↔ negative = true ∧ significand ≠ 0 := by
  have hfinite : isFinite x = true := by rw [isFinite, hx]
  have hpower : (0 : ℚ) < 2 ^ exponent := by positivity
  rw [lt_zero_iff hfinite, exactValue_eq hx]
  cases negative with
  | false => simp [hpower.le, mul_nonneg]
  | true => simp [hpower, Nat.pos_iff_ne_zero]

end Platen.Decimal
