import Platen.Proofs.Signs
import Platen.Value.Text

/-!
# Formatted integers

An integer is formatted by way of a floating-point number.  This module proves that no digit is lost
after that conversion: number and integer formatter write the integer that the conversion gives,
with all its digits and without a fraction.

Main results:

- Theorem `groupDecimal_of_whole`: a whole number is written without a fraction.
- Theorem `format_int`: the digits of a formatted integer, and when they are its own.
-/

namespace Platen

namespace Decimal

/-! ## Digits of whole numbers -/

/-- Multiplying by ten writes a zero behind the digits. -/
theorem natDigits_mul_ten {n : Nat} (hn : 0 < n) : natDigits (n * 10) = natDigits n ++ ['0'] := by
  have hdigit : Nat.toDigits 10 0 = ['0'] := rfl
  have hdigits := @Nat.toDigits_append_toDigits 10 n 0 (by decide) hn (by decide)
  rw [hdigit, Nat.add_zero, Nat.mul_comm] at hdigits
  exact hdigits.symm

/-- Multiplying by a power of ten writes as many zeros behind the digits. -/
theorem natDigits_mul_pow {n : Nat} (hn : 0 < n) (places : Nat) :
    natDigits (n * 10 ^ places) = natDigits n ++ List.replicate places '0' := by
  induction places with
  | zero => rw [pow_zero, Nat.mul_one, List.replicate_zero, List.append_nil]
  | succ places ih =>
      have hpos : 0 < n * 10 ^ places := Nat.mul_pos hn (Nat.pow_pos (by decide))
      rw [pow_succ, ← Nat.mul_assoc, natDigits_mul_ten hpos, ih, List.append_assoc,
        List.replicate_succ']

/-- An integer with zeros as its fraction needs no zeros in front. -/
theorem padded_of_whole (places whole : Nat) :
    List.replicate (places + 1 - (natDigits (whole * 10 ^ places)).length) '0' ++
      natDigits (whole * 10 ^ places) = natDigits whole ++ List.replicate places '0' := by
  rcases Nat.eq_zero_or_pos whole with rfl | hpos
  · have hzero : natDigits 0 = ['0'] := rfl
    rw [Nat.zero_mul, hzero, List.length_singleton, Nat.add_sub_cancel, ← List.replicate_succ',
      List.replicate_succ, List.singleton_append]
  · have hlength : 0 < (natDigits whole).length :=
      List.length_pos_of_ne_nil (natDigits_ne_nil whole)
    rw [natDigits_mul_pow hpos, List.length_append, List.length_replicate,
      Nat.sub_eq_zero_of_le (by omega), List.replicate_zero, List.nil_append]

/-- A whole number is written with zeros after the point. -/
theorem placed_of_whole (places whole : Nat) :
    Placed (placePoint (natDigits (whole * 10 ^ places)) places) places (whole * 10 ^ places)
      (natDigits whole) (List.replicate places '0') where
  text_eq := by
    rw [placePoint]
    split
    · next hplaces =>
        rw [hplaces, pow_zero, Nat.mul_one, List.replicate_zero, separated, if_pos rfl,
          List.append_nil]
    · next hplaces =>
        have hzeros : List.replicate places '0' ≠ [] := mt (List.replicate_eq_nil_iff _).mp hplaces
        simp only [padded_of_whole, List.length_append, List.length_replicate, Nat.add_sub_cancel,
          List.take_left, List.drop_left, separated, if_neg hzeros]
  isDigit := by
    rw [List.forall_mem_append]
    refine ⟨fun c => isDigit_of_mem_natDigits, fun c hc => ?_⟩
    rw [List.eq_of_mem_replicate hc]
    rfl
  whole_ne_nil := natDigits_ne_nil whole
  length_fraction := List.length_replicate
  value := by
    change Nat.ofDigitChars 10 _ 0 = _
    rw [Nat.ofDigitChars_append, Nat.ofDigitChars_replicate_zero, Nat.mul_comm]
    exact congrArg (· * 10 ^ places) (digitsValue_natDigits whole)

end Decimal

namespace Formatter

open Decimal

variable {x : Float} {negative : Bool} {significand whole : Nat} {exponent : Int}

/-- A whole number is written without a fraction. -/
theorem groupDecimal_of_whole (hx : Binary64.ofFloat x = .finite negative significand exponent)
    (hwhole : (significand * 2 ^ exponent : ℚ) = whole) {decimals : Nat} {shorten : Bool}
    (hshort : shorten = true ∨ decimals = 0) (style : NumberStyle) :
    groupDecimal x decimals shorten style =
      (if negative = true ∧ whole ≠ 0 then ['-'] else []) ++
        groupThousands style.groupingSeparator (natDigits whole) := by
  have hplaced : Placed (fixedDigits decimals x) decimals (whole * 10 ^ decimals)
      (natDigits whole) (List.replicate decimals '0') := by
    rw [fixedDigits, hx]
    simp only [fixedUnits_of_whole decimals hwhole]
    exact placed_of_whole decimals whole
  have hkept : keptDigits shorten (List.replicate decimals '0') = [] := by
    rcases hshort with rfl | rfl
    · exact List.rdropWhile_eq_nil_iff.mpr fun c hc => by simp [List.eq_of_mem_replicate hc]
    · cases shorten <;> rfl
  have hsign : x < 0.0 ∧ whole * 10 ^ decimals ≠ 0 ↔ negative = true ∧ whole ≠ 0 := by
    have hpower : 10 ^ decimals ≠ 0 := (Nat.pow_pos (by decide)).ne'
    have hzero : significand = 0 → whole = 0 := by
      rintro rfl
      rw [Nat.cast_zero, zero_mul, eq_comm, Nat.cast_eq_zero] at hwhole
      exact hwhole
    rw [lt_zero_iff_of_parts hx, mul_ne_zero_iff]
    tauto
  rw [groupDecimal_eq hplaced, hkept, separated, if_pos rfl, List.append_nil]
  simp only [hsign]

variable {i : Int}

/-- An integer is written with the digits of the nearest number of 53 bits. -/
theorem exists_format_int (hi : Bits.signed 64 i = true) (style : NumberStyle)
    {formatter : Formatter} (hformatter : formatter ∈ [number, integer]) :
    ∃ text, formatter.format (.int i) style = .ok text ∧
      text.toList = (if i < 0 then ['-'] else []) ++
        groupThousands style.groupingSeparator (natDigits (nearestWhole i.natAbs)) := by
  obtain ⟨significand, exponent, hparts, hvalue⟩ := exists_ofFloat_ofInt (natAbs_lt_of_signed hi)
  have hsign : decide (i < 0) = true ∧ nearestWhole i.natAbs ≠ 0 ↔ i < 0 := by
    rw [decide_eq_true_iff, Ne, nearestWhole_eq_zero_iff]
    omega
  have hformat := @format_of_toNumber (.int i) _ rfl rfl style
  rcases List.mem_pair.mp hformatter with rfl | rfl
  · refine ⟨_, hformat.1, ?_⟩
    rw [numberText, String.toList_ofList, groupDecimal_of_whole hparts hvalue (.inl rfl)]
    simp only [hsign]
  · obtain ⟨rounded, shifted, hrounded, hwhole⟩ := exists_ofFloat_roundHalfAway hparts
    have hfloor : ⌊(nearestWhole i.natAbs + 1 / 2 : ℚ)⌋₊ = nearestWhole i.natAbs := by
      rw [Nat.floor_eq_iff (by positivity)]
      constructor <;> linarith
    rw [hvalue, hfloor] at hwhole
    refine ⟨_, hformat.2.1, ?_⟩
    rw [integerText, String.toList_ofList, groupDecimal_of_whole hrounded hwhole (.inr rfl)]
    simp only [hsign]

/-- The nearest integer that 53 bits and a shift can write. -/
def nearestInt (i : Int) : Int :=
  if i < 0 then -nearestWhole i.natAbs else nearestWhole i.natAbs

/-- A natural number is written as its digits. -/
theorem toList_toString_natCast (n : Nat) : (toString (n : Int)).toList = natDigits n :=
  Nat.toList_repr

/-- A negative number is written as its digits behind a minus sign. -/
theorem toList_toString_neg {n : Nat} (hn : n ≠ 0) :
    (toString (-n : Int)).toList = '-' :: natDigits n := by
  obtain ⟨m, rfl⟩ := Nat.exists_eq_succ_of_ne_zero hn
  change ("-" ++ Nat.repr (m + 1)).toList = _
  rw [String.toList_append, Nat.toList_repr]
  rfl

/-- A number is written as its digits, behind a minus sign if it is negative. -/
theorem toList_toString_signed {n : Nat} (hn : i < 0 → n ≠ 0) :
    (toString (if i < 0 then -n else n : Int)).toList =
      (if i < 0 then ['-'] else []) ++ natDigits n := by
  split
  · next hneg => exact toList_toString_neg (hn hneg)
  · exact toList_toString_natCast n

/-- Different numbers have different digits. -/
theorem natDigits_injective : Function.Injective natDigits :=
  Function.LeftInverse.injective digitsValue_natDigits

/-- Without the separators an integer is written as the text of the nearest integer of 53 bits, and
so exactly if and only if it is one. -/
theorem format_int (hi : Bits.signed 64 i = true) {style : NumberStyle}
    (hgrouping : Neutral style.groupingSeparator) {formatter : Formatter}
    (hformatter : formatter ∈ [number, integer]) :
    ∃ text, formatter.format (.int i) style = .ok text ∧
      text.toList.filter (· ≠ style.groupingSeparator) = (toString (nearestInt i)).toList ∧
      (text.toList.filter (· ≠ style.groupingSeparator) = (Value.int i).toText.toList ↔
        ∃ bits < 2 ^ 53, ∃ places, i.natAbs = bits * 2 ^ places) := by
  have hne : i < 0 → i.natAbs ≠ 0 := by omega
  have hnearest : i < 0 → nearestWhole i.natAbs ≠ 0 := mt nearestWhole_eq_zero_iff.mp ∘ hne
  obtain ⟨text, hformat, htext⟩ := exists_format_int hi style hformatter
  have hexact : (Value.int i).toText.toList =
      (if i < 0 then ['-'] else []) ++ natDigits i.natAbs := by
    have hsigned : i = if i < 0 then -(i.natAbs : Int) else i.natAbs := by
      split <;> omega
    rw [← toList_toString_signed hne, ← hsigned]
    rfl
  have hnone : style.groupingSeparator ∉ natDigits (nearestWhole i.natAbs) :=
    hgrouping.notMem fun c => isDigit_of_mem_natDigits
  have hfilter : text.toList.filter (· ≠ style.groupingSeparator) =
      (if i < 0 then ['-'] else []) ++ natDigits (nearestWhole i.natAbs) := by
    have hminus : style.groupingSeparator ∉ (if i < 0 then ['-'] else []) := by
      split <;> simp [hgrouping.2]
    rw [htext, List.filter_append, filter_of_notMem hminus, filter_groupThousands hnone]
  refine ⟨text, hformat, ?_, ?_⟩
  · rw [hfilter, nearestInt, toList_toString_signed hnearest]
  · rw [hfilter, hexact, List.append_cancel_left_eq, natDigits_injective.eq_iff,
      nearestWhole_eq_self_iff]

/-- An integer of 53 bits with its sign. -/
theorem format_int_million :
    ∃ text, integer.format (.int (-1000000)) {} = .ok text ∧
      text.toList.filter (· ≠ ',') = (toString (nearestInt (-1000000))).toList ∧
      (text.toList.filter (· ≠ ',') = (Value.int (-1000000)).toText.toList ↔
        ∃ bits < 2 ^ 53, ∃ places, Int.natAbs (-1000000) = bits * 2 ^ places) :=
  format_int (by decide) (by decide) (by decide)

/-- The first integer that needs more bits is written as its even neighbour. -/
theorem format_int_inexact :
    Bits.signed 64 9007199254740993 = true ∧ Neutral ',' ∧
      integer.format (.int 9007199254740993) {} = .ok "9,007,199,254,740,992" ∧
      "9,007,199,254,740,992".toList.filter (· ≠ ',') ≠
        (Value.int 9007199254740993).toText.toList :=
  ⟨by decide, by decide, by decide +kernel, by decide +kernel⟩

end Formatter

end Platen
