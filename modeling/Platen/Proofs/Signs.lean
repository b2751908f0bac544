import Platen.Bits
import Platen.Proofs.Grouping

/-!
# Signs of formatted numbers

Grouped digits carry a sign only if some digit is not a zero, because the sign is chosen after the
digits are known.  An amount of money takes its sign from the number that it is given, before any
rounding.  This module proves what follows for the texts of the three numeric formatters.

Main results:

- Theorems `number_sign` and `integer_sign`: a sign stands before numbers below zero that show a
  digit other than zero.
- Theorem `currency_sign`: a sign stands before every amount below zero.
- Theorem `format_sign`: all three formatters, and the amounts that are written as a negative zero.
-/

namespace Platen.Formatter

open Decimal

/-! ## The numbers that values stand for -/

/-- The number that a value stands for, if it is a finite one. -/
inductive Denotes : Value → ℚ → Prop
  | int {i : Int} : Bits.signed 64 i = true → Denotes (.int i) i
  | float {x : Float} : isFinite x = true → Denotes (.float x) (exactValue x)
  | text {s : String} {x : Float} : readFloat? (Text.trimBlanks s.toList) = some x →
      isFinite x = true → Denotes (.text s) (exactValue x)

/-- An integer of 64 bits with a sign has a size of at most 64 bits. -/
theorem natAbs_lt_of_signed {i : Int} (hi : Bits.signed 64 i = true) : i.natAbs < 2 ^ 64 := by
  rw [Bits.signed, Bool.and_eq_true, decide_eq_true_iff, decide_eq_true_iff] at hi
  change -(2 ^ 63 : Int) ≤ i ∧ i < 2 ^ 63 at hi
  omega

/-- A finite floating-point number has its exact value. -/
theorem exists_parts {x : Float} (hx : isFinite x = true) :
    ∃ negative significand exponent, Binary64.ofFloat x = .finite negative significand exponent ∧
      (x < 0.0 ↔ exactValue x < 0) ∧
      ∀ places, fixedUnits places significand exponent = 0 ↔
        |exactValue x| * 10 ^ places ≤ 1 / 2 := by
  obtain ⟨negative, significand, exponent, hparts⟩ := exists_of_isFinite hx
  refine ⟨negative, significand, exponent, hparts, lt_zero_iff hx, fun places => ?_⟩
  rw [abs_exactValue hparts]
  exact fixedUnits_eq_zero_iff places significand exponent

/-- The only natural number up to one half is zero. -/
theorem natCast_le_half_iff {n : Nat} : (n : ℚ) ≤ 1 / 2 ↔ n = 0 := by
  constructor
  · intro h
    have hlt : (n : ℚ) < 1 := by linarith
    exact Nat.lt_one_iff.mp (by exact_mod_cast hlt)
  · rintro rfl
    norm_num

variable {v : Value} {q : ℚ}

/-- A value is formatted by way of a floating-point number that has its sign and is not written as
zero unless the value is. -/
theorem exists_toNumber (hv : Denotes v q) :
    ∃ x negative significand exponent, toNumber v = .ok x ∧ v.isNull = false ∧
      Binary64.ofFloat x = .finite negative significand exponent ∧ (x < 0.0 ↔ q < 0) ∧
      ∀ places, fixedUnits places significand exponent = 0 ↔ |q| * 10 ^ places ≤ 1 / 2 := by
  cases hv with
  | @int i hi =>
      obtain ⟨significand, exponent, hparts, hvalue⟩ :=
        exists_ofFloat_ofInt (natAbs_lt_of_signed hi)
      refine ⟨ofInt i, _, significand, exponent, rfl, rfl, hparts, ?_, fun places => ?_⟩
      · have hzero : significand = 0 → i = 0 := by
          rintro rfl
          rw [Nat.cast_zero, zero_mul] at hvalue
          exact Int.natAbs_eq_zero.mp
            (nearestWhole_eq_zero_iff.mp (Nat.cast_eq_zero.mp hvalue.symm))
        rw [lt_zero_iff_of_parts hparts, decide_eq_true_iff, Int.cast_lt_zero]
        exact ⟨And.left, fun h => ⟨h, fun hs => h.ne (hzero hs)⟩⟩
      · have hsize : |(i : ℚ)| * 10 ^ places = (i.natAbs * 10 ^ places : Nat) := by
          rw [Nat.cast_mul, Nat.cast_natAbs, Int.cast_abs]
          norm_cast
        rw [hsize, natCast_le_half_iff, fixedUnits_of_whole places hvalue, Nat.mul_eq_zero,
          Nat.mul_eq_zero, nearestWhole_eq_zero_iff]
  | @float x hx =>
      obtain ⟨negative, significand, exponent, hparts⟩ := exists_parts hx
      exact ⟨x, negative, significand, exponent, rfl, rfl, hparts⟩
  | @text s x hread hx =>
      obtain ⟨negative, significand, exponent, hparts⟩ := exists_parts hx
      exact ⟨x, negative, significand, exponent, by rw [toNumber, hread], rfl, hparts⟩

/-! ## Signs and digits of grouped decimals -/

/-- Currency symbol and separators can be taken neither for digits nor for signs. -/
structure Plain (style : NumberStyle) : Prop where
  symbol : ∀ c ∈ style.currencySymbol.toList, Neutral c
  grouping : Neutral style.groupingSeparator
  decimal : Neutral style.decimalSeparator

/-- The style that is used without settings is plain. -/
theorem plain_default : Plain {} where
  symbol := by
    change ∀ c ∈ ['$'], Neutral c
    exact List.forall_mem_singleton.mpr (by decide)
  grouping := by decide
  decimal := by decide

/-- Some digit of a text is not a zero. -/
def HasNonzeroDigit (cs : List Char) : Prop :=
  ∃ c ∈ cs, c.isDigit = true ∧ c ≠ '0'

/-- Whether there is such a digit can be computed. -/
instance (cs : List Char) : Decidable (HasNonzeroDigit cs) :=
  List.decidableBEx _ cs

/-- A digit other than zero stands in one of two parts. -/
theorem hasNonzeroDigit_append {before after : List Char} :
    HasNonzeroDigit (before ++ after) ↔ HasNonzeroDigit before ∨ HasNonzeroDigit after := by
  simp only [HasNonzeroDigit, List.mem_append, or_and_right, exists_or]

section Decimals

variable {x : Float} {decimals units : Nat} {whole fraction : List Char} {style : NumberStyle}

/-- A decimal begins with a minus sign if the number is negative and not rounded to zero. -/
theorem head?_groupDecimal (hplaced : Placed (fixedDigits decimals x) decimals units whole fraction)
    (shorten : Bool) (hstyle : Plain style) :
    (groupDecimal x decimals shorten style).head? = some '-' ↔ x < 0.0 ∧ units ≠ 0 := by
  rw [groupDecimal_eq hplaced]
  have hnone := sign_notMem hplaced shorten hstyle.grouping hstyle.decimal
  split
  · next h => exact iff_of_true rfl h
  · next h => exact iff_of_false (fun hhead => hnone (List.mem_of_mem_head? hhead)) h

/-- Digits other than zero are kept when zeros at the end are dropped. -/
theorem mem_keptDigits_iff {shorten : Bool} {c : Char} (hc : c ≠ '0') :
    c ∈ keptDigits shorten fraction ↔ c ∈ fraction := by
  refine ⟨mem_of_mem_keptDigits, fun hmem => ?_⟩
  cases shorten with
  | false => exact hmem
  | true =>
      obtain ⟨zeros, hzeros⟩ := dropZerosEnd_append fraction
      rw [hzeros, List.mem_append] at hmem
      exact hmem.resolve_right fun h => hc (List.eq_of_mem_replicate h)

/-- A decimal shows a digit other than zero unless the number is rounded to zero. -/
theorem hasNonzeroDigit_groupDecimal
    (hplaced : Placed (fixedDigits decimals x) decimals units whole fraction)
    (shorten : Bool) (hstyle : Plain style) :
    HasNonzeroDigit (groupDecimal x decimals shorten style) ↔ units ≠ 0 := by
  have hwritten : ∀ c, c.isDigit = true → c ≠ '0' →
      (c ∈ groupDecimal x decimals shorten style ↔ c ∈ whole ++ fraction) := by
    intro c hdigit hzero
    have hsign : c ≠ '-' := by
      rintro rfl
      cases hdigit
    have hminus : c ∉ (if x < 0.0 ∧ units ≠ 0 then ['-'] else []) := by
      split <;> simp [hsign]
    rw [groupDecimal_eq hplaced, List.mem_append, or_iff_right hminus, List.mem_append,
      List.mem_append, mem_groupThousands (hstyle.grouping.ne_of_isDigit hdigit),
      mem_separated_of_ne (hstyle.decimal.ne_of_isDigit hdigit), mem_keptDigits_iff hzero]
  rw [hplaced.units_ne_zero_iff]
  constructor
  · rintro ⟨c, hc, hdigit, hzero⟩
    exact ⟨c, (hwritten c hdigit hzero).mp hc, hzero⟩
  · rintro ⟨c, hc, hzero⟩
    have hdigit := hplaced.isDigit c hc
    exact ⟨c, (hwritten c hdigit hzero).mpr hc, hdigit, hzero⟩

end Decimals

/-! ## Signs of formatted values -/

/-- A value that is read as a number is formatted as that number. -/
theorem format_of_toNumber {x : Float} (hnumber : toNumber v = .ok x) (hnull : v.isNull = false)
    (style : NumberStyle) :
    number.format v style = .ok (numberText x style) ∧
      integer.format v style = .ok (integerText x style) ∧
      currency.format v style = .ok (currencyText x style) := by
  simp [format, hnull, hnumber, Except.map]

section Styles

variable {style : NumberStyle}

/-- A number is written with a sign if it is below zero and some digit of it is not a zero. -/
theorem number_sign (hv : Denotes v q) (hstyle : Plain style) :
    ∃ text, number.format v style = .ok text ∧
      (text.toList.head? = some '-' ↔ q < 0 ∧ HasNonzeroDigit text.toList) := by
  obtain ⟨x, negative, significand, exponent, hnumber, hnull, hparts, hsign, hunits⟩ :=
    exists_toNumber hv
  obtain ⟨whole, fraction, hplaced⟩ := exists_placed_fixedDigits hparts 3
  refine ⟨_, (format_of_toNumber hnumber hnull style).1, ?_⟩
  rw [numberText, String.toList_ofList, head?_groupDecimal hplaced true hstyle,
    hasNonzeroDigit_groupDecimal hplaced true hstyle, hsign]

/-- A number that is rounded to an integer keeps its sign unless the integer is zero. -/
theorem integer_sign (hv : Denotes v q) (hstyle : Plain style) :
    ∃ text, integer.format v style = .ok text ∧
      (text.toList.head? = some '-' ↔ q < 0 ∧ HasNonzeroDigit text.toList) := by
  obtain ⟨x, negative, significand, exponent, hnumber, hnull, hparts, hsign, hunits⟩ :=
    exists_toNumber hv
  obtain ⟨rounded, shifted, hrounded, hvalue⟩ := exists_ofFloat_roundHalfAway hparts
  obtain ⟨whole, fraction, hplaced⟩ := exists_placed_fixedDigits hrounded 0
  refine ⟨_, (format_of_toNumber hnumber hnull style).2.1, ?_⟩
  rw [integerText, String.toList_ofList, head?_groupDecimal hplaced false hstyle,
    hasNonzeroDigit_groupDecimal hplaced false hstyle, ← hsign, lt_zero_iff_of_parts hparts,
    lt_zero_iff_of_parts hrounded, fixedUnits_of_whole 0 hvalue, pow_zero, Nat.mul_one]
  refine and_congr_left fun hwhole => and_congr_right fun _ => iff_of_true ?_ ?_
  · rintro rfl
    rw [Nat.cast_zero, zero_mul, eq_comm, Nat.cast_eq_zero] at hvalue
    exact hwhole hvalue
  · rintro rfl
    rw [Nat.cast_zero, zero_mul, Nat.floor_eq_zero.mpr (by norm_num)] at hwhole
    exact hwhole rfl

/-- An amount of money is written with a sign if it is below zero, and with zeros only if it is at
most half a unit of the last place. -/
theorem currency_sign (hv : Denotes v q) (hstyle : Plain style) :
    ∃ text, currency.format v style = .ok text ∧ (text.toList.head? = some '-' ↔ q < 0) ∧
      (HasNonzeroDigit text.toList ↔ 1 / 2 < |q| * 10 ^ style.currencyDecimals) := by
  obtain ⟨x, negative, significand, exponent, hnumber, hnull, hparts, hsign, hunits⟩ :=
    exists_toNumber hv
  have hmagnitude : Binary64.ofFloat (magnitude x) = .finite false significand exponent := by
    rw [ofFloat_magnitude, hparts, Binary64.withSign]
  obtain ⟨whole, fraction, hplaced⟩ :=
    exists_placed_fixedDigits hmagnitude style.currencyDecimals
  have hpositive : ¬(magnitude x < 0.0 ∧
      fixedUnits style.currencyDecimals significand exponent ≠ 0) :=
    fun h => Bool.false_ne_true ((lt_zero_iff_of_parts hmagnitude).mp h.1).1
  have hnone : '-' ∉ style.currencySymbol.toList ++
      groupDecimal (magnitude x) style.currencyDecimals false style := by
    rw [groupDecimal_eq hplaced, if_neg hpositive, List.nil_append, List.mem_append, not_or]
    exact ⟨fun hmem => (hstyle.symbol _ hmem).2 rfl,
      sign_notMem hplaced false hstyle.grouping hstyle.decimal⟩
  have hsymbol : ¬HasNonzeroDigit style.currencySymbol.toList := by
    rintro ⟨c, hc, hdigit, -⟩
    exact (hstyle.symbol c hc).ne_of_isDigit hdigit rfl
  refine ⟨_, (format_of_toNumber hnumber hnull style).2.2, ?_, ?_⟩
  · rw [← hsign, currencyText, String.toList_append, String.toList_append, String.toList_ofList,
      List.append_assoc]
    split
    · next hbelow => exact iff_of_true rfl hbelow
    · next hbelow =>
        exact iff_of_false (fun hhead => hnone (List.mem_of_mem_head? hhead)) hbelow
  · have hminus : ¬HasNonzeroDigit (if x < 0.0 then "-" else "").toList := by
      split <;> rintro ⟨c, hc, hdigit, -⟩
      · rw [List.mem_singleton.mp hc] at hdigit
        cases hdigit
      · cases hc
    rw [currencyText, String.toList_append, String.toList_append, String.toList_ofList,
      hasNonzeroDigit_append, hasNonzeroDigit_append, or_iff_right hminus, or_iff_right hsymbol,
      hasNonzeroDigit_groupDecimal hplaced false hstyle, Ne, hunits, not_le]

/-- Numbers and integers have a sign exactly if they are below zero and some digit of them is not a
zero.  Amounts of money have it whenever they are below zero, and those of them that are rounded to
zero are written as a negative zero. -/
theorem format_sign (hv : Denotes v q) (hstyle : Plain style) :
    (∀ formatter ∈ [number, integer], ∃ text, formatter.format v style = .ok text ∧
      (text.toList.head? = some '-' ↔ q < 0 ∧ HasNonzeroDigit text.toList)) ∧
    ∃ text, currency.format v style = .ok text ∧ (text.toList.head? = some '-' ↔ q < 0) ∧
      (HasNonzeroDigit text.toList ↔ 1 / 2 < |q| * 10 ^ style.currencyDecimals) := by
  refine ⟨fun formatter hformatter => ?_, currency_sign hv hstyle⟩
  rcases List.mem_pair.mp hformatter with rfl | rfl
  · exact number_sign hv hstyle
  · exact integer_sign hv hstyle

/-- A tenth of a cent below zero. -/
theorem format_sign_tenthOfCent :
    (∀ formatter ∈ [number, integer], ∃ text, formatter.format (.float (-0.001)) {} = .ok text ∧
      (text.toList.head? = some '-' ↔
        exactValue (-0.001) < 0 ∧ HasNonzeroDigit text.toList)) ∧
    ∃ text, currency.format (.float (-0.001)) {} = .ok text ∧
      (text.toList.head? = some '-' ↔ exactValue (-0.001) < 0) ∧
      (HasNonzeroDigit text.toList ↔ 1 / 2 < |exactValue (-0.001)| * 10 ^ 2) :=
  format_sign (.float (by decide +kernel)) plain_default

/-- The currency formatter writes it as a negative zero. -/
theorem currency_negativeZero :
    Denotes (.float (-0.001)) (exactValue (-0.001)) ∧ Plain {} ∧
      currency.format (.float (-0.001)) {} = .ok "-$0.00" ∧
      ¬("-$0.00".toList.head? = some '-' ↔
        exactValue (-0.001) < 0 ∧ HasNonzeroDigit "-$0.00".toList) := by
  refine ⟨.float (by decide +kernel), plain_default, by decide +kernel, fun hclaim => ?_⟩
  exact absurd (hclaim.mp rfl).2 (by decide)

end Styles

end Platen.Formatter
