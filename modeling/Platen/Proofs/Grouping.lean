import Mathlib.Data.List.DropRight
import Mathlib.Data.List.TakeWhile
import Platen.Decimal.Reader
import Platen.Formatter
import Platen.Proofs.NearestWhole

/-!
# Grouped digits

A number is written with a fixed number of places; then its digits before the point are grouped,
zeros at the end of the fraction are left out where that is asked for, and the point becomes the
separator of the style.  This module proves that the digits all stay, in groups of three counted
from the point.

Main results:

- Theorem `Decimal.fixedDigits_nearest`: the digits write the nearest decimal.
- Theorem `Formatter.exists_groups`: one to three digits, and then groups of three.
- Theorem `Formatter.groupDecimal_grouped`: taking the separators out again gives the plain decimal.
-/

namespace Platen

namespace Decimal

/-! ## Digits -/

/-- A number is written in digits alone. -/
theorem isDigit_of_mem_natDigits {n : Nat} {c : Char} (hc : c ∈ natDigits n) :
    c.isDigit = true :=
  Nat.isDigit_of_mem_toDigits (by decide) (by decide) hc

/-- Every number has a digit. -/
theorem natDigits_ne_nil (n : Nat) : natDigits n ≠ [] := Nat.toDigits_ne_nil

/-- Zeros in front do not change a number. -/
theorem digitsValue_zeros_append (zeros : Nat) (digits : List Char) :
    digitsValue (List.replicate zeros '0' ++ digits) = digitsValue digits := by
  change Nat.ofDigitChars 10 _ 0 = Nat.ofDigitChars 10 _ 0
  rw [Nat.ofDigitChars_append, Nat.ofDigitChars_replicate_zero, Nat.mul_zero]

/-- The digits of a number are read as that number. -/
theorem digitsValue_natDigits (n : Nat) : digitsValue (natDigits n) = n :=
  Nat.ofDigitChars_ten_toDigits

/-- Only the digit zero has the value zero. -/
theorem digitValue_eq_zero_iff {c : Char} (hc : c.isDigit = true) :
    digitValue c = 0 ↔ c = '0' := by
  constructor
  · intro hvalue
    have hbounds : 48 ≤ c.toNat ∧ c.toNat ≤ 57 := Char.isDigit_iff_toNat.mp hc
    have hcode : c.toNat - 48 = 0 := hvalue
    apply Char.toNat_inj.mp
    change c.toNat = 48
    omega
  · rintro rfl
    rfl

/-- Digits write zero only if there is no other digit among them. -/
theorem digitsValue_eq_zero_iff {digits : List Char} (hdigits : ∀ c ∈ digits, c.isDigit = true) :
    digitsValue digits = 0 ↔ ∀ c ∈ digits, c = '0' := by
  induction digits using List.reverseRecOn with
  | nil => exact iff_of_true rfl (List.forall_mem_nil _)
  | append_singleton digits c ih =>
      have hvalue : digitsValue (digits ++ [c]) = 10 * digitsValue digits + digitValue c :=
        Nat.ofDigitChars_append 0
      rw [List.forall_mem_append, List.forall_mem_singleton] at hdigits ⊢
      rw [hvalue, ← ih hdigits.1, ← digitValue_eq_zero_iff hdigits.2]
      omega

/-- A fraction with a separator before it, if there is one. -/
def separated (separator : Char) (fraction : List Char) : List Char :=
  if fraction = [] then [] else separator :: fraction

/-- The separator aside, the characters are those of the fraction. -/
theorem mem_separated_of_ne {separator c : Char} (hc : c ≠ separator) {fraction : List Char} :
    c ∈ separated separator fraction ↔ c ∈ fraction := by
  rw [separated]
  split
  · next hnil => rw [hnil]
  · rw [List.mem_cons, or_iff_right hc]

/-- The separator is written if there is a fraction. -/
theorem separator_mem_separated {separator : Char} {fraction : List Char} :
    separator ∈ separated separator fraction ↔ fraction ≠ [] := by
  rw [separated]
  split
  · next hnil => simp [hnil]
  · next hne => simp [hne]

/-- The digits of a number with `places` of them after the point, and the number of units of the
last place that they write. -/
structure Placed (text : List Char) (places units : Nat) (whole fraction : List Char) : Prop where
  text_eq : text = whole ++ separated '.' fraction
  isDigit : ∀ c ∈ whole ++ fraction, c.isDigit = true
  whole_ne_nil : whole ≠ []
  length_fraction : fraction.length = places
  value : digitsValue (whole ++ fraction) = units

/-- Both parts of a placed decimal hold digits alone. -/
theorem Placed.notMem {text whole fraction : List Char} {places units : Nat}
    (hplaced : Placed text places units whole fraction) {c : Char} (hc : c.isDigit = false) :
    c ∉ whole ∧ c ∉ fraction := by
  rw [← not_or, ← List.mem_append]
  intro hmem
  rw [hplaced.isDigit c hmem] at hc
  cases hc

/-- A placed decimal is not zero if one of its digits is not. -/
theorem Placed.units_ne_zero_iff {text whole fraction : List Char} {places units : Nat}
    (hplaced : Placed text places units whole fraction) :
    units ≠ 0 ↔ ∃ c ∈ whole ++ fraction, c ≠ '0' := by
  rw [← hplaced.value, Ne, digitsValue_eq_zero_iff hplaced.isDigit]
  simp only [not_forall, exists_prop]

/-- Digits with a point among them are a placed decimal. -/
theorem exists_placed (places units : Nat) :
    ∃ whole fraction, Placed (placePoint (natDigits units) places) places units whole fraction := by
  have hdigits : ∀ c ∈ natDigits units, c.isDigit = true := fun c => isDigit_of_mem_natDigits
  rw [placePoint]
  split_ifs with hplaces
  · refine ⟨natDigits units, [], ?_, ?_, natDigits_ne_nil units, hplaces.symm, ?_⟩
    · rw [separated, if_pos rfl, List.append_nil]
    · rwa [List.append_nil]
    · rw [List.append_nil, digitsValue_natDigits]
  · generalize hpadded : List.replicate (places + 1 - (natDigits units).length) '0' ++
      natDigits units = padded
    have hlength : places < padded.length := by
      rw [← hpadded, List.length_append, List.length_replicate]
      omega
    have hfraction : (padded.drop (padded.length - places)).length = places := by
      rw [List.length_drop]
      omega
    have hjoin := List.take_append_drop (padded.length - places) padded
    refine ⟨padded.take (padded.length - places), padded.drop (padded.length - places), ?_, ?_, ?_,
      hfraction, ?_⟩
    · rw [separated, if_neg (List.ne_nil_of_length_pos (by omega))]
    · rw [hjoin, ← hpadded, List.forall_mem_append]
      refine ⟨fun c hc => ?_, hdigits⟩
      rw [List.eq_of_mem_replicate hc]
      rfl
    · rw [← List.length_pos_iff, List.length_take]
      omega
    · rw [hjoin, ← hpadded, digitsValue_zeros_append, digitsValue_natDigits]

variable {x : Float} {negative : Bool} {significand : Nat} {exponent : Int}

/-- A finite number is written as a placed decimal of its rounded units. -/
theorem exists_placed_fixedDigits (hx : Binary64.ofFloat x = .finite negative significand exponent)
    (places : Nat) :
    ∃ whole fraction, Placed (fixedDigits places x) places
      (fixedUnits places significand exponent) whole fraction := by
  rw [fixedDigits, hx]
  exact exists_placed places _

/-- A finite number is written as the nearest decimal with the places asked for. -/
theorem fixedDigits_nearest (hx : isFinite x = true) (places : Nat) :
    ∃ whole fraction units, Placed (fixedDigits places x) places units whole fraction ∧
      |(units : ℚ) - |exactValue x| * 10 ^ places| ≤ 1 / 2 := by
  obtain ⟨negative, significand, exponent, hparts⟩ := exists_of_isFinite hx
  obtain ⟨whole, fraction, hplaced⟩ := exists_placed_fixedDigits hparts places
  refine ⟨whole, fraction, _, hplaced, ?_⟩
  rw [abs_exactValue hparts]
  exact fixedUnits_bounds places significand exponent

end Decimal

namespace Formatter

open Decimal

/-! ## Groups -/

section Groups

variable {separator : Char}

/-- Digits are parted into a first group of one to three and groups of three, each of these with a
separator before it. -/
theorem exists_groups (separator : Char) {digits : List Char} (hdigits : digits ≠ []) :
    ∃ (first : List Char) (groups : List (List Char)),
      groupThousands separator digits = first ++ groups.flatMap (separator :: ·) ∧
      digits = first ++ groups.flatten ∧ (1 ≤ first.length ∧ first.length ≤ 3) ∧
      ∀ group ∈ groups, group.length = 3 := by
  induction digits with
  | nil => contradiction
  | cons digit rest ih =>
      rcases eq_or_ne rest [] with rfl | hrest
      · exact ⟨[digit], [], rfl, rfl, by simp, List.forall_mem_nil _⟩
      obtain ⟨first, groups, hgrouped, hparts, hfirst, hgroups⟩ := ih hrest
      have hlength : rest.length = first.length + 3 * groups.length := by
        have hsizes : groups.map List.length = List.replicate groups.length 3 :=
          List.map_eq_replicate_iff.mpr hgroups
        rw [hparts, List.length_append, List.length_flatten, hsizes,
          List.sum_replicate_nat, Nat.mul_comm]
      have hisEmpty : rest.isEmpty = false := List.isEmpty_eq_false_iff.mpr hrest
      rw [groupThousands, hisEmpty, hgrouped]
      by_cases hfull : first.length = 3
      · -- The group is full, and the digit begins a new one.
        refine ⟨[digit], first :: groups, ?_, ?_, by simp,
          List.forall_mem_cons.mpr ⟨hfull, hgroups⟩⟩
        · rw [if_pos (by simp; omega)]
          rfl
        · rw [hparts]
          rfl
      · refine ⟨digit :: first, groups, ?_, ?_, ?_, hgroups⟩
        · rw [if_neg (by simp; omega)]
          rfl
        · rw [hparts]
          rfl
        · rw [List.length_cons]
          omega

/-- Grouping moves no digit and adds none. -/
theorem mem_groupThousands {digits : List Char} {c : Char} (hc : c ≠ separator) :
    c ∈ groupThousands separator digits ↔ c ∈ digits := by
  induction digits with
  | nil => rfl
  | cons digit rest ih =>
      rw [groupThousands]
      split <;> simp [ih, hc]

/-- Without the separators the digits are left. -/
theorem filter_groupThousands {digits : List Char} (hnone : separator ∉ digits) :
    (groupThousands separator digits).filter (· ≠ separator) = digits := by
  induction digits with
  | nil => rfl
  | cons digit rest ih =>
      obtain ⟨hdigit, hrest⟩ := not_or.mp (mt List.mem_cons.mpr hnone)
      rw [groupThousands]
      split
      · simpa [Ne.symm hdigit] using ih hrest
      · simpa [Ne.symm hdigit] using ih hrest

end Groups

/-! ## Grouped decimals -/

section Decimals

variable {x : Float} {negative : Bool} {significand : Nat} {exponent : Int}

/-- The digits of a fraction that are written. -/
def keptDigits (shorten : Bool) (fraction : List Char) : List Char :=
  if shorten then dropZerosEnd fraction else fraction

/-- Only zeros are dropped at the end. -/
theorem dropZerosEnd_append (digits : List Char) :
    ∃ zeros, digits = dropZerosEnd digits ++ List.replicate zeros '0' := by
  refine ⟨(digits.reverse.takeWhile (· == '0')).length, ?_⟩
  have hzeros : digits.reverse.takeWhile (· == '0') =
      List.replicate (digits.reverse.takeWhile (· == '0')).length '0' :=
    List.eq_replicate_of_mem fun c hc => by simpa using List.mem_takeWhile_imp hc
  rw [dropZerosEnd, ← List.reverse_replicate, ← hzeros, ← List.reverse_append,
    List.takeWhile_append_dropWhile, List.reverse_reverse]

/-- A placed decimal shows something other than zeros and the point if it is not zero. -/
theorem any_placed {text whole fraction : List Char} {places units : Nat}
    (hplaced : Placed text places units whole fraction) :
    text.any (fun c => c != '0' && c != '.') = decide (units ≠ 0) := by
  have hmem : ∀ c, c ≠ '.' → (c ∈ text ↔ c ∈ whole ++ fraction) := by
    intro c hc
    rw [hplaced.text_eq, List.mem_append, List.mem_append, mem_separated_of_ne hc]
  rw [Bool.eq_iff_iff, decide_eq_true_iff, hplaced.units_ne_zero_iff, List.any_eq_true]
  simp only [Bool.and_eq_true, bne_iff_ne]
  constructor
  · rintro ⟨c, hc, hzero, hdot⟩
    exact ⟨c, (hmem c hdot).mp hc, hzero⟩
  · rintro ⟨c, hc, hzero⟩
    have hdot : c ≠ '.' := by
      rintro rfl
      cases hplaced.isDigit _ hc
    exact ⟨c, (hmem c hdot).mpr hc, hzero, hdot⟩

/-- The parts of a grouped decimal. -/
theorem groupDecimal_eq {decimals units : Nat} {whole fraction : List Char}
    (hplaced : Placed (fixedDigits decimals x) decimals units whole fraction)
    (shorten : Bool) (style : NumberStyle) :
    groupDecimal x decimals shorten style =
      (if x < 0.0 ∧ units ≠ 0 then ['-'] else []) ++
        (groupThousands style.groupingSeparator whole ++
          separated style.decimalSeparator (keptDigits shorten fraction)) := by
  have hpoint : '.' ∉ whole := (hplaced.notMem rfl).1
  have hsplit : (Text.splitFirst '.' (fixedDigits decimals x)).1 = whole ∧
      (Text.splitFirst '.' (fixedDigits decimals x)).2.getD [] = fraction := by
    rw [hplaced.text_eq, separated]
    split
    · next hnil =>
        rw [List.append_nil, Text.splitFirst_of_notMem hpoint, hnil]
        exact ⟨rfl, rfl⟩
    · rw [Text.splitFirst_append_cons hpoint]
      exact ⟨rfl, rfl⟩
  rw [groupDecimal, any_placed hplaced, ← List.append_assoc]
  simp only [hsplit.1, hsplit.2, Bool.and_eq_true, decide_eq_true_iff, List.isEmpty_iff]
  rfl

/-- A text with a point without the zeros at its end, and without the point if nothing else follows
it. -/
def trimmed (text : List Char) : List Char :=
  if '.' ∈ text then (text.rdropWhile (· == '0')).rdropWhile (· == '.') else text

/-- Dropping from the end reaches the first part only if the second is dropped whole. -/
theorem rdropWhile_append (p : Char → Bool) (before after : List Char) :
    (before ++ after).rdropWhile p =
      if after.rdropWhile p = [] then before.rdropWhile p else before ++ after.rdropWhile p := by
  rw [List.rdropWhile, List.reverse_append, List.dropWhile_append]
  simp only [List.isEmpty_iff, List.rdropWhile, List.reverse_eq_nil_iff]
  split
  · rfl
  · rw [List.reverse_append, List.reverse_reverse]

/-- Nothing is dropped from the end if nothing is to be dropped at all. -/
theorem rdropWhile_of_forall_not {p : Char → Bool} {cs : List Char} (hcs : ∀ c ∈ cs, ¬p c) :
    cs.rdropWhile p = cs :=
  List.rdropWhile_eq_self_iff.mpr fun hne => hcs _ (List.getLast_mem hne)

/-- Trimming drops the zeros at the end of the fraction, and the point if nothing is left. -/
theorem trimmed_of_placed {text whole fraction : List Char} {places units : Nat}
    (hplaced : Placed text places units whole fraction) :
    trimmed text = whole ++ separated '.' (dropZerosEnd fraction) := by
  obtain ⟨hwhole, hfraction⟩ := hplaced.notMem (c := '.') rfl
  have hself : ∀ cs : List Char, '.' ∉ cs → cs.rdropWhile (· == '.') = cs := fun cs hcs =>
    rdropWhile_of_forall_not fun c hc => by simpa using ne_of_mem_of_not_mem hc hcs
  have hkept : fraction.rdropWhile (· == '0') = dropZerosEnd fraction := rfl
  rw [trimmed, hplaced.text_eq]
  by_cases hnil : fraction = []
  · have hempty : separated '.' [] = [] := rfl
    rw [hnil, hempty, List.append_nil, if_neg hwhole]
    exact (List.append_nil whole).symm
  · have hpoint : whole ++ separated '.' fraction = whole ++ ['.'] ++ fraction := by
      rw [separated, if_neg hnil, List.append_assoc, List.singleton_append]
    have hzeros : (whole ++ ['.']).rdropWhile (· == '0') = whole ++ ['.'] :=
      List.rdropWhile_concat_neg _ _ _ (by decide)
    rw [hpoint, if_pos (by simp), rdropWhile_append, hkept, hzeros, separated]
    by_cases hshort : dropZerosEnd fraction = []
    · rw [if_pos hshort, if_pos hshort, List.rdropWhile_concat_pos _ _ _ rfl, List.append_nil,
        hself whole hwhole]
    · have hrest : '.' ∉ dropZerosEnd fraction := fun hmem =>
        hfraction ((hkept ▸ List.rdropWhile_prefix _ _).subset hmem)
      rw [if_neg hshort, if_neg hshort, rdropWhile_append, hself _ hrest, if_neg hshort,
        List.append_assoc, List.singleton_append]

/-- A character that can be taken neither for a digit nor for a sign. -/
def Neutral (c : Char) : Prop :=
  c.isDigit = false ∧ c ≠ '-'

/-- Whether a character is neutral can be computed. -/
instance (c : Char) : Decidable (Neutral c) :=
  inferInstanceAs (Decidable (c.isDigit = false ∧ c ≠ '-'))

/-- A neutral separator is not a digit. -/
theorem Neutral.ne_of_isDigit {separator c : Char} (hseparator : Neutral separator)
    (hc : c.isDigit = true) : c ≠ separator := by
  rintro rfl
  rw [hseparator.1] at hc
  cases hc

/-- A neutral separator does not occur among digits. -/
theorem Neutral.notMem {separator : Char} (hseparator : Neutral separator)
    {digits : List Char} (hdigits : ∀ c ∈ digits, c.isDigit = true) : separator ∉ digits :=
  fun hmem => hseparator.ne_of_isDigit (hdigits _ hmem) rfl

/-- Removing a separator that does not occur changes nothing. -/
theorem filter_of_notMem {separator : Char} {cs : List Char} (hnone : separator ∉ cs) :
    cs.filter (· ≠ separator) = cs :=
  List.filter_eq_self.mpr fun c hc => by simpa using ne_of_mem_of_not_mem hc hnone

/-- Replacing a separator that does not occur changes nothing. -/
theorem map_of_notMem {separator : Char} {cs : List Char} (hnone : separator ∉ cs) :
    cs.map (fun c => if c = separator then '.' else c) = cs := by
  rw [List.map_congr_left fun c hc => if_neg (ne_of_mem_of_not_mem hc hnone), List.map_id']

/-- The digits that are kept are digits of the fraction. -/
theorem mem_of_mem_keptDigits {shorten : Bool} {fraction : List Char} {c : Char}
    (hc : c ∈ keptDigits shorten fraction) : c ∈ fraction := by
  cases shorten with
  | false => exact hc
  | true => exact (List.rdropWhile_prefix (· == '0') fraction).subset hc

/-- The digits of a number do not depend on its sign. -/
theorem fixedDigits_magnitude (places : Nat) (x : Float) :
    fixedDigits places (magnitude x) = fixedDigits places x := by
  rw [fixedDigits, fixedDigits, ofFloat_magnitude]
  cases Binary64.ofFloat x <;> rfl

/-- No sign stands among the digits. -/
theorem sign_notMem {text whole fraction : List Char} {places units : Nat}
    (hplaced : Placed text places units whole fraction) (shorten : Bool) {style : NumberStyle}
    (hgrouping : Neutral style.groupingSeparator) (hdecimal : Neutral style.decimalSeparator) :
    '-' ∉ groupThousands style.groupingSeparator whole ++
      separated style.decimalSeparator (keptDigits shorten fraction) := by
  obtain ⟨hwhole, hfraction⟩ := hplaced.notMem (c := '-') rfl
  rw [List.mem_append, mem_groupThousands hgrouping.2.symm, mem_separated_of_ne hdecimal.2.symm,
    not_or]
  exact ⟨hwhole, mt mem_of_mem_keptDigits hfraction⟩

/-- The body of a text in which the digits before the point stand in groups, and the plain decimal
that it writes. -/
structure Grouped (style : NumberStyle) (plain body first : List Char) (groups : List (List Char))
    (fraction : List Char) : Prop where
  body_eq : body = first ++ groups.flatMap (style.groupingSeparator :: ·) ++
    separated style.decimalSeparator fraction
  isDigit : ∀ c ∈ first ++ groups.flatten ++ fraction, c.isDigit = true
  length_first : 1 ≤ first.length ∧ first.length ≤ 3
  length_group : ∀ group ∈ groups, group.length = 3
  mem_body_iff : style.decimalSeparator ∈ body ↔ fraction ≠ []
  sign_notMem : '-' ∉ body
  plain_eq : (body.filter (· ≠ style.groupingSeparator)).map
    (fun c => if c = style.decimalSeparator then '.' else c) = plain

/-- A finite number is written with all its digits, those before the point in groups of three. -/
theorem groupDecimal_grouped (hx : isFinite x = true) (decimals : Nat) (shorten : Bool)
    {style : NumberStyle} (hgrouping : Neutral style.groupingSeparator)
    (hdecimal : Neutral style.decimalSeparator)
    (hdistinct : style.groupingSeparator ≠ style.decimalSeparator) :
    ∃ (sign body first : List Char) (groups : List (List Char)) (fraction : List Char),
      groupDecimal x decimals shorten style = sign ++ body ∧ (sign = [] ∨ sign = ['-']) ∧
      Grouped style (if shorten then trimmed (fixedDigits decimals (magnitude x))
        else fixedDigits decimals (magnitude x)) body first groups fraction := by
  obtain ⟨negative, significand, exponent, hparts⟩ := exists_of_isFinite hx
  obtain ⟨whole, digits, hplaced⟩ := exists_placed_fixedDigits hparts decimals
  obtain ⟨first, groups, hgroups, hwhole, hfirst, hsizes⟩ :=
    exists_groups style.groupingSeparator hplaced.whole_ne_nil
  have hdigits : ∀ c ∈ whole ++ keptDigits shorten digits, c.isDigit = true := by
    intro c hc
    refine hplaced.isDigit c ?_
    rw [List.mem_append] at hc ⊢
    exact hc.imp_right mem_of_mem_keptDigits
  have hnoGrouping := hgrouping.notMem hdigits
  have hnoDecimal := hdecimal.notMem hdigits
  have hnoSign := sign_notMem hplaced shorten hgrouping hdecimal
  have hplain : (if shorten then trimmed (fixedDigits decimals (magnitude x))
      else fixedDigits decimals (magnitude x)) =
      whole ++ separated '.' (keptDigits shorten digits) := by
    rw [fixedDigits_magnitude]
    cases shorten with
    | false => exact hplaced.text_eq
    | true => exact trimmed_of_placed hplaced
  rw [groupDecimal_eq hplaced, hplain]
  generalize keptDigits shorten digits = fraction at hdigits hnoGrouping hnoDecimal hnoSign
  rw [List.mem_append, not_or] at hnoGrouping hnoDecimal
  refine ⟨_, _, first, groups, fraction, rfl, ?_, ?_, ?_, hfirst, hsizes, ?_, hnoSign, ?_⟩
  · split
    · exact .inr rfl
    · exact .inl rfl
  · rw [hgroups]
  · rwa [← hwhole]
  · rw [List.mem_append, mem_groupThousands hdistinct.symm, or_iff_right hnoDecimal.1,
      separator_mem_separated]
  · rw [List.filter_append, filter_groupThousands hnoGrouping.1, List.map_append,
      map_of_notMem hnoDecimal.1, separated, separated]
    split
    · rfl
    · rw [List.filter_cons_of_pos (by simpa using hdistinct.symm), filter_of_notMem hnoGrouping.2,
        List.map_cons, if_pos rfl, map_of_notMem hnoDecimal.2]

/-- Seven digits before the point and one that is left after it. -/
theorem groupDecimal_grouped_amount :
    groupDecimal (-1234567.5) 3 true {} = "-1,234,567.5".toList ∧
      ∃ sign body first groups fraction,
        groupDecimal (-1234567.5) 3 true {} = sign ++ body ∧ (sign = [] ∨ sign = ['-']) ∧
        Grouped {} (trimmed (fixedDigits 3 (magnitude (-1234567.5)))) body first groups fraction :=
  ⟨by decide +kernel, groupDecimal_grouped (by decide +kernel) 3 true (by decide)
    (by decide) (by decide)⟩

end Decimals

end Formatter

end Platen
