import LiveBoard.Proofs.Json.Numerals
import LiveBoard.Proofs.Json.NumberRange
import LiveBoard.Proofs.Numeric.Underflow
import Mathlib.Tactic.Linarith

/-!
# Numerals that are read as zero

A numeral is made into a number in two steps. Its digits are gathered as far as they fit, which
changes its exact value by less than a rounding (`Numeral.near_gathered`), and the power of ten is
applied, exponent and all (`exponentUnits?_eq`). So a numeral that means zero is read as zero, one
of at least `nonzeroFrom` is not, and one of at most `zeroUpTo` is, although it need not mean zero
(`Numeral.isZero_of_le`). Half the least double lies between the two bounds.
-/

set_option autoImplicit false
set_option relaxedAutoImplicit false

namespace LiveBoard.Json

open Numeric

/-! ### Digits that do not fit -/

section Digits

variable {start : Nat} {digits : List UInt8}

@[simp]
theorem runValue_append (start : Nat) (first second : List UInt8) :
    runValue start (first ++ second) = runValue (runValue start first) second :=
  List.foldl_append

theorem mul_pow_le_runValue (start : Nat) (digits : List UInt8) :
    start * 10 ^ digits.length ≤ runValue start digits := by
  induction digits generalizing start with
  | nil => exact (Nat.mul_one start).le
  | cons b digits ih =>
    calc start * 10 ^ (b :: digits).length = start * 10 * 10 ^ digits.length := by
          rw [List.length_cons]
          ring
      _ ≤ (start * 10 + digitValue b) * 10 ^ digits.length :=
          Nat.mul_le_mul_right _ (Nat.le_add_right _ _)
      _ ≤ runValue start (b :: digits) := ih _

/-- A run of digits lies between the number in front of it and the next one. -/
theorem runValue_scaled (start : Nat) (hdigits : ∀ b ∈ digits, isDigit b = true) (scale : Int) :
    (start * 10 ^ scale : ℚ) ≤ runValue start digits * 10 ^ (scale - digits.length) ∧
      (runValue start digits * 10 ^ (scale - digits.length) : ℚ) ≤ (start + 1) * 10 ^ scale := by
  have hten : (0 : ℚ) < 10 ^ (scale - digits.length) := zpow_pos (by norm_num) _
  have hsplit : (10 ^ scale : ℚ) = 10 ^ digits.length * 10 ^ (scale - digits.length) := by
    rw [← zpow_natCast, ← zpow_add₀ (by norm_num), add_sub_cancel]
  have hlow : (start * 10 ^ digits.length : ℚ) ≤ runValue start digits := by
    exact_mod_cast mul_pow_le_runValue start digits
  have hhigh : (runValue start digits : ℚ) ≤ (start + 1) * 10 ^ digits.length := by
    exact_mod_cast (runValue_lt start hdigits).le
  rw [hsplit, ← mul_assoc, ← mul_assoc]
  exact ⟨mul_le_mul_of_nonneg_right hlow hten.le, mul_le_mul_of_nonneg_right hhigh hten.le⟩

/-- What is gathered of a run of digits is a beginning of it, and what does not fit stands behind a
large number. -/
theorem exists_gather (start : Nat) (hdigits : ∀ b ∈ digits, isDigit b = true) :
    ∃ kept unfit, digits = kept ++ unfit ∧ gather start digits = (runValue start kept, unfit) ∧
      (unfit ≠ [] → 2 ^ 20 ≤ runValue start kept) := by
  induction digits generalizing start with
  | nil => exact ⟨[], [], rfl, rfl, fun hsome ↦ absurd rfl hsome⟩
  | cons b digits ih =>
    have hb := hdigits b List.mem_cons_self
    by_cases hfits : start * 10 + digitValue b ≤ largestNatural
    · obtain ⟨kept, unfit, rfl, hgather, hlarge⟩ := ih (start * 10 + digitValue b)
        fun d hd ↦ hdigits d (List.mem_cons_of_mem b hd)
      refine ⟨b :: kept, unfit, rfl, ?_, hlarge⟩
      rw [gather, hb, Bool.true_and, if_pos (by simpa using hfits)]
      exact hgather
    · refine ⟨[], b :: digits, rfl, ?_, fun _ ↦ ?_⟩
      · rw [gather, hb, Bool.true_and, if_neg (by simpa using hfits)]
        rfl
      · have hlimit : 2 ^ 24 ≤ largestNatural := by decide
        have hbyte := b.toNat_lt
        change 2 ^ 20 ≤ start
        rw [digitValue] at hfits
        omega

end Digits

/-! ### Gathering digits -/

/-- Assumes: a number that is large enough. Two magnitudes between it and the next number, on some
scale, are nearly equal. -/
theorem near_of_between {number : Nat} {scale a b : ℚ} (hlarge : 2 ^ 20 ≤ number)
    (hscale : 0 ≤ scale) (ha : number * scale ≤ a ∧ a ≤ (number + 1) * scale)
    (hb : number * scale ≤ b ∧ b ≤ (number + 1) * scale) : Near 1 a b := by
  have hnumber : (2 ^ 20 : ℚ) ≤ number := by exact_mod_cast hlarge
  have hwide : ((number + 1) * scale : ℚ) ≤ number * scale * slack := by
    have hone : (1 : ℚ) ≤ number * (1 / 2 ^ 20) := by linarith
    have hproduct := mul_le_mul_of_nonneg_right hone hscale
    rw [slack]
    linarith
  have hslack := slack_pos.le
  constructor
  · rw [pow_one]
    exact (ha.2.trans hwide).trans (mul_le_mul_of_nonneg_right hb.1 hslack)
  · rw [pow_one]
    exact (hb.2.trans hwide).trans (mul_le_mul_of_nonneg_right ha.1 hslack)

/-- Assumes: digits of which those that do not fit stand behind a large number. The digits that are
kept make the number of all of them, up to a rounding. -/
theorem near_kept {start : Nat} {unfitWhole kept unfit : List UInt8}
    (hdigits : ∀ b ∈ unfitWhole ++ (kept ++ unfit), isDigit b = true)
    (hlargeWhole : unfitWhole ≠ [] → 2 ^ 20 ≤ start)
    (hlarge : unfit ≠ [] → 2 ^ 20 ≤ runValue start kept) :
    Near 1 (runValue start kept * 10 ^ ((unfitWhole.length : Int) - kept.length))
      (runValue start (unfitWhole ++ (kept ++ unfit)) *
        10 ^ (-((kept ++ unfit).length : Int))) := by
  have hten : ∀ scale : Int, (0 : ℚ) ≤ 10 ^ scale := fun scale ↦ (zpow_pos (by norm_num) scale).le
  obtain ⟨-, hrest⟩ := List.forall_mem_append.mp hdigits
  obtain ⟨hkept, hunfit⟩ := List.forall_mem_append.mp hrest
  by_cases hfits : unfitWhole = []
  · subst hfits
    have hlength : -((kept ++ unfit).length : Int) = -(kept.length : Int) - unfit.length := by
      rw [List.length_append]
      omega
    rw [List.nil_append, runValue_append, hlength, List.length_nil, Nat.cast_zero, zero_sub]
    by_cases hall : unfit = []
    · subst hall
      rw [List.length_nil, Nat.cast_zero, sub_zero]
      exact Near.refl (mul_nonneg (Nat.cast_nonneg _) (hten _))
    · refine near_of_between (hlarge hall) (hten _) ⟨le_rfl, ?_⟩ (runValue_scaled _ hunfit _)
      exact mul_le_mul_of_nonneg_right (lt_add_one _).le (hten _)
  · have hlength : -((kept ++ unfit).length : Int) =
        (unfitWhole.length : Int) - (unfitWhole ++ (kept ++ unfit)).length := by
      simp only [List.length_append]
      omega
    rw [hlength]
    exact near_of_between (hlargeWhole hfits) (hten _) (runValue_scaled start hkept _)
      (runValue_scaled start hdigits _)

/-- The digits that are gathered make the number of all digits, up to a rounding. -/
theorem Numeral.near_gathered (numeral : Numeral) :
    Near 1 (numeral.gathered * 10 ^ numeral.shift)
      (numeral.significand * 10 ^ (-(numeral.fraction.length : Int))) := by
  obtain ⟨hwhole, -, -⟩ := encodeText_digits numeral.isDigit_whole
  obtain ⟨hfraction, hlength, -⟩ := encodeText_digits numeral.isDigit_fraction
  obtain ⟨keptWhole, unfitWhole, hwholes, hgatherWhole, hlargeWhole⟩ := exists_gather 0 hwhole
  obtain ⟨kept, unfit, hfractions, hgather, hlarge⟩ :=
    exists_gather (runValue 0 keptWhole) hfraction
  have hcount : numeral.fraction.length = (kept ++ unfit).length := by
    rw [← hlength, hfractions]
  have hgathered : numeral.gathered = runValue (runValue 0 keptWhole) kept := by
    simp only [Numeral.gathered, gatherFraction, gatherWhole, hgatherWhole, hgather]
  have hshift : numeral.shift = (unfitWhole.length : Int) - kept.length := by
    rw [List.length_append] at hcount
    simp only [Numeral.shift, gatherFraction, gatherWhole, hgatherWhole, hgather]
    omega
  have hsignificand : numeral.significand =
      runValue (runValue 0 keptWhole) (unfitWhole ++ (kept ++ unfit)) := by
    have hall : ∀ c ∈ numeral.whole ++ numeral.fraction, c.isDigit = true :=
      List.forall_mem_append.mpr ⟨numeral.isDigit_whole, numeral.isDigit_fraction⟩
    rw [Numeral.significand, ← (encodeText_digits hall).2.2, Text.encodeText_append, hwholes,
      hfractions, List.append_assoc, runValue_append]
  have hdigits : ∀ b ∈ unfitWhole ++ (kept ++ unfit), isDigit b = true := by
    rw [hwholes] at hwhole
    rw [hfractions] at hfraction
    exact List.forall_mem_append.mpr ⟨(List.forall_mem_append.mp hwhole).2, hfraction⟩
  rw [hgathered, hshift, hsignificand, hcount]
  exact near_kept hdigits hlargeWhole hlarge

/-! ### Applying the power of ten -/

theorem largestExponent_eq : largestExponent = 2147483647 := by decide

section Powers

variable {significand : Nat}

/-- A power of ten beyond the range of exponents is as good as the last one in it. -/
theorem scaled?_saturated (hsignificand : significand ≤ 2 ^ 64) (power : Int) :
    scaled? significand (saturated power) = scaled? significand power := by
  have hlimit := largestExponent_eq
  obtain hlow | hinside | hhigh : power < -(largestExponent : Int) - 1 ∨
      saturated power = power ∨ (largestExponent : Int) < power := by
    unfold saturated
    omega
  · rw [scaled?_of_small hsignificand (show power < -616 by omega),
      scaled?_of_small hsignificand (by unfold saturated; omega)]
  · rw [hinside]
  · rw [scaled?_of_beyond (show 308 < power by omega),
      scaled?_of_beyond (by unfold saturated; omega)]

/-- Assumes: a shift that is not too large. However many digits an exponent has, its exact power of
ten is applied. -/
theorem exponentUnits?_eq (hsignificand : significand ≤ 2 ^ 64) {shift : Int}
    (hshift : shift.natAbs ≤ 2 * 10 ^ 9) (exponent : Option Exponent) :
    exponentUnits? significand shift exponent =
      scaled? significand (shift + exponentPower exponent) := by
  have hlimit := largestExponent_eq
  cases exponent with
  | none => rw [exponentUnits?, exponentPower, Option.map_none, Option.getD_none, add_zero]
  | some exponent =>
    rw [exponentUnits?, exponentPower, Option.map_some, Option.getD_some]
    split_ifs with hfits hlarge
    · exact scaled?_saturated hsignificand _
    · rw [Exponent.power, if_neg hlarge.1, scaled?_of_beyond (by omega), if_neg hlarge.2]
    · by_cases hsign : exponent.sign = .minus
      · rw [Exponent.power, if_pos hsign, scaled?_of_small hsignificand (by omega)]
      · have hzero : significand = 0 := by
          by_contra hsome
          exact hlarge ⟨hsign, hsome⟩
        rw [hzero, scaled?_zero]

/-- Zero stays zero, whatever the exponent is. -/
@[simp]
theorem exponentUnits?_zero (shift : Int) (exponent : Option Exponent) :
    exponentUnits? 0 shift exponent = some 0 := by
  cases exponent with
  | none => exact scaled?_zero shift
  | some exponent =>
    rw [exponentUnits?]
    split_ifs with hfits hlarge
    · exact scaled?_zero _
    · exact absurd rfl hlarge.2
    · rfl

end Powers

/-! ### Numerals -/

/-- Numbers up to here are read as zero. -/
def zeroUpTo : ℚ := 2470 / 10 ^ 327

/-- Numbers from here on are not read as zero. -/
def nonzeroFrom : ℚ := 2471 / 10 ^ 327

@[simp]
theorem isZero_wholeNumber (negative : Bool) (magnitude : Nat) :
    (wholeNumber negative magnitude).isZero = decide (magnitude = 0) := by
  unfold wholeNumber
  split_ifs
  · exact beq_eq_decide magnitude 0
  · exact (beq_eq_decide _ _).trans (decide_eq_decide.mpr unitsOfNat_eq_zero_iff)
  · exact beq_eq_decide magnitude 0

section Numerals

variable {numeral : Numeral} {number : Number}

theorem Numeral.gathered_le (numeral : Numeral) : numeral.gathered ≤ 2 ^ 64 :=
  le_pow_of_le_largestNatural (gather_le (gather_le (Nat.zero_le _) _) _)

/-- The digits that a numeral drops and keeps are digits of its text. -/
theorem Numeral.natAbs_shift_le (numeral : Numeral) :
    numeral.shift.natAbs ≤ numeral.text.length := by
  obtain ⟨hwhole, hlength, -⟩ := encodeText_digits numeral.isDigit_whole
  obtain ⟨kept, unfit, hsplit, hgather, -⟩ := exists_gather 0 hwhole
  have hdropped : (gatherWhole numeral.whole).2 ≤ numeral.whole.length := by
    rw [← hlength, hsplit, List.length_append, gatherWhole, hgather]
    exact Nat.le_add_left _ _
  have hkept : (gatherFraction (gatherWhole numeral.whole).1 numeral.fraction).2 ≤
      numeral.fraction.length := Nat.sub_le _ _
  have hfraction : numeral.fraction.length ≤ (fractionText numeral.fraction).length := by
    unfold fractionText
    split_ifs with hnil
    · rw [hnil]
    · exact Nat.le_succ _
  have htext : numeral.whole.length + numeral.fraction.length ≤ numeral.text.length := by
    unfold Numeral.text Numeral.unsignedText
    split_ifs <;> simp only [List.length_cons, List.length_append] <;> omega
  unfold Numeral.shift
  omega

/-- The exact number of the gathered digits and the power of ten that is applied to them. -/
def Numeral.applied (numeral : Numeral) : ℚ :=
  numeral.gathered * 10 ^ (numeral.shift + exponentPower numeral.exponent)

/-- The gathered digits with the exact power of ten make the number that is meant, up to a
rounding. -/
theorem Numeral.near_magnitude (numeral : Numeral) :
    Near 1 numeral.applied numeral.magnitude := by
  have hten : (10 : ℚ) ≠ 0 := by norm_num
  have hpower : (0 : ℚ) ≤ 10 ^ exponentPower numeral.exponent := (zpow_pos (by norm_num) _).le
  have hnear := numeral.near_gathered.mul_right hpower
  rw [mul_assoc, mul_assoc, ← zpow_add₀ hten, ← zpow_add₀ hten, neg_add_eq_sub] at hnear
  exact hnear

theorem Numeral.magnitude_nonneg (numeral : Numeral) : 0 ≤ numeral.magnitude :=
  mul_nonneg (Nat.cast_nonneg _) (zpow_pos (by norm_num) _).le

@[simp]
theorem Numeral.abs_value (numeral : Numeral) : |numeral.value| = numeral.magnitude := by
  unfold Numeral.value
  split_ifs
  · rw [abs_neg, abs_of_nonneg numeral.magnitude_nonneg]
  · exact abs_of_nonneg numeral.magnitude_nonneg

/-- A numeral is read as an integer of its digits or as a double of its magnitude. -/
theorem Numeral.number?_eq_some (h : numeral.number? = some number) :
    (numeral.shift + exponentPower numeral.exponent = 0 ∧
        number = wholeNumber numeral.negative numeral.gathered) ∨
      ∃ units, exponentUnits? numeral.gathered numeral.shift numeral.exponent = some units ∧
        number = .double ⟨numeral.negative, units⟩ := by
  unfold Numeral.number? at h
  split_ifs at h with hinteger
  · obtain ⟨hfraction, hexponent, hfits⟩ := hinteger
    refine Or.inl ⟨?_, (Option.some.inj h).symm⟩
    rw [Numeral.shift, hfits, hfraction, hexponent]
    rfl
  · obtain ⟨units, hunits, hnumber⟩ := Option.map_eq_some_iff.mp h
    exact Or.inr ⟨units, hunits, hnumber.symm⟩

/-- A numeral that means zero is read as zero. -/
theorem Numeral.isZero_of_value_eq_zero (h : numeral.number? = some number)
    (hvalue : numeral.value = 0) : number.isZero = true := by
  have hmagnitude : numeral.magnitude = 0 := by rw [← numeral.abs_value, hvalue, abs_zero]
  have hgathered : numeral.gathered = 0 := by
    by_contra hsome
    have hpositive := numeral.near_magnitude.symm.pos
      (mul_pos (Nat.cast_pos.mpr (Nat.pos_of_ne_zero hsome)) (zpow_pos (by norm_num) _))
    exact hpositive.ne' hmagnitude
  obtain ⟨-, rfl⟩ | ⟨units, hunits, rfl⟩ := numeral.number?_eq_some h
  · rw [isZero_wholeNumber, hgathered]
    rfl
  · rw [hgathered, exponentUnits?_zero, Option.some.injEq] at hunits
    rw [← hunits]
    rfl

/-- Assumes: a text that is not too long. What a numeral is read as is zero only where the applied
number is half a unit at most, and not zero only where it is half a unit at least, up to four
roundings. -/
theorem Numeral.isZero_applied (hlength : numeral.text.length ≤ 2 * 10 ^ 9)
    (h : numeral.number? = some number) :
    (number.isZero = true → numeral.applied ≤ halfUnit * slack ^ 4) ∧
      (number.isZero = false → halfUnit ≤ numeral.applied * slack ^ 4) := by
  unfold Numeral.applied
  obtain ⟨hpower, rfl⟩ | ⟨units, hunits, rfl⟩ := numeral.number?_eq_some h
  · rw [isZero_wholeNumber, hpower, zpow_zero, mul_one, decide_eq_true_eq, decide_eq_false_iff_not]
    constructor
    · intro hzero
      rw [hzero, Nat.cast_zero]
      exact (mul_pos halfUnit_pos (pow_pos slack_pos 4)).le
    · intro hsome
      have hone : (1 : ℚ) ≤ numeral.gathered := by
        exact_mod_cast Nat.one_le_iff_ne_zero.mpr hsome
      calc halfUnit ≤ 1 := halfUnit_le_one
        _ ≤ numeral.gathered := hone
        _ ≤ numeral.gathered * slack ^ 4 :=
          le_mul_of_one_le_right (zero_le_one.trans hone) (one_le_pow₀ one_le_slack)
  · rw [exponentUnits?_eq numeral.gathered_le (numeral.natAbs_shift_le.trans hlength)] at hunits
    constructor
    · intro hzero
      obtain rfl : units = 0 := eq_of_beq hzero
      exact le_of_scaled?_eq_zero numeral.gathered_le hunits
    · intro hsome
      exact le_of_scaled?_ne_zero numeral.gathered_le hunits (beq_eq_false_iff_ne.mp hsome)

/-- Assumes: a text that is not too long. What a numeral is read as is zero only where it means half
a unit at most, and not zero only where it means half a unit at least, up to five roundings. -/
theorem Numeral.isZero_bounds (hlength : numeral.text.length ≤ 2 * 10 ^ 9)
    (h : numeral.number? = some number) :
    (number.isZero = true → numeral.magnitude ≤ halfUnit * slack ^ 5) ∧
      (number.isZero = false → halfUnit ≤ numeral.magnitude * slack ^ 5) := by
  have hnear := numeral.near_magnitude
  have hbounds := numeral.isZero_applied hlength h
  constructor
  · intro hzero
    calc numeral.magnitude ≤ numeral.applied * slack ^ 1 := hnear.ge
      _ ≤ halfUnit * slack ^ 4 * slack ^ 1 :=
        mul_le_mul_of_nonneg_right (hbounds.1 hzero) (pow_pos slack_pos 1).le
      _ = halfUnit * slack ^ 5 := by ring
  · intro hsome
    calc halfUnit ≤ numeral.applied * slack ^ 4 := hbounds.2 hsome
      _ ≤ numeral.magnitude * slack ^ 1 * slack ^ 4 :=
        mul_le_mul_of_nonneg_right hnear.le (pow_pos slack_pos 4).le
      _ = numeral.magnitude * slack ^ 5 := by ring

theorem slack_pow_five_le : slack ^ 5 ≤ 100001 / 100000 := by norm_num [slack]

/-- Half a unit lies between the bounds, with room for the roundings. -/
theorem zeroUpTo_lt : zeroUpTo * slack ^ 5 < halfUnit := by
  have hunits : 2470 * 100001 * (2 * unitsOfOne) < 100000 * 10 ^ 327 := by decide +kernel
  have hcast : (2470 * 100001 * (2 * unitsOfOne) : ℚ) < 100000 * 10 ^ 327 := by
    exact_mod_cast hunits
  have hten : (0 : ℚ) < 10 ^ 327 := pow_pos (by norm_num) 327
  have hone := cast_unitsOfOne_pos
  calc zeroUpTo * slack ^ 5 ≤ zeroUpTo * (100001 / 100000) :=
        mul_le_mul_of_nonneg_left slack_pow_five_le (div_nonneg (by norm_num) hten.le)
    _ = 2470 * 100001 / (100000 * 10 ^ 327) := by
        rw [zeroUpTo, div_mul_div_comm, mul_comm (10 ^ 327 : ℚ)]
    _ < halfUnit := by
        rw [halfUnit, div_lt_div_iff₀ (mul_pos (by norm_num) hten) (mul_pos two_pos hone), one_mul]
        exact hcast

theorem lt_nonzeroFrom : halfUnit * slack ^ 5 < nonzeroFrom := by
  have hunits : 100001 * 10 ^ 327 < 2471 * (2 * unitsOfOne * 100000) := by decide +kernel
  have hcast : (100001 * 10 ^ 327 : ℚ) < 2471 * (2 * unitsOfOne * 100000) := by
    exact_mod_cast hunits
  have hten : (0 : ℚ) < 10 ^ 327 := pow_pos (by norm_num) 327
  have hone := mul_pos two_pos cast_unitsOfOne_pos
  calc halfUnit * slack ^ 5 ≤ halfUnit * (100001 / 100000) :=
        mul_le_mul_of_nonneg_left slack_pow_five_le halfUnit_pos.le
    _ = 100001 / (2 * unitsOfOne * 100000) := by rw [halfUnit, div_mul_div_comm, one_mul]
    _ < nonzeroFrom := by
        rw [nonzeroFrom, div_lt_div_iff₀ (mul_pos hone (by norm_num)) hten]
        exact hcast

/-- A numeral that means no more than `zeroUpTo` is read as zero. -/
theorem Numeral.isZero_of_le (hlength : numeral.text.length ≤ 2 * 10 ^ 9)
    (h : numeral.number? = some number) (hvalue : |numeral.value| ≤ zeroUpTo) :
    number.isZero = true := by
  by_contra hsome
  have hbound := (numeral.isZero_bounds hlength h).2 (Bool.not_eq_true _ ▸ hsome)
  rw [numeral.abs_value] at hvalue
  have hscaled := mul_le_mul_of_nonneg_right hvalue (pow_pos slack_pos 5).le
  exact absurd (hbound.trans hscaled) (not_le.mpr zeroUpTo_lt)

/-- A numeral that means at least `nonzeroFrom` is not read as zero. -/
theorem Numeral.isZero_of_ge (hlength : numeral.text.length ≤ 2 * 10 ^ 9)
    (h : numeral.number? = some number) (hvalue : nonzeroFrom ≤ |numeral.value|) :
    number.isZero = false := by
  by_contra hzero
  have hbound := (numeral.isZero_bounds hlength h).1 (Bool.not_eq_false _ ▸ hzero)
  rw [numeral.abs_value] at hvalue
  exact absurd (hvalue.trans hbound) (not_le.mpr lt_nonzeroFrom)

end Numerals

end LiveBoard.Json
