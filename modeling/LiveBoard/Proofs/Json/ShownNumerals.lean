import LiveBoard.Proofs.Json.CanonicalNumerals
import LiveBoard.Proofs.Json.Zeros
import LiveBoard.Proofs.Numeric.ShortDecimals

/-!
# Numerals that are shown as they are spelled

A number that was read is shown by a text of its own. It is the spelling of the number for the
integers that stay integers and for no other integer (`Numeral.text_eq_iff_of_isInteger`). Among the
other numerals it is the spelling for none that is not spelled as a double is
(`Numeral.isCanonical_of_text_eq`), and for all of those that are short
(`Numeral.text_eq_of_isCanonical`).
-/

set_option autoImplicit false
set_option relaxedAutoImplicit false

namespace LiveBoard.Json

open Numeric

section Shown

variable {numeral : Numeral} {number : Number} {units : Nat}

/-- Digits that fit are all gathered. -/
theorem Numeral.gathered_of_fits (hfits : numeral.significand ≤ largestNatural) :
    numeral.gathered = numeral.significand ∧ numeral.shift = -(numeral.fraction.length : Int) ∧
      (gatherWhole numeral.whole).2 = 0 := by
  obtain ⟨hwhole, -, hwholeValue⟩ := encodeText_digits numeral.isDigit_whole
  obtain ⟨hfraction, -, hfractionValue⟩ := encodeText_digits numeral.isDigit_fraction
  have hsplit : runValue (runValue 0 (Text.encodeText numeral.whole))
      (Text.encodeText numeral.fraction) = numeral.significand := by
    rw [hwholeValue, hfractionValue, Numeral.significand, Nat.ofDigitChars_append]
  have hall := hsplit.trans_le hfits
  have hgatherWhole := gather_digits hwhole ((le_runValue _ _).trans hall)
  have hgather := gather_digits hfraction hall
  have hnone : (gatherWhole numeral.whole).2 = 0 := by
    rw [gatherWhole, hgatherWhole]
    rfl
  refine ⟨?_, ?_, hnone⟩
  · rw [Numeral.gathered, gatherWhole, hgatherWhole, gatherFraction, hgather]
    exact hsplit
  · rw [Numeral.shift, hnone, gatherWhole, hgatherWhole, gatherFraction, hgather]
    exact zero_sub _

/-! ### Short decimals -/

/-- Assumes: a significand that is not zero, and a small power of ten. It is scaled by its exact
power of ten. -/
theorem Numeral.scaled?_of_short (hsome : numeral.significand ≠ 0)
    (hscale : numeral.scale.natAbs ≤ 22)
    (h : exponentUnits? numeral.significand (-numeral.fraction.length) numeral.exponent =
      some units) : scaled? numeral.significand numeral.scale = some units := by
  have hlimit := largestExponent_eq
  have hpower : -(numeral.fraction.length : Int) + exponentPower numeral.exponent =
      numeral.scale := neg_add_eq_sub _ _
  cases hexponent : numeral.exponent with
  | none =>
    rw [hexponent] at h hpower
    change _ + 0 = _ at hpower
    rw [add_zero] at hpower
    rw [← hpower]
    exact h
  | some exponent =>
    rw [hexponent] at h hpower
    change _ + exponent.power = _ at hpower
    rw [exponentUnits?] at h
    split_ifs at h with hfits hlarge
    · have hinside : saturated numeral.scale = numeral.scale := by
        unfold saturated
        omega
      rwa [hpower, hinside] at h
    · exfalso
      have hsign : exponent.sign = .minus := by
        by_contra hsign
        exact hlarge ⟨hsign, hsome⟩
      rw [Exponent.power, if_pos hsign] at hpower
      omega

/-- Texts with a sign in front are the same where the texts are. -/
theorem Double.text_eq_text_iff (numeral : Numeral) (units : Nat) :
    (Numeric.Double.mk numeral.negative units).text = numeral.text ↔
      magnitudeText units = numeral.unsignedText := by
  unfold Numeric.Double.text Numeral.text
  dsimp only
  split_ifs
  · rw [List.cons.injEq, eq_self, true_and]
  · exact Iff.rfl

/-- A numeral that is no integer is read as a double. -/
theorem Numeral.exists_double (hinteger : ¬ numeral.IsInteger)
    (h : numeral.number? = some number) :
    ∃ units, exponentUnits? numeral.gathered numeral.shift numeral.exponent = some units ∧
      number = .double ⟨numeral.negative, units⟩ := by
  rw [Numeral.number?, if_neg fun hwhole ↦ hinteger ⟨hwhole.1, hwhole.2.1⟩,
    Option.map_eq_some_iff] at h
  obtain ⟨units, hunits, hnumber⟩ := h
  exact ⟨units, hunits, hnumber.symm⟩

/-- Assumes: a numeral that is no integer. It is shown as it is spelled only where it is spelled as
a double is, in twenty-four characters at most. -/
theorem Numeral.isCanonical_of_text_eq (hinteger : ¬ numeral.IsInteger)
    (h : numeral.number? = some number) (htext : number.text = numeral.text) :
    numeral.IsCanonical ∧ numeral.text.length ≤ 24 := by
  have hrange := inRange_of_readScalar ((readScalar_numeral numeral number).mpr h)
  have hlength := (congrArg List.length htext).symm.trans_le (Number.length_text_le hrange)
  refine ⟨?_, hlength⟩
  obtain ⟨units, -, rfl⟩ := numeral.exists_double hinteger h
  obtain ⟨decimal, hdecimal⟩ := exists_decimal_of_magnitudeText units
  rw [Number.text, Double.text_eq_text_iff, hdecimal] at htext
  exact numeral.isCanonical_of_text htext

/-- Assumes: a numeral that is no integer, with fifteen digits at most and a small power of ten. It
is shown as it is spelled where it is spelled as a double is. -/
theorem Numeral.text_eq_of_isCanonical (hinteger : ¬ numeral.IsInteger)
    (hdigits : numeral.significand < 10 ^ 15) (hscale : numeral.scale.natAbs ≤ 22)
    (h : numeral.number? = some number) (hcanonical : numeral.IsCanonical) :
    number.text = numeral.text := by
  obtain ⟨hgathered, hshift, -⟩ := numeral.gathered_of_fits (hdigits.le.trans (by decide))
  obtain ⟨units, hunits, rfl⟩ := numeral.exists_double hinteger h
  rw [Number.text, Double.text_eq_text_iff,
    ← numeral.text_decimal_of_isCanonical hdigits hinteger hcanonical]
  rw [hgathered, hshift] at hunits
  by_cases hzero : numeral.significand = 0
  · rw [hzero, exponentUnits?_zero, Option.some.injEq] at hunits
    rw [← hunits, Decimal.text]
    exact (if_pos hzero).symm
  · exact magnitudeText_of_short hzero hdigits hscale (numeral.scaled?_of_short hzero hscale hunits)

/-! ### Integers -/

/-- The digits of an integer fit an integer of its sign. -/
def Numeral.Fits (numeral : Numeral) : Prop :=
  if numeral.negative then 1 ≤ numeral.significand ∧ numeral.significand ≤ largestNegative
  else numeral.significand ≤ largestNatural

/-- An integer is spelled by the digits of its significand. -/
theorem Numeral.digitsOf_of_isInteger (hinteger : numeral.IsInteger) :
    numeral.unsignedText = numeral.whole ∧ digitsOf numeral.significand = numeral.whole := by
  obtain ⟨hfraction, hexponent⟩ := hinteger
  constructor
  · rw [Numeral.unsignedText, hfraction, hexponent]
    exact List.append_nil _
  · by_cases hwhole : numeral.whole = ['0']
    · rw [Numeral.significand, hwhole, hfraction]
      decide
    · rw [numeral.digitsOf_significand hwhole, hfraction, List.append_nil]

/-- Digits of which none is left over make a number that fits. -/
theorem Numeral.significand_le_of_isInteger (hinteger : numeral.IsInteger)
    (hnone : (gatherWhole numeral.whole).2 = 0) : numeral.significand ≤ largestNatural := by
  obtain ⟨hwhole, -, hvalue⟩ := encodeText_digits numeral.isDigit_whole
  obtain ⟨kept, unfit, hsplit, hgather, -⟩ := exists_gather 0 hwhole
  have hunfit : unfit = [] := by
    rw [gatherWhole, hgather] at hnone
    exact List.length_eq_zero_iff.mp hnone
  have hlimit := gather_le (Nat.zero_le largestNatural) (Text.encodeText numeral.whole)
  rw [hunfit, List.append_nil] at hsplit
  rw [hgather, ← hsplit, hvalue] at hlimit
  rwa [Numeral.significand, hinteger.1, List.append_nil]

/-- An integer that fits stays an integer, and every other one becomes a double. -/
theorem Numeral.number?_of_isInteger (hinteger : numeral.IsInteger)
    (h : numeral.number? = some number) :
    (numeral.Fits ∧ number.text = numeral.text) ∨
      ¬ numeral.Fits ∧ ∃ units, number = .double ⟨numeral.negative, units⟩ := by
  obtain ⟨hunsigned, hdigits⟩ := numeral.digitsOf_of_isInteger hinteger
  unfold Numeral.number? at h
  by_cases hnone : (gatherWhole numeral.whole).2 = 0
  · have hfits := numeral.significand_le_of_isInteger hinteger hnone
    rw [if_pos ⟨hinteger.1, hinteger.2, hnone⟩, (numeral.gathered_of_fits hfits).1] at h
    obtain rfl := Option.some.inj h
    unfold Numeral.Fits Numeral.text wholeNumber
    rw [hunsigned, ← hdigits]
    cases numeral.negative with
    | false => exact Or.inl ⟨hfits, rfl⟩
    | true =>
      by_cases hdouble : numeral.significand = 0 ∨ largestNegative < numeral.significand
      · refine Or.inr ⟨?_, unitsOfNat numeral.significand, ?_⟩
        · rw [if_pos rfl]
          omega
        · rw [if_neg (by decide), if_pos hdouble]
      · refine Or.inl ⟨?_, ?_⟩
        · rw [if_pos rfl]
          omega
        · rw [if_neg (by decide), if_neg hdouble, if_pos rfl]
          rfl
  · rw [if_neg fun hwhole ↦ hnone hwhole.2.2] at h
    obtain ⟨units, -, rfl⟩ := Option.map_eq_some_iff.mp h
    refine Or.inr ⟨?_, units, rfl⟩
    have hlarge : ¬ numeral.significand ≤ largestNatural := fun hfits ↦
      hnone (numeral.gathered_of_fits hfits).2.2
    have hlimits : largestNegative ≤ largestNatural := by decide
    unfold Numeral.Fits
    split_ifs
    · omega
    · exact hlarge

theorem Numeral.magnitude_of_isInteger (hinteger : numeral.IsInteger) :
    numeral.magnitude = numeral.significand := by
  have hscale : numeral.scale = 0 := by
    rw [Numeral.scale, hinteger.1, hinteger.2]
    rfl
  rw [Numeral.magnitude, hscale, zpow_zero, mul_one]

/-- Negative zero is the integer with a sign and no digit but zero. -/
theorem Numeral.text_eq_negativeZero_iff (hinteger : numeral.IsInteger) :
    numeral.text = ['-', '0'] ↔ numeral.negative = true ∧ numeral.significand = 0 := by
  obtain ⟨hunsigned, hdigits⟩ := numeral.digitsOf_of_isInteger hinteger
  have hzero : numeral.whole = ['0'] ↔ numeral.significand = 0 := by
    rw [← hdigits]
    constructor
    · intro hwritten
      by_contra hsome
      exact head?_digitsOf hsome (congrArg List.head? hwritten)
    · intro hzero
      rw [hzero]
      decide
  unfold Numeral.text
  rw [hunsigned]
  cases numeral.negative with
  | false =>
    rw [if_neg Bool.false_ne_true]
    refine iff_of_false (fun htext ↦ ?_) (fun hsign ↦ Bool.false_ne_true hsign.1)
    have hdigit := numeral.isDigit_whole '-' (htext ▸ List.mem_cons_self)
    cases hdigit
  | true => rw [if_pos rfl, List.cons.injEq, eq_self, true_and, eq_self, true_and, hzero]

/-- An integer fits where it is not negative zero and in the range of integers. -/
theorem Numeral.fits_iff (hinteger : numeral.IsInteger) :
    numeral.Fits ↔
      numeral.text ≠ ['-', '0'] ∧ -2 ^ 63 ≤ numeral.value ∧ numeral.value < 2 ^ 64 := by
  have hnonneg : (0 : ℚ) ≤ numeral.significand := Nat.cast_nonneg _
  have hnatural : largestNatural = 2 ^ 64 - 1 := rfl
  have hnegative : largestNegative = 2 ^ 63 := rfl
  rw [ne_eq, numeral.text_eq_negativeZero_iff hinteger]
  unfold Numeral.Fits Numeral.value
  rw [numeral.magnitude_of_isInteger hinteger, hnatural, hnegative]
  cases numeral.negative with
  | false =>
    have hrange : (numeral.significand : ℚ) < 2 ^ 64 ↔ numeral.significand < 2 ^ 64 := by
      exact_mod_cast Iff.rfl
    rw [if_neg (by decide), if_neg (by decide), hrange]
    constructor
    · intro hfits
      exact ⟨fun hsign ↦ Bool.false_ne_true hsign.1, by linarith, by omega⟩
    · rintro ⟨-, -, hfits⟩
      omega
  | true =>
    have hrange : (-2 ^ 63 : ℚ) ≤ -numeral.significand ↔ numeral.significand ≤ 2 ^ 63 := by
      rw [neg_le_neg_iff]
      exact_mod_cast Iff.rfl
    rw [if_pos rfl, if_pos rfl, hrange, eq_self, true_and]
    constructor
    · rintro ⟨hsome, hfits⟩
      exact ⟨by omega, hfits, by linarith⟩
    · rintro ⟨hsome, hfits, -⟩
      omega

/-- An integer is shown as it is spelled exactly where it is not negative zero and in the range of
integers. -/
theorem Numeral.text_eq_iff_of_isInteger (hinteger : numeral.IsInteger)
    (h : numeral.number? = some number) : number.text = numeral.text ↔
      numeral.text ≠ ['-', '0'] ∧ -2 ^ 63 ≤ numeral.value ∧ numeral.value < 2 ^ 64 := by
  rw [← numeral.fits_iff hinteger]
  obtain ⟨hfits, htext⟩ | ⟨hlarge, units, rfl⟩ := numeral.number?_of_isInteger hinteger h
  · exact iff_of_true htext hfits
  · refine iff_of_false ?_ hlarge
    rw [Number.text, Double.text_eq_text_iff, (numeral.digitsOf_of_isInteger hinteger).1]
    exact magnitudeText_ne_digits numeral.isDigit_whole numeral.whole_ne_nil units

end Shown

end LiveBoard.Json
