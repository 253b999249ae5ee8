import LiveBoard.Proofs.Numeric.Magnitudes
import Mathlib.Data.Nat.Cast.Order.Field
import Mathlib.Tactic.Linarith
import Mathlib.Tactic.NormNum
import Mathlib.Tactic.Positivity

/-!
# Scaled numbers that become zero

A number that is scaled down is zero where its exact value is less than half a unit, and only
there, up to the factor that the roundings on the way may add. `Near` counts these roundings: each
one keeps a magnitude that is large enough within a factor of `slack` (`near_roundUnits`), and the
count adds up along products, quotients and chains. The last quotient alone can be small; it is zero
exactly where twice the dividend is no more than the divisor (`roundUnits_eq_zero_iff`). Together
they give `scaled?_eq_zero` and `scaled?_ne_zero`.
-/

set_option autoImplicit false
set_option relaxedAutoImplicit false

namespace LiveBoard.Numeric

/-! ### Magnitudes that are nearly equal -/

/-- The factor by which one rounding may change a magnitude. -/
def slack : ℚ := 1 + 1 / 2 ^ 20

/-- Two magnitudes differ by no more than a number of roundings. -/
structure Near (roundings : Nat) (a b : ℚ) : Prop where
  /-- The first one is not too large. -/
  le : a ≤ b * slack ^ roundings
  /-- The second one is not too large. -/
  ge : b ≤ a * slack ^ roundings

section Nearness

variable {j k : Nat} {a b c d : ℚ}

theorem one_le_slack : 1 ≤ slack := by norm_num [slack]

theorem slack_pos : 0 < slack := zero_lt_one.trans_le one_le_slack

theorem Near.refl (ha : 0 ≤ a) : Near k a a :=
  ⟨le_mul_of_one_le_right ha (one_le_pow₀ one_le_slack),
    le_mul_of_one_le_right ha (one_le_pow₀ one_le_slack)⟩

theorem Near.symm (h : Near k a b) : Near k b a := ⟨h.ge, h.le⟩

theorem Near.trans (h : Near j a b) (h' : Near k b c) : Near (j + k) a c := by
  have hj : 0 ≤ slack ^ j := pow_nonneg slack_pos.le j
  have hk : 0 ≤ slack ^ k := pow_nonneg slack_pos.le k
  constructor
  · calc a ≤ b * slack ^ j := h.le
      _ ≤ c * slack ^ k * slack ^ j := mul_le_mul_of_nonneg_right h'.le hj
      _ = c * slack ^ (j + k) := by ring
  · calc c ≤ b * slack ^ k := h'.ge
      _ ≤ a * slack ^ j * slack ^ k := mul_le_mul_of_nonneg_right h.ge hk
      _ = a * slack ^ (j + k) := by ring

theorem Near.mul_right (h : Near k a b) (hc : 0 ≤ c) : Near k (a * c) (b * c) := by
  constructor
  · calc a * c ≤ b * slack ^ k * c := mul_le_mul_of_nonneg_right h.le hc
      _ = b * c * slack ^ k := by ring
  · calc b * c ≤ a * slack ^ k * c := mul_le_mul_of_nonneg_right h.ge hc
      _ = a * c * slack ^ k := by ring

theorem Near.inv (h : Near k a b) (ha : 0 < a) (hb : 0 < b) : Near k a⁻¹ b⁻¹ := by
  have hk : 0 < slack ^ k := pow_pos slack_pos k
  constructor
  · rw [← div_eq_inv_mul, le_div_iff₀ hb, inv_mul_le_iff₀ ha]
    exact h.ge
  · rw [← div_eq_inv_mul, le_div_iff₀ ha, inv_mul_le_iff₀ hb]
    exact h.le

theorem Near.div (h : Near j a b) (h' : Near k c d) (ha : 0 ≤ b) (hc : 0 < c) (hd : 0 < d) :
    Near (j + k) (a / c) (b / d) := by
  have hfirst : Near j (a / c) (b / c) := h.mul_right (inv_nonneg.mpr hc.le)
  have hsecond : Near k (b / c) (b / d) := by
    have hinv := (h'.inv hc hd).mul_right ha
    rwa [mul_comm, mul_comm d⁻¹] at hinv
  exact hfirst.trans hsecond

/-- Assumes: two magnitudes that stand for numbers, counted in units of which `one` make one. Their
quotient stands for the quotient of the numbers. -/
theorem Near.quotient {one : ℚ} (h : Near j a (b * one)) (h' : Near k c (d * one)) (hb : 0 ≤ b)
    (hc : 0 < c) (hd : 0 < d) (hone : 0 < one) : Near (j + k) (a * one / c) (b / d * one) := by
  have hboth := (h.mul_right hone.le).div h' (mul_nonneg (mul_nonneg hb hone.le) hone.le) hc
    (mul_pos hd hone)
  rwa [mul_div_mul_right _ _ hone.ne', mul_div_right_comm b] at hboth

theorem Near.pos (h : Near k a b) (hb : 0 < b) : 0 < a := by
  by_contra hzero
  have hproduct := mul_nonpos_of_nonpos_of_nonneg (not_lt.mp hzero) (pow_pos slack_pos k).le
  exact absurd (h.ge.trans hproduct) (not_le.mpr hb)

end Nearness

/-! ### Roundings -/

section Rounding

variable {numerator denominator : Nat}

/-- What rounds to zero is half a unit at most. -/
@[grind =]
theorem roundUnits_eq_zero_iff (hpositive : 0 < denominator) :
    roundUnits numerator denominator = 0 ↔ 2 * numerator ≤ denominator := by
  by_cases hwhole : numerator / denominator = 0
  · have hsmall : numerator < denominator := Nat.lt_of_div_eq_zero hpositive hwhole
    have hspacing : spacing 0 = 1 := by decide
    have hnearest : nearestEven numerator denominator = 0 ↔ 2 * numerator ≤ denominator := by
      unfold nearestEven
      simp only [hwhole, Nat.mod_eq_of_lt hsmall]
      split_ifs with hless hmore <;> simp <;> omega
    rw [roundUnits, hwhole, hspacing, Nat.mul_one, Nat.mul_one]
    exact hnearest
  · have hlarge : denominator ≤ numerator := (Nat.div_ne_zero_iff.mp hwhole).2
    have hspacing := spacing_le hwhole
    have hgap := spacing_pos (numerator / denominator)
    have hnearest := le_nearestEven numerator (denominator * spacing (numerator / denominator))
    rw [← Nat.div_div_eq_div_mul] at hnearest
    have hone : 1 ≤ numerator / denominator / spacing (numerator / denominator) :=
      (Nat.le_div_iff_mul_le hgap).mpr (by omega)
    have hproduct : 0 < roundUnits numerator denominator :=
      Nat.mul_pos (by omega) hgap
    constructor
    · intro hzero
      omega
    · intro hhalf
      omega

@[simp]
theorem roundUnits_zero (hpositive : 0 < denominator) : roundUnits 0 denominator = 0 :=
  (roundUnits_eq_zero_iff hpositive).mpr (Nat.zero_le _)

/-- The spacing is small where a magnitude is large. -/
theorem two_pow_mul_spacing_le {units : Nat} (h : 2 ^ 22 ≤ units) :
    2 ^ 22 * spacing units ≤ units := by
  have hlog : 22 ≤ units.log2 := (Nat.le_log2 (by omega)).mpr h
  calc 2 ^ 22 * spacing units = 2 ^ (22 + (units.log2 - 52)) := (Nat.pow_add 2 22 _).symm
    _ ≤ 2 ^ units.log2 := Nat.pow_le_pow_right (by decide) (by omega)
    _ ≤ units := Nat.log2_self_le (by omega)

/-- Rounding a large quotient changes it by no more than one rounding. -/
theorem near_roundUnits (hpositive : 0 < denominator)
    (hlarge : 2 ^ 22 * denominator ≤ numerator) :
    Near 1 (roundUnits numerator denominator) (numerator / denominator) := by
  have hwhole : 2 ^ 22 ≤ numerator / denominator := (Nat.le_div_iff_mul_le hpositive).mpr hlarge
  have hspacing := two_pow_mul_spacing_le hwhole
  have hupper := roundUnits_le numerator denominator
  have hlower := le_roundUnits_add numerator denominator
  have hfloor : ((numerator / denominator : Nat) : ℚ) ≤ numerator / denominator := Nat.cast_div_le
  have hceil : (numerator / denominator : ℚ) < (numerator / denominator : Nat) + 1 := by
    rw [div_lt_iff₀ (by exact_mod_cast hpositive)]
    exact_mod_cast Nat.lt_mul_of_div_lt (Nat.lt_succ_self _) hpositive
  generalize (numerator / denominator : ℚ) = exact at hfloor hceil ⊢
  generalize numerator / denominator = whole at hwhole hspacing hupper hlower hfloor hceil
  generalize roundUnits numerator denominator = rounded at hupper hlower ⊢
  have hwhole' : (2 ^ 22 : ℚ) ≤ whole := by exact_mod_cast hwhole
  have hspacing' : (2 ^ 22 : ℚ) * spacing whole ≤ whole := by exact_mod_cast hspacing
  have hupper' : (rounded : ℚ) ≤ whole + spacing whole := by exact_mod_cast hupper
  have hlower' : (whole : ℚ) ≤ rounded + spacing whole := by exact_mod_cast hlower
  constructor
  · rw [pow_one, slack]
    linarith
  · rw [pow_one, slack]
    linarith

/-- The magnitude of a natural number is the number, up to a rounding. -/
theorem near_unitsOfNat {n : Nat} (hn : n ≠ 0) : Near 1 (unitsOfNat n) (n * unitsOfOne) := by
  have hone : 2 ^ 22 * 1 ≤ unitsOfOne := (show 2 ^ 22 * 1 ≤ 2 ^ 25 by decide).trans le_unitsOfOne
  have hlarge : 2 ^ 22 * 1 ≤ n * unitsOfOne :=
    hone.trans (Nat.le_mul_of_pos_left _ (Nat.pos_of_ne_zero hn))
  have hnear := near_roundUnits Nat.one_pos hlarge
  rw [Nat.cast_one, div_one, Nat.cast_mul] at hnear
  exact hnear

theorem near_unitsOfPower (exponent : Nat) :
    Near 1 (unitsOfPower exponent) (10 ^ exponent * unitsOfOne) := by
  have hnear := near_unitsOfNat (n := Nat.pow 10 exponent) (Nat.pow_pos (by decide)).ne'
  rw [Nat.pow_eq, Nat.cast_pow, Nat.cast_ofNat] at hnear
  exact hnear

@[simp]
theorem unitsOfNat_eq_zero_iff {n : Nat} : unitsOfNat n = 0 ↔ n = 0 := by
  have hone := le_unitsOfOne
  rw [unitsOfNat, roundUnits_eq_zero_iff Nat.one_pos]
  constructor
  · intro hsmall
    by_contra hn
    have hproduct : unitsOfOne ≤ n * unitsOfOne :=
      Nat.le_mul_of_pos_left _ (Nat.pos_of_ne_zero hn)
    omega
  · rintro rfl
    rw [Nat.zero_mul]
    exact Nat.zero_le 1

theorem unitsOfPower_pos (exponent : Nat) : 0 < unitsOfPower exponent :=
  Nat.pos_of_ne_zero fun hzero ↦ (Nat.pow_pos (show 0 < 10 by decide)).ne'
    (unitsOfNat_eq_zero_iff.mp hzero)

@[simp]
theorem scaleDown_zero (steps last : Nat) : scaleDown steps last 0 = 0 := by
  cases steps with
  | zero =>
    rw [scaleDown, quotient, Nat.zero_mul]
    exact roundUnits_zero (unitsOfPower_pos last)
  | succ steps => exact if_pos rfl

end Rounding

/-! ### Quotients by powers of ten -/

section Quotients

variable {n : Nat}

theorem unitsOfOne_le_two_mul (hn : n ≠ 0) : unitsOfOne ≤ 2 * unitsOfNat n := by
  have hproduct : unitsOfOne ≤ n * unitsOfOne := Nat.le_mul_of_pos_left _ (Nat.pos_of_ne_zero hn)
  have hone := le_unitsOfOne
  have hround := le_roundUnits_add (n * unitsOfOne) 1
  have hspacing := two_mul_spacing_le (show 2 ≤ n * unitsOfOne by omega)
  rw [Nat.div_one] at hround
  unfold unitsOfNat
  omega

theorem unitsOfPower_le_mul {power limit : Nat} (h : power ≤ limit) :
    unitsOfPower power ≤ 4 * (Nat.pow 10 limit * unitsOfOne) := by
  have hround := unitsOfNat_le (Nat.pow 10 power)
  have hone := unitsOfOne_pos
  have hten : Nat.pow 10 power ≤ Nat.pow 10 limit := Nat.pow_le_pow_right (by decide) h
  have hproduct := Nat.mul_le_mul_right unitsOfOne hten
  have hlarge : unitsOfOne ≤ Nat.pow 10 limit * unitsOfOne :=
    Nat.le_mul_of_pos_left _ (Nat.pow_pos (by decide))
  unfold unitsOfPower
  omega

/-- Assumes: a power of ten that one quotient applies. The quotient is large. -/
theorem unitsOfPower_le_of_le {power : Nat} (hn : n ≠ 0) (hpower : power ≤ largestPower) :
    2 ^ 22 * unitsOfPower power ≤ unitsOfNat n * unitsOfOne := by
  have hunits := unitsOfOne_le_two_mul hn
  have hpowers := unitsOfPower_le_mul hpower
  have hsquare : 2 ^ 25 * Nat.pow 10 largestPower * unitsOfOne ≤
      2 * (unitsOfNat n * unitsOfOne) :=
    calc 2 ^ 25 * Nat.pow 10 largestPower * unitsOfOne ≤ unitsOfOne * unitsOfOne :=
          Nat.mul_le_mul_right unitsOfOne mul_largestPower_le
      _ ≤ 2 * unitsOfNat n * unitsOfOne := Nat.mul_le_mul_right unitsOfOne hunits
      _ = 2 * (unitsOfNat n * unitsOfOne) := Nat.mul_assoc _ _ _
  rw [Nat.mul_assoc] at hsquare
  generalize Nat.pow 10 largestPower * unitsOfOne = limit at hpowers hsquare
  omega

theorem cast_unitsOfOne_pos : (0 : ℚ) < unitsOfOne := Nat.cast_pos.mpr unitsOfOne_pos

theorem cast_unitsOfPower_pos (power : Nat) : (0 : ℚ) < unitsOfPower power :=
  Nat.cast_pos.mpr (unitsOfPower_pos power)

/-- One quotient of a natural number changes it by three roundings at most. -/
theorem near_quotient {power : Nat} (hn : n ≠ 0) (hpower : power ≤ largestPower) :
    Near 3 (quotient (unitsOfNat n) (unitsOfPower power)) (n / 10 ^ power * unitsOfOne) := by
  have hround := near_roundUnits (unitsOfPower_pos power) (unitsOfPower_le_of_le hn hpower)
  have hexact := (near_unitsOfNat hn).quotient (near_unitsOfPower power) (Nat.cast_nonneg n)
    (cast_unitsOfPower_pos power) (pow_pos (by norm_num) power) cast_unitsOfOne_pos
  rw [Nat.cast_mul] at hround
  exact hround.trans hexact

end Quotients

/-! ### Scaled numbers -/

/-- The value of half a unit. -/
def halfUnit : ℚ := 1 / (2 * unitsOfOne)

section Scaling

variable {significand : Nat} {exponent : Int}

/-- The magnitude after the largest power of ten has been taken away. -/
def firstQuotient (significand : Nat) : Nat :=
  quotient (unitsOfNat significand) (unitsOfPower largestPower)

/-- The quotient of a first quotient is its exact value, up to four roundings. -/
theorem near_secondQuotient (hsignificand : significand ≠ 0) (power : Nat) :
    Near 4 (firstQuotient significand * unitsOfOne / unitsOfPower power)
      (significand / 10 ^ (largestPower + power) * unitsOfOne) := by
  have hexact := (near_quotient hsignificand (le_refl largestPower)).quotient
    (near_unitsOfPower power) (by positivity) (cast_unitsOfPower_pos power)
    (pow_pos (by norm_num) power) cast_unitsOfOne_pos
  rwa [div_div, ← pow_add] at hexact

/-- A second quotient is zero only where the exact value is half a unit at most, up to four
roundings. -/
theorem le_of_secondQuotient_eq_zero (hsignificand : significand ≠ 0) {power : Nat}
    (h : quotient (firstQuotient significand) (unitsOfPower power) = 0) :
    significand / 10 ^ (largestPower + power) ≤ halfUnit * slack ^ 4 := by
  have hnear := near_secondQuotient hsignificand power
  rw [quotient, roundUnits_eq_zero_iff (unitsOfPower_pos power)] at h
  have hhalf : (firstQuotient significand * unitsOfOne / unitsOfPower power : ℚ) ≤ 1 / 2 := by
    have hcast : (2 * (firstQuotient significand * unitsOfOne) : ℚ) ≤ unitsOfPower power := by
      exact_mod_cast h
    rw [div_le_iff₀ (cast_unitsOfPower_pos power)]
    linarith
  have hvalue := hnear.ge.trans (mul_le_mul_of_nonneg_right hhalf (pow_pos slack_pos 4).le)
  rw [halfUnit, one_div_mul_eq_div, le_div_iff₀ (mul_pos two_pos cast_unitsOfOne_pos)]
  linarith

/-- A second quotient is not zero only where the exact value is half a unit at least, up to four
roundings. -/
theorem le_of_secondQuotient_ne_zero (hsignificand : significand ≠ 0) {power : Nat}
    (h : quotient (firstQuotient significand) (unitsOfPower power) ≠ 0) :
    halfUnit ≤ significand / 10 ^ (largestPower + power) * slack ^ 4 := by
  have hnear := near_secondQuotient hsignificand power
  rw [quotient, ne_eq, roundUnits_eq_zero_iff (unitsOfPower_pos power), not_le] at h
  have hhalf : (1 / 2 : ℚ) ≤ firstQuotient significand * unitsOfOne / unitsOfPower power := by
    have hcast : (unitsOfPower power : ℚ) ≤ 2 * (firstQuotient significand * unitsOfOne) := by
      exact_mod_cast h.le
    rw [le_div_iff₀ (cast_unitsOfPower_pos power)]
    linarith
  have hvalue := hhalf.trans hnear.le
  rw [halfUnit, div_le_iff₀ (mul_pos two_pos cast_unitsOfOne_pos)]
  linarith

/-- A number that is scaled down by no more than the largest power of ten does not become zero. -/
theorem scaled?_ne_zero_of_large (hsignificand : significand ≠ 0) (hexponent : -308 ≤ exponent) :
    scaled? significand exponent ≠ some 0 := by
  have hunits := unitsOfOne_le_two_mul hsignificand
  have hone : 2 < unitsOfOne := (show 2 < 2 ^ 25 by decide).trans_le le_unitsOfOne
  unfold scaled?
  dsimp only
  split_ifs with hdown hpower hfinite hzero
  · have hsteps : (exponent.natAbs - 1) / largestPower = 0 :=
      Nat.div_eq_of_lt (by rw [largestPower]; omega)
    have hpower : exponent.natAbs ≤ largestPower := by
      rw [largestPower]
      omega
    have hlarge := unitsOfPower_le_of_le hsignificand hpower
    have hdivisor := unitsOfPower_pos exponent.natAbs
    rw [hsteps, Nat.mul_zero, Nat.sub_zero, scaleDown, quotient, ne_eq, Option.some.injEq,
      roundUnits_eq_zero_iff hdivisor]
    omega
  · have htimes := unitsOfOne_le_two_mul (n := Nat.pow 10 exponent.natAbs)
      (Nat.pow_pos (by decide)).ne'
    have hproduct : unitsOfOne * unitsOfOne ≤
        2 * unitsOfNat significand * (2 * unitsOfPower exponent.natAbs) :=
      Nat.mul_le_mul hunits htimes
    have hsquare : 2 * unitsOfOne < unitsOfOne * unitsOfOne :=
      Nat.mul_lt_mul_of_pos_right hone (by omega)
    rw [product, ne_eq, Option.some.injEq, roundUnits_eq_zero_iff (by omega)]
    have hassoc : 2 * unitsOfNat significand * (2 * unitsOfPower exponent.natAbs) =
        4 * (unitsOfNat significand * unitsOfPower exponent.natAbs) := by ring
    omega
  · exact Option.some_ne_none 0 |>.symm
  · exact absurd (unitsOfNat_eq_zero_iff.mp hzero) hsignificand
  · exact Option.some_ne_none 0 |>.symm

/-- A number that is scaled down by a little more than the largest power of ten is a second
quotient. -/
theorem scaled?_of_medium (hsignificand : significand ≠ 0) {power : Nat} (hsome : power ≠ 0)
    (hpower : power ≤ largestPower) :
    scaled? significand (-(largestPower + power : Nat)) =
      some (quotient (firstQuotient significand) (unitsOfPower power)) := by
  have hunits : unitsOfNat significand ≠ 0 := mt unitsOfNat_eq_zero_iff.mp hsignificand
  have hsteps : (largestPower + power - 1) / largestPower = 1 := by
    rw [largestPower] at hpower ⊢
    omega
  unfold scaled?
  dsimp only
  rw [if_pos (by rw [largestPower]; omega), Int.natAbs_neg, Int.natAbs_natCast, hsteps,
    Nat.mul_one, Nat.add_sub_cancel_left, scaleDown, if_neg hunits]
  rfl

/-- Zero stays zero at every scale. -/
@[simp]
theorem scaled?_zero (exponent : Int) : scaled? 0 exponent = some 0 := by
  have hzero : unitsOfNat 0 = 0 := unitsOfNat_eq_zero_iff.mpr rfl
  have hproduct : ∀ units, product 0 units = 0 := by
    intro units
    rw [product, Nat.zero_mul]
    exact roundUnits_zero unitsOfOne_pos
  unfold scaled?
  dsimp only
  rw [hzero, scaleDown_zero, hproduct, if_pos unitsLimit_pos, if_pos rfl, ite_self, ite_self]

/-- A number that is scaled up by more than the largest power of ten is out of range. -/
theorem scaled?_of_beyond (hexponent : 308 < exponent) :
    scaled? significand exponent = if significand = 0 then some 0 else none := by
  unfold scaled?
  dsimp only
  rw [if_neg (by omega), if_neg (by rw [largestPower]; omega)]
  simp only [unitsOfNat_eq_zero_iff]

theorem slack_pow_four_le : slack ^ 4 ≤ 2 := by norm_num [slack]

theorem halfUnit_pos : 0 < halfUnit := one_div_pos.mpr (mul_pos two_pos cast_unitsOfOne_pos)

/-- The largest power of ten does not take one below half a unit. -/
theorem halfUnit_le : halfUnit ≤ 10 ^ (-(largestPower : Int)) := by
  have hlimit : 10 ^ largestPower ≤ 2 * unitsOfOne := by
    have hunits := mul_largestPower_le
    rw [Nat.pow_eq] at hunits
    omega
  have hcast : (10 ^ largestPower : ℚ) ≤ 2 * unitsOfOne := by exact_mod_cast hlimit
  rw [halfUnit, zpow_neg, zpow_natCast, one_div]
  exact inv_anti₀ (pow_pos (by norm_num) _) hcast

theorem halfUnit_le_one : halfUnit ≤ 1 :=
  halfUnit_le.trans (zpow_le_one_of_nonpos₀ (by norm_num) (by decide))

/-- Two powers of ten take every number of 64 bits far below half a unit. -/
theorem lt_halfUnit (hsignificand : significand ≤ 2 ^ 64) :
    (significand / 10 ^ (largestPower + largestPower) * slack ^ 4 : ℚ) < halfUnit := by
  have hlimit : 2 ^ 64 * 2 * (2 * unitsOfOne) < 10 ^ (largestPower + largestPower) := by
    decide +kernel
  have hcast : (2 ^ 64 * 2 * (2 * unitsOfOne) : ℚ) < 10 ^ (largestPower + largestPower) := by
    exact_mod_cast hlimit
  have hnumerator : (significand * slack ^ 4 : ℚ) ≤ 2 ^ 64 * 2 :=
    mul_le_mul (by exact_mod_cast hsignificand) slack_pow_four_le (pow_pos slack_pos 4).le
      (by norm_num)
  have hone := cast_unitsOfOne_pos
  have hten : (0 : ℚ) < 10 ^ (largestPower + largestPower) := pow_pos (by norm_num) _
  rw [halfUnit, lt_div_iff₀ (mul_pos two_pos hone), div_mul_eq_mul_div, div_mul_eq_mul_div,
    div_lt_one hten]
  exact (mul_le_mul_of_nonneg_right hnumerator (mul_pos two_pos hone).le).trans_lt hcast

/-- A number of 64 bits that is scaled down by more than twice the largest power of ten becomes
zero. -/
theorem scaled?_of_small (hsignificand : significand ≤ 2 ^ 64) (hexponent : exponent < -616) :
    scaled? significand exponent = some 0 := by
  by_cases hzero : significand = 0
  · rw [hzero]
    exact scaled?_zero exponent
  · obtain ⟨steps, hsteps⟩ : ∃ steps, (exponent.natAbs - 1) / largestPower = steps + 2 := by
      refine Nat.exists_eq_add_of_le' ((Nat.le_div_iff_mul_le (by decide)).mpr ?_)
      rw [largestPower]
      omega
    have hunits : unitsOfNat significand ≠ 0 := mt unitsOfNat_eq_zero_iff.mp hzero
    have hsecond : quotient (firstQuotient significand) (unitsOfPower largestPower) = 0 := by
      by_contra hsome
      exact absurd (le_of_secondQuotient_ne_zero hzero hsome)
        (not_le.mpr (lt_halfUnit hsignificand))
    unfold scaled?
    dsimp only
    rw [if_pos (by omega), hsteps, scaleDown, if_neg hunits, scaleDown]
    change some (if firstQuotient significand = 0 then 0 else scaleDown steps _
      (quotient (firstQuotient significand) (unitsOfPower largestPower))) = some 0
    rw [hsecond, scaleDown_zero, ite_self]

theorem scaled_zpow_neg (significand power : Nat) :
    (significand * 10 ^ (-(power : Int)) : ℚ) = significand / 10 ^ power := by
  rw [zpow_neg, zpow_natCast, div_eq_mul_inv]

/-- Scaling down further makes a number smaller. -/
theorem scaled_le {power : Nat} (hexponent : exponent ≤ -(power : Int)) :
    (significand * 10 ^ exponent : ℚ) ≤ significand / 10 ^ power := by
  rw [← scaled_zpow_neg]
  exact mul_le_mul_of_nonneg_left (zpow_le_zpow_right₀ (by norm_num) hexponent)
    (Nat.cast_nonneg significand)

/-- The exponents of a second quotient. -/
theorem exists_secondPower (hlow : -616 ≤ exponent) (hhigh : exponent < -308) :
    ∃ power : Nat, power ≠ 0 ∧ power ≤ largestPower ∧
      exponent = -(largestPower + power : Nat) := by
  refine ⟨(-308 - exponent).toNat, by omega, by rw [largestPower]; omega, ?_⟩
  rw [largestPower]
  omega

/-- A number becomes zero only where its exact value is half a unit at most, up to four
roundings. -/
theorem le_of_scaled?_eq_zero (hsignificand : significand ≤ 2 ^ 64)
    (h : scaled? significand exponent = some 0) :
    significand * 10 ^ exponent ≤ halfUnit * slack ^ 4 := by
  by_cases hzero : significand = 0
  · rw [hzero, Nat.cast_zero, zero_mul]
    exact (mul_pos halfUnit_pos (pow_pos slack_pos 4)).le
  · have hhigh : exponent < -308 := by
      by_contra hlarge
      exact scaled?_ne_zero_of_large hzero (not_lt.mp hlarge) h
    by_cases hlow : -616 ≤ exponent
    · obtain ⟨power, hsome, hpower, rfl⟩ := exists_secondPower hlow hhigh
      rw [scaled?_of_medium hzero hsome hpower, Option.some.injEq] at h
      rw [scaled_zpow_neg]
      exact le_of_secondQuotient_eq_zero hzero h
    · have hslack : 1 ≤ slack ^ 4 := one_le_pow₀ one_le_slack
      have hsmall : exponent ≤ -((largestPower + largestPower : Nat) : Int) := by
        rw [largestPower]
        omega
      have hpower : (0 : ℚ) < 10 ^ (largestPower + largestPower) := pow_pos (by norm_num) _
      calc (significand * 10 ^ exponent : ℚ)
          ≤ significand / 10 ^ (largestPower + largestPower) := scaled_le hsmall
        _ ≤ significand / 10 ^ (largestPower + largestPower) * slack ^ 4 :=
          le_mul_of_one_le_right (div_nonneg (Nat.cast_nonneg _) hpower.le) hslack
        _ ≤ halfUnit := (lt_halfUnit hsignificand).le
        _ ≤ halfUnit * slack ^ 4 := le_mul_of_one_le_right halfUnit_pos.le hslack

/-- A number does not become zero only where its exact value is half a unit at least, up to four
roundings. -/
theorem le_of_scaled?_ne_zero (hsignificand : significand ≤ 2 ^ 64) {units : Nat}
    (h : scaled? significand exponent = some units) (hunits : units ≠ 0) :
    halfUnit ≤ significand * 10 ^ exponent * slack ^ 4 := by
  have hzero : significand ≠ 0 := by
    rintro rfl
    rw [scaled?_zero, Option.some.injEq] at h
    exact hunits h.symm
  have hlow : -616 ≤ exponent := by
    by_contra hsmall
    rw [scaled?_of_small hsignificand (not_le.mp hsmall), Option.some.injEq] at h
    exact hunits h.symm
  by_cases hhigh : exponent < -308
  · obtain ⟨power, hsome, hpower, rfl⟩ := exists_secondPower hlow hhigh
    rw [scaled?_of_medium hzero hsome hpower, Option.some.injEq] at h
    rw [scaled_zpow_neg]
    exact le_of_secondQuotient_ne_zero hzero (h ▸ hunits)
  · have hslack : 1 ≤ slack ^ 4 := one_le_pow₀ one_le_slack
    have hone : (1 : ℚ) ≤ significand := by exact_mod_cast Nat.one_le_iff_ne_zero.mpr hzero
    have hpower : (0 : ℚ) < 10 ^ exponent := zpow_pos (by norm_num) exponent
    calc halfUnit ≤ 10 ^ (-(largestPower : Int)) := halfUnit_le
      _ ≤ 10 ^ exponent := zpow_le_zpow_right₀ (by norm_num) (by rw [largestPower]; omega)
      _ ≤ significand * 10 ^ exponent := le_mul_of_one_le_left hpower.le hone
      _ ≤ significand * 10 ^ exponent * slack ^ 4 :=
        le_mul_of_one_le_right (mul_pos (zero_lt_one.trans_le hone) hpower).le hslack

end Scaling

end LiveBoard.Numeric
