import LiveBoard.Numeric.Double
import Mathlib.Tactic.Ring

/-!
# Magnitudes stay finite

Rounding moves a magnitude by at most one spacing (`roundUnits_le`, `le_roundUnits_add`), and a
spacing is at most the magnitude itself. So a rounded power of ten is large enough that a quotient
by it does not grow (`quotient_le`), however many are taken, and every magnitude that `scaled?`
gives for a significand of 64 bits is below the limit (`scaled?_lt`).
-/

set_option autoImplicit false
set_option relaxedAutoImplicit false

namespace LiveBoard.Numeric

/-! ### Rounding -/

theorem nearestEven_le (numerator denominator : Nat) :
    nearestEven numerator denominator ≤ numerator / denominator + 1 := by
  unfold nearestEven
  dsimp only
  split_ifs <;> omega

theorem le_nearestEven (numerator denominator : Nat) :
    numerator / denominator ≤ nearestEven numerator denominator := by
  unfold nearestEven
  dsimp only
  split_ifs <;> omega

theorem spacing_pos (units : Nat) : 0 < spacing units := Nat.pow_pos (by decide)

theorem spacing_le {units : Nat} (h : units ≠ 0) : spacing units ≤ units := by
  calc spacing units ≤ 2 ^ units.log2 := Nat.pow_le_pow_right (by decide) (Nat.sub_le _ _)
    _ ≤ units := Nat.log2_self_le h

theorem two_mul_spacing_le {units : Nat} (h : 2 ≤ units) : 2 * spacing units ≤ units := by
  have hlog : 1 ≤ units.log2 := (Nat.le_log2 (by omega)).mpr (by simpa using h)
  calc 2 * spacing units = 2 ^ (units.log2 - 52 + 1) := by
        rw [Nat.pow_succ, Nat.mul_comm]
        rfl
    _ ≤ 2 ^ units.log2 := Nat.pow_le_pow_right (by decide) (by omega)
    _ ≤ units := Nat.log2_self_le (by omega)

/-- Rounding adds at most one spacing. -/
theorem roundUnits_le (numerator denominator : Nat) :
    roundUnits numerator denominator ≤
      numerator / denominator + spacing (numerator / denominator) := by
  unfold roundUnits
  dsimp only
  generalize hgap : spacing (numerator / denominator) = gap
  have hnearest := nearestEven_le numerator (denominator * gap)
  rw [← Nat.div_div_eq_div_mul] at hnearest
  calc nearestEven numerator (denominator * gap) * gap
      ≤ (numerator / denominator / gap + 1) * gap := Nat.mul_le_mul_right gap hnearest
    _ = numerator / denominator / gap * gap + gap := by ring
    _ ≤ numerator / denominator + gap := Nat.add_le_add_right (Nat.div_mul_le_self _ _) gap

/-- Rounding takes away at most one spacing. -/
theorem le_roundUnits_add (numerator denominator : Nat) :
    numerator / denominator ≤
      roundUnits numerator denominator + spacing (numerator / denominator) := by
  unfold roundUnits
  dsimp only
  generalize hgap : spacing (numerator / denominator) = gap
  have hpositive : 0 < gap := hgap ▸ spacing_pos _
  have hnearest := le_nearestEven numerator (denominator * gap)
  rw [← Nat.div_div_eq_div_mul] at hnearest
  calc numerator / denominator ≤ numerator / denominator / gap * gap + gap :=
        (Nat.lt_div_mul_add hpositive).le
    _ ≤ nearestEven numerator (denominator * gap) * gap + gap :=
        Nat.add_le_add_right (Nat.mul_le_mul_right gap hnearest) gap

/-! ### Powers and quotients -/

theorem natPow_pos (exponent : Nat) : 0 < Nat.pow 2 exponent := Nat.two_pow_pos exponent

theorem unitsOfOne_pos : 0 < unitsOfOne := by
  unfold unitsOfOne
  apply natPow_pos

/-- The units of one are many, even for the largest power of ten that is applied at once. -/
theorem mul_largestPower_le : 2 ^ 25 * Nat.pow 10 largestPower ≤ unitsOfOne := by decide +kernel

theorem le_unitsOfOne : 2 ^ 25 ≤ unitsOfOne := by
  have hunits := mul_largestPower_le
  have hten : 0 < Nat.pow 10 largestPower := by
    generalize largestPower = power
    exact Nat.pow_pos (by decide)
  generalize Nat.pow 10 largestPower = power at hunits hten
  exact (Nat.le_mul_of_pos_right _ hten).trans hunits

theorem unitsOfNat_le (n : Nat) : unitsOfNat n ≤ 2 * (n * unitsOfOne) + 1 := by
  have hround := roundUnits_le (n * unitsOfOne) 1
  rw [Nat.div_one] at hround
  by_cases hzero : n * unitsOfOne = 0
  · have hspacing : spacing 0 = 1 := by decide
    rw [hzero, hspacing] at hround
    rw [unitsOfNat, hzero]
    exact hround
  · have hspacing := spacing_le hzero
    unfold unitsOfNat
    omega

/-- A positive power of ten is at least five after rounding. -/
theorem le_unitsOfPower {exponent : Nat} (h : exponent ≠ 0) :
    5 * unitsOfOne ≤ unitsOfPower exponent := by
  have hten : 10 ≤ Nat.pow 10 exponent := by
    calc 10 = 10 ^ 1 := rfl
      _ ≤ 10 ^ exponent := Nat.pow_le_pow_right (by decide) (Nat.pos_of_ne_zero h)
  have hproduct : 10 * unitsOfOne ≤ Nat.pow 10 exponent * unitsOfOne :=
    Nat.mul_le_mul_right unitsOfOne hten
  have hround := le_roundUnits_add (Nat.pow 10 exponent * unitsOfOne) 1
  rw [Nat.div_one] at hround
  have hone := unitsOfOne_pos
  have hspacing := two_mul_spacing_le (show 2 ≤ Nat.pow 10 exponent * unitsOfOne by omega)
  unfold unitsOfPower unitsOfNat
  omega

/-- A quotient by a rounded power of ten is no larger than the magnitude, or one unit. -/
theorem quotient_le {units divisor : Nat} (h : 5 * unitsOfOne ≤ divisor) :
    quotient units divisor ≤ max units 1 := by
  have hround := roundUnits_le (units * unitsOfOne) divisor
  have hfifth : units * unitsOfOne / divisor ≤ units / 5 := by
    calc units * unitsOfOne / divisor ≤ units * unitsOfOne / (5 * unitsOfOne) :=
          Nat.div_le_div_left h (Nat.mul_pos (by decide) unitsOfOne_pos)
      _ = units / 5 := Nat.mul_div_mul_right units 5 unitsOfOne_pos
  unfold quotient
  generalize units * unitsOfOne / divisor = whole at hround hfifth
  by_cases hzero : whole = 0
  · have hspacing : spacing 0 = 1 := by decide
    rw [hzero, hspacing] at hround
    omega
  · have hspacing := spacing_le hzero
    omega

/-- Assumes: a last power that is not zero. Quotients by powers of ten do not grow. -/
theorem scaleDown_le {bound last : Nat} (hbound : 1 ≤ bound) (hlast : last ≠ 0) (steps units : Nat)
    (hunits : units ≤ bound) : scaleDown steps last units ≤ bound := by
  have hquotient : ∀ exponent units, exponent ≠ 0 → units ≤ bound →
      quotient units (unitsOfPower exponent) ≤ bound := by
    intro exponent units hexponent hunits
    exact (quotient_le (le_unitsOfPower hexponent)).trans (max_le hunits hbound)
  induction steps generalizing units with
  | zero => exact hquotient last units hlast hunits
  | succ steps ih =>
    unfold scaleDown
    split_ifs with hzero
    · exact Nat.zero_le bound
    · exact ih _ (hquotient largestPower units (by decide) hunits)

theorem unitsOfNat_le_mul {n : Nat} (h : n ≤ 2 ^ 64) : unitsOfNat n ≤ 2 ^ 66 * unitsOfOne := by
  have hproduct : n * unitsOfOne ≤ 2 ^ 64 * unitsOfOne := Nat.mul_le_mul_right unitsOfOne h
  have hunits := unitsOfNat_le n
  have hone := unitsOfOne_pos
  omega

theorem mul_natPow_lt {first second limit : Nat} (h : first + second < limit) :
    2 ^ first * Nat.pow 2 second < Nat.pow 2 limit := by
  rw [Nat.pow_eq, Nat.pow_eq, ← Nat.pow_add]
  exact Nat.pow_lt_pow_right (by decide) h

theorem mul_unitsOfOne_lt : 2 ^ 66 * unitsOfOne < unitsLimit := by
  unfold unitsOfOne unitsLimit
  apply mul_natPow_lt
  decide

theorem unitsLimit_pos : 0 < unitsLimit := by
  unfold unitsLimit
  apply natPow_pos

/-- The magnitude of a significand of 64 bits and a power of ten is finite. -/
theorem scaled?_lt {significand units : Nat} {exponent : Int} (hsignificand : significand ≤ 2 ^ 64)
    (h : scaled? significand exponent = some units) : units < unitsLimit := by
  have hlimit := mul_unitsOfOne_lt
  unfold scaled? at h
  dsimp only at h
  split_ifs at h with hdown hpower hfinite hzero
  · obtain rfl := Option.some.inj h
    have hlast : exponent.natAbs -
        largestPower * ((exponent.natAbs - 1) / largestPower) ≠ 0 := by
      have hquotient := Nat.mul_div_le (exponent.natAbs - 1) largestPower
      omega
    have hbound : 1 ≤ 2 ^ 66 * unitsOfOne := Nat.mul_pos (by decide) unitsOfOne_pos
    exact (scaleDown_le hbound hlast _ _ (unitsOfNat_le_mul hsignificand)).trans_lt hlimit
  · obtain rfl := Option.some.inj h
    exact hfinite
  · obtain rfl := Option.some.inj h
    exact (Nat.zero_le _).trans_lt hlimit

end LiveBoard.Numeric
