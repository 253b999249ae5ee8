import LiveBoard.Numeric.Shortest
import LiveBoard.Proofs.Numeric.TextBounds
import Mathlib.Tactic.Ring

/-!
# What rounds to a magnitude

A magnitude with no more than 53 significant bits is exact (`roundUnits_exact`), and every other
one is rounded into an interval of half a spacing to both sides, with its ends where the
significand is even. `roundsTo` describes this interval by the rounded magnitude alone, also where
the rounding went up to the next binade, and `roundsTo_roundUnits` says that what was rounded lies
in it.
-/

set_option autoImplicit false
set_option relaxedAutoImplicit false

namespace LiveBoard.Numeric

/-! ### The nearest number -/

/-- The nearest number is half a step off at most, and even where it is exactly half a step off. -/
structure Nearest (numerator denominator nearest : Nat) : Prop where
  /-- It is not too small. -/
  upper : 2 * numerator ≤ 2 * (nearest * denominator) + denominator
  /-- It is not too large. -/
  lower : 2 * (nearest * denominator) ≤ 2 * numerator + denominator
  /-- Of two candidates that are equally near it is the even one. -/
  even : 2 * numerator = 2 * (nearest * denominator) + denominator ∨
    2 * (nearest * denominator) = 2 * numerator + denominator → nearest % 2 = 0

theorem nearest_nearestEven {numerator denominator : Nat} (hpositive : 0 < denominator) :
    Nearest numerator denominator (nearestEven numerator denominator) := by
  have hsplit := Nat.div_add_mod' numerator denominator
  have hrest := Nat.mod_lt numerator hpositive
  have hnext : (numerator / denominator + 1) * denominator =
      numerator / denominator * denominator + denominator := Nat.succ_mul _ _
  unfold nearestEven
  dsimp only
  generalize numerator / denominator = whole at hsplit hnext ⊢
  generalize numerator % denominator = rest at hsplit hrest ⊢
  generalize hproduct : whole * denominator = product at hsplit hnext
  split_ifs with hless hmore heven
  · constructor <;> rw [hproduct] <;> omega
  · constructor <;> rw [hnext] <;> omega
  · constructor <;> rw [hproduct] <;> omega
  · constructor <;> rw [hnext] <;> omega

theorem nearestEven_mul_mul (numerator denominator : Nat) {factor : Nat} (hfactor : 0 < factor) :
    nearestEven (numerator * factor) (denominator * factor) =
      nearestEven numerator denominator := by
  have hrest : 2 * (numerator % denominator * factor) = 2 * (numerator % denominator) * factor :=
    (Nat.mul_assoc _ _ _).symm
  unfold nearestEven
  dsimp only
  rw [Nat.mul_div_mul_right _ _ hfactor, Nat.mul_mod_mul_right, hrest]
  simp only [Nat.mul_lt_mul_right hfactor]

/-- A quotient is rounded the same whatever it is reduced by. -/
theorem roundUnits_mul_mul (numerator denominator : Nat) {factor : Nat} (hfactor : 0 < factor) :
    roundUnits (numerator * factor) (denominator * factor) = roundUnits numerator denominator := by
  unfold roundUnits
  dsimp only
  rw [Nat.mul_div_mul_right _ _ hfactor, Nat.mul_right_comm denominator,
    nearestEven_mul_mul _ _ hfactor]

/-- A number with no more than 53 significant bits is not changed. -/
theorem roundUnits_exact {bits : Nat} (shift : Nat) (hbits : bits < 2 ^ 53) :
    roundUnits (bits * 2 ^ shift) 1 = bits * 2 ^ shift := by
  have hdivides : spacing (bits * 2 ^ shift) ∣ bits * 2 ^ shift := by
    by_cases hzero : bits = 0
    · rw [hzero, Nat.zero_mul]
      exact Nat.dvd_zero _
    · have hlog : (bits * 2 ^ shift).log2 = bits.log2 + shift := by
        refine (Nat.log2_eq_iff (Nat.mul_ne_zero hzero (Nat.two_pow_pos shift).ne')).mpr ⟨?_, ?_⟩
        · rw [Nat.pow_add]
          exact Nat.mul_le_mul_right _ (Nat.log2_self_le hzero)
        · rw [Nat.add_right_comm, Nat.pow_add]
          exact Nat.mul_lt_mul_of_pos_right Nat.lt_log2_self (Nat.two_pow_pos shift)
      have hfit : bits.log2 < 53 := (Nat.log2_lt hzero).mpr hbits
      refine Dvd.dvd.mul_left (Nat.pow_dvd_pow 2 ?_) bits
      omega
  obtain ⟨count, hcount⟩ := hdivides
  have hgap := spacing_pos (bits * 2 ^ shift)
  unfold roundUnits
  dsimp only
  rw [Nat.div_one, Nat.one_mul]
  generalize spacing (bits * 2 ^ shift) = gap at hcount hgap ⊢
  rw [hcount]
  have hnearest : nearestEven (gap * count) gap = count := by
    unfold nearestEven
    rw [Nat.mul_mod_right, Nat.mul_div_cancel_left count hgap]
    exact if_pos hgap
  rw [hnearest, Nat.mul_comm]

/-! ### Spacings -/

section Spacings

variable {units : Nat}

/-- A magnitude is small, or its significand has 53 bits. -/
theorem spacing_cases (hunits : units ≠ 0) :
    spacing units = 1 ∧ units < 2 ^ 52 ∨
      2 ^ 52 * spacing units ≤ units ∧ units < 2 ^ 53 * spacing units := by
  by_cases hsmall : units.log2 < 52
  · refine Or.inl ⟨?_, (Nat.log2_lt hunits).mp hsmall⟩
    rw [spacing, Nat.sub_eq_zero_of_le hsmall.le, Nat.pow_eq, Nat.pow_zero]
  · have hlow : 2 ^ 52 * 2 ^ (units.log2 - 52) = 2 ^ units.log2 := by
      rw [← Nat.pow_add]
      congr 1
      omega
    have hhigh : 2 ^ 53 * 2 ^ (units.log2 - 52) = 2 ^ (units.log2 + 1) := by
      rw [← Nat.pow_add]
      congr 1
      omega
    refine Or.inr ⟨?_, ?_⟩
    · exact hlow.trans_le (Nat.log2_self_le hunits)
    · exact Nat.lt_log2_self.trans_eq hhigh.symm

theorem spacing_of_small (hsmall : units < 2 ^ 53) : spacing units = 1 := by
  by_cases hzero : units = 0
  · rw [hzero]
    decide
  · have hlog : units.log2 < 53 := (Nat.log2_lt hzero).mpr hsmall
    rw [spacing, Nat.sub_eq_zero_of_le (by omega), Nat.pow_eq, Nat.pow_zero]

/-- The magnitudes whose significands have 53 bits share a spacing. -/
theorem spacing_eq {shift : Nat} (hlow : 2 ^ 52 * 2 ^ shift ≤ units)
    (hhigh : units < 2 ^ 53 * 2 ^ shift) : spacing units = 2 ^ shift := by
  have hpositive : 0 < 2 ^ 52 * 2 ^ shift := Nat.mul_pos (by decide) (Nat.two_pow_pos shift)
  have hlog : units.log2 = 52 + shift := by
    refine (Nat.log2_eq_iff (by omega)).mpr ⟨?_, ?_⟩
    · rwa [Nat.pow_add]
    · rwa [Nat.add_right_comm, Nat.pow_add]
  rw [spacing, hlog, Nat.add_sub_cancel_left, Nat.pow_eq]

end Spacings

/-! ### Intervals -/

/-- An exact number lies in the interval of a magnitude. -/
structure Encloses (units numerator denominator : Nat) : Prop where
  /-- It is not below the lower end. -/
  lower : lowerEnd units * denominator ≤ 4 * numerator
  /-- It is not above the upper end. -/
  upper : 4 * numerator ≤ upperEnd units * denominator
  /-- It is an end only where the ends are included. -/
  ends : lowerEnd units * denominator = 4 * numerator ∨
    4 * numerator = upperEnd units * denominator → endsIncluded units = true

section Intervals

variable {numerator denominator : Nat}

/-- The nearest multiple of a spacing encloses what it is nearest to. -/
theorem encloses_of_nearest {nearest gap : Nat} (hpositive : 0 < denominator) (hsome : nearest ≠ 0)
    (hgap : 0 < gap) (hspacing : spacing (nearest * gap) = gap)
    (hnearest : Nearest numerator (denominator * gap) nearest)
    (hstart : isBinadeStart (nearest * gap) = true → nearest * (denominator * gap) ≤ numerator) :
    Encloses (nearest * gap) numerator denominator := by
  obtain ⟨hupper, hlower, heven⟩ := hnearest
  have hstep : 0 < denominator * gap := Nat.mul_pos hpositive hgap
  have hlarge : denominator * gap ≤ nearest * (denominator * gap) :=
    Nat.le_mul_of_pos_left _ (Nat.pos_of_ne_zero hsome)
  have hends : nearest % 2 = 0 → endsIncluded (nearest * gap) = true := by
    intro hparity
    rw [endsIncluded, hspacing, Nat.mul_div_cancel _ hgap, hparity]
    rfl
  have hhigh : upperEnd (nearest * gap) * denominator =
      4 * (nearest * (denominator * gap)) + 2 * (denominator * gap) := by
    rw [upperEnd, hspacing]
    ring
  have hlow : lowerEnd (nearest * gap) * denominator = 4 * (nearest * (denominator * gap)) -
      if isBinadeStart (nearest * gap) then denominator * gap else 2 * (denominator * gap) := by
    rw [lowerEnd, hspacing, Nat.sub_mul]
    split_ifs
    · rw [Nat.mul_comm gap denominator]
      congr 1
      ring
    · congr 1 <;> ring
  generalize nearest * (denominator * gap) = product at *
  generalize denominator * gap = step at *
  constructor
  · rw [hlow]
    split_ifs with hleast
    · have hbelow := hstart hleast
      omega
    · omega
  · rw [hhigh]
    omega
  · rw [hlow, hhigh]
    intro hend
    split_ifs at hend with hleast
    · have hbelow := hstart hleast
      exact hends (heven (by omega))
    · exact hends (heven (by omega))

/-- The least magnitude of a binade encloses what was rounded up to it. -/
theorem encloses_of_carry {shift : Nat}
    (hnearest : Nearest numerator (denominator * 2 ^ shift) (2 ^ 53)) :
    Encloses (2 ^ 53 * 2 ^ shift) numerator denominator := by
  obtain ⟨hupper, hlower, -⟩ := hnearest
  have hspacing : spacing (2 ^ 53 * 2 ^ shift) = 2 * 2 ^ shift := by
    rw [← Nat.pow_succ']
    have hvalue : 2 ^ 53 * 2 ^ shift = 2 ^ 52 * 2 ^ (shift + 1) := by ring
    refine spacing_eq hvalue.ge ?_
    rw [hvalue]
    exact Nat.mul_lt_mul_of_pos_right (by decide) (Nat.two_pow_pos _)
  have hgap := Nat.two_pow_pos shift
  have hstart : isBinadeStart (2 ^ 53 * 2 ^ shift) = true := by
    rw [isBinadeStart, hspacing, Bool.and_eq_true, decide_eq_true_eq, beq_iff_eq]
    refine ⟨by omega, ?_⟩
    rw [Nat.pow_eq]
    ring
  have hends : endsIncluded (2 ^ 53 * 2 ^ shift) = true := by
    have hhalf : 2 ^ 53 * 2 ^ shift / (2 * 2 ^ shift) = 2 ^ 52 := by
      rw [Nat.mul_div_mul_right _ _ hgap]
      decide
    rw [endsIncluded, hspacing, hhalf]
    decide
  have hhigh : upperEnd (2 ^ 53 * 2 ^ shift) * denominator =
      4 * (2 ^ 53 * (denominator * 2 ^ shift)) + 4 * (denominator * 2 ^ shift) := by
    rw [upperEnd, hspacing]
    ring
  have hlow : lowerEnd (2 ^ 53 * 2 ^ shift) * denominator =
      4 * (2 ^ 53 * (denominator * 2 ^ shift)) - 2 * (denominator * 2 ^ shift) := by
    rw [lowerEnd, if_pos hstart, hspacing, Nat.sub_mul]
    congr 1 <;> ring
  refine ⟨?_, ?_, fun _ ↦ hends⟩
  · rw [hlow]
    omega
  · rw [hhigh]
    omega

/-- Assumes: a nearest multiple with 53 bits, and a number that is not below their binade. The
multiple encloses the number. -/
theorem encloses_of_bits {nearest shift : Nat} (hpositive : 0 < denominator)
    (hnearest : Nearest numerator (denominator * 2 ^ shift) nearest) (hlow : 2 ^ 52 ≤ nearest)
    (hhigh : nearest ≤ 2 ^ 53) (hleast : 2 ^ 52 * 2 ^ shift * denominator ≤ numerator) :
    Encloses (nearest * 2 ^ shift) numerator denominator := by
  obtain rfl | hbits : nearest = 2 ^ 53 ∨ nearest < 2 ^ 53 := by omega
  · exact encloses_of_carry hnearest
  · have hgap := Nat.two_pow_pos shift
    have hspacing : spacing (nearest * 2 ^ shift) = 2 ^ shift :=
      spacing_eq (Nat.mul_le_mul_right _ hlow) (Nat.mul_lt_mul_of_pos_right hbits hgap)
    refine encloses_of_nearest hpositive (by omega) hgap hspacing hnearest fun hstart ↦ ?_
    rw [isBinadeStart, hspacing, Bool.and_eq_true, beq_iff_eq, Nat.pow_eq] at hstart
    have hfirst : nearest = 2 ^ 52 := Nat.eq_of_mul_eq_mul_right hgap hstart.2
    rw [hfirst, Nat.mul_comm denominator, ← Nat.mul_assoc]
    exact hleast

/-- What is rounded lies in the interval of what it is rounded to. -/
theorem encloses_roundUnits (hpositive : 0 < denominator) (hwhole : numerator / denominator ≠ 0) :
    Encloses (roundUnits numerator denominator) numerator denominator := by
  have hgap := spacing_pos (numerator / denominator)
  have hnearest : Nearest numerator (denominator * spacing (numerator / denominator)) _ :=
    nearest_nearestEven (Nat.mul_pos hpositive hgap)
  have hlow := le_nearestEven numerator (denominator * spacing (numerator / denominator))
  have hhigh := nearestEven_le numerator (denominator * spacing (numerator / denominator))
  have hbelow : numerator / denominator * denominator ≤ numerator := Nat.div_mul_le_self _ _
  rw [← Nat.div_div_eq_div_mul] at hlow hhigh
  unfold roundUnits
  dsimp only
  generalize nearestEven numerator (denominator * spacing (numerator / denominator)) = nearest at *
  generalize numerator / denominator = whole at *
  obtain ⟨hone, hsmall⟩ | ⟨hleast, hmost⟩ := spacing_cases hwhole
  · rw [hone, Nat.div_one] at hlow hhigh
    rw [hone] at hnearest ⊢
    have hspacing : spacing (nearest * 1) = 1 := spacing_of_small (by omega)
    refine encloses_of_nearest hpositive (by omega) Nat.one_pos hspacing hnearest fun hstart ↦ ?_
    rw [isBinadeStart, hspacing] at hstart
    cases hstart
  · obtain ⟨shift, hshift⟩ : ∃ shift, spacing whole = 2 ^ shift := ⟨_, rfl⟩
    rw [hshift] at hgap hnearest hlow hhigh hleast hmost ⊢
    have hleast' : 2 ^ 52 ≤ whole / 2 ^ shift := (Nat.le_div_iff_mul_le hgap).mpr hleast
    have hmost' : whole / 2 ^ shift < 2 ^ 53 := (Nat.div_lt_iff_lt_mul hgap).mpr hmost
    exact encloses_of_bits hpositive hnearest (by omega) (by omega)
      ((Nat.mul_le_mul_right _ hleast).trans hbelow)

/-- Assumes: a point that stands for an exact number. It rounds to the magnitudes that enclose the
number. -/
theorem Encloses.roundsTo {units point : Nat} (h : Encloses units numerator denominator)
    (hpositive : 0 < denominator) (hpoint : point * denominator = numerator * decimalScale) :
    roundsTo units point = true := by
  have hscaled : 4 * point * denominator = 4 * numerator * decimalScale := by
    rw [Nat.mul_assoc, hpoint, Nat.mul_assoc]
  have hle : ∀ bound, bound * decimalScale ≤ 4 * point ↔ bound * denominator ≤ 4 * numerator := by
    intro bound
    rw [← Nat.mul_le_mul_right_iff hpositive, hscaled, Nat.mul_right_comm bound,
      Nat.mul_le_mul_right_iff decimalScale_pos]
  have hge : ∀ bound, 4 * point ≤ bound * decimalScale ↔ 4 * numerator ≤ bound * denominator := by
    intro bound
    rw [← Nat.mul_le_mul_right_iff hpositive, hscaled, Nat.mul_right_comm bound,
      Nat.mul_le_mul_right_iff decimalScale_pos]
  obtain ⟨hlower, hupper, hends⟩ := h
  unfold Numeric.roundsTo
  dsimp only
  by_cases hincluded : endsIncluded units = true
  · rw [if_pos hincluded, Bool.and_eq_true, decide_eq_true_eq, decide_eq_true_eq, hle, hge]
    exact ⟨hlower, hupper⟩
  · have hinside := mt hends hincluded
    rw [not_or] at hinside
    rw [if_neg hincluded, Bool.and_eq_true, decide_eq_true_eq, decide_eq_true_eq, ← not_le,
      ← not_le, hge, hle, not_le, not_le]
    exact ⟨lt_of_le_of_ne hlower hinside.1, lt_of_le_of_ne hupper hinside.2⟩

end Intervals

end LiveBoard.Numeric
