import LiveBoard.Proofs.Numeric.Digits
import LiveBoard.Proofs.Numeric.Rounding

/-!
# The text of a short decimal

A decimal with fifteen digits at most and a power of ten between `-22` and `22` is scaled with a
single rounding (`scaled?_short`). The grid of fifteen digits at the rounded magnitude is wider than
the interval that rounds to it (`spacing_lt_gridWidth`), so the decimal is the only point of the
grid in the interval, and every shorter decimal that is tried is the same number
(`shortest_of_roundsTo`). Written without trailing zeros, it is the text of the magnitude
(`magnitudeText_of_short`).
-/

set_option autoImplicit false
set_option relaxedAutoImplicit false

namespace LiveBoard.Numeric

/-! ### Points of a grid -/

section Grids

variable {units : Nat}

/-- A point that rounds to a magnitude lies between the ends of its interval. -/
theorem between_of_roundsTo {point : Nat} (h : roundsTo units point = true) :
    lowerEnd units * decimalScale ≤ 4 * point ∧ 4 * point ≤ upperEnd units * decimalScale := by
  unfold roundsTo at h
  dsimp only at h
  split_ifs at h
  · rw [Bool.and_eq_true, decide_eq_true_eq, decide_eq_true_eq] at h
    exact h
  · rw [Bool.and_eq_true, decide_eq_true_eq, decide_eq_true_eq] at h
    exact ⟨h.1.le, h.2.le⟩

theorem upperEnd_le (units : Nat) : upperEnd units ≤ lowerEnd units + 4 * spacing units := by
  unfold upperEnd lowerEnd
  split_ifs <;> omega

theorem four_mul_le (units : Nat) : 4 * units ≤ lowerEnd units + 2 * spacing units := by
  unfold lowerEnd
  split_ifs <;> omega

/-- Assumes: a grid that is wider than the spacing of a magnitude. One point of it at most rounds to
the magnitude. -/
theorem eq_of_roundsTo {width first second : Nat} (hwide : spacing units * decimalScale < width)
    (hfirst : roundsTo units (first * width) = true)
    (hsecond : roundsTo units (second * width) = true) : first = second := by
  have hbelow : ∀ {a b : Nat}, roundsTo units (a * width) = true →
      roundsTo units (b * width) = true → a ≤ b := by
    intro a b ha hb
    have hscaled := Nat.mul_le_mul_right decimalScale (upperEnd_le units)
    have hnext : (b + 1) * width = b * width + width := Nat.succ_mul b width
    rw [Nat.add_mul, Nat.mul_assoc] at hscaled
    have hupper := (between_of_roundsTo ha).2
    have hlower := (between_of_roundsTo hb).1
    exact Nat.le_of_lt_succ (Nat.lt_of_mul_lt_mul_right (show a * width < (b + 1) * width by omega))
  exact le_antisymm (hbelow hfirst hsecond) (hbelow hsecond hfirst)

theorem roundsTo_of_gridPoint? {count index : Nat} (h : gridPoint? units count = some index) :
    roundsTo units (index * gridWidth units count) = true := by
  unfold gridPoint? at h
  dsimp only at h
  split_ifs at h with hlower hupper
  · obtain rfl := Option.some.inj h
    exact (Bool.and_eq_true_iff.mp hlower).1
  · obtain rfl := Option.some.inj h
    exact hupper

/-- No magnitude but zero is given the point zero. -/
theorem gridPoint?_ne_zero {count index : Nat} (hunits : units ≠ 0)
    (h : gridPoint? units count = some index) : index ≠ 0 := by
  rintro rfl
  have hlower := (between_of_roundsTo (roundsTo_of_gridPoint? h)).1
  rw [Nat.zero_mul, Nat.mul_zero, Nat.le_zero, Nat.mul_eq_zero] at hlower
  have hscale := decimalScale_pos
  have hlow := four_mul_le units
  have hspacing := spacing_le hunits
  omega

/-- The first digit of a magnitude that is cut is not zero. -/
theorem gridWidth_le (hunits : units ≠ 0) : gridWidth units 17 ≤ units * decimalScale := by
  have hone : unitsOfOne ≤ decimalScale := by
    have hscale := mul_unitsOfOne_le_decimalScale
    omega
  have hwhole : unitsOfOne ≤ units * decimalScale :=
    hone.trans (Nat.le_mul_of_pos_left _ (Nat.pos_of_ne_zero hunits))
  rw [gridWidth, Nat.pow_eq, Nat.mul_comm]
  by_cases hshort : shiftedLength units ≤ 17
  · have hunscaled : 10 ^ (shiftedLength units - 17) = 1 := by
      rw [Nat.sub_eq_zero_of_le hshort, Nat.pow_zero]
    rewrite [hunscaled, Nat.one_mul]
    exact hwhole
  · by_contra hsmall
    rw [Nat.not_le, ← Nat.div_lt_iff_lt_mul unitsOfOne_pos, ← length_digitsOf_le (by omega)]
      at hsmall
    change shiftedLength units ≤ _ at hsmall
    omega

/-- The shortest decimal of a magnitude that is not zero is not zero. -/
theorem shortest_digits_ne_zero (hunits : units ≠ 0) : (shortest units).digits ≠ 0 := by
  have hpoint : (shortestPoint units).1 ≠ 0 := by
    unfold shortestPoint
    cases hfound : digitCounts.findSome? fun count ↦
        (gridPoint? units count).map fun index ↦ (index, count) with
    | none =>
      have hwidth : 0 < gridWidth units 17 := Nat.mul_pos unitsOfOne_pos (Nat.pow_pos (by decide))
      exact (Nat.div_pos (gridWidth_le hunits) hwidth).ne'
    | some point =>
      obtain ⟨count, -, hmapped⟩ := List.exists_of_findSome?_eq_some hfound
      obtain ⟨index, hindex, rfl⟩ := Option.map_eq_some_iff.mp hmapped
      exact gridPoint?_ne_zero hunits hindex
  exact hpoint

/-- Assumes: a grid that is wider than the spacing of a magnitude. A point of it that rounds to the
magnitude is one of the two neighbours of the magnitude. -/
theorem neighbour_of_roundsTo {width index : Nat} (hwide : spacing units * decimalScale < width)
    (h : roundsTo units (index * width) = true) :
    index = units * decimalScale / width ∨ index = units * decimalScale / width + 1 := by
  obtain ⟨hlower, hupper⟩ := between_of_roundsTo h
  have hlow := Nat.mul_le_mul_right decimalScale (four_mul_le units)
  have hhigh : upperEnd units * decimalScale =
      4 * (units * decimalScale) + 2 * (spacing units * decimalScale) := by
    rw [upperEnd]
    ring
  rw [Nat.add_mul, Nat.mul_assoc, Nat.mul_assoc] at hlow
  have hwidth : 0 < width := by omega
  have hbelow := Nat.div_mul_le_self (units * decimalScale) width
  have habove := Nat.lt_div_mul_add (a := units * decimalScale) hwidth
  generalize units * decimalScale / width = below at *
  have hleast : below * width < (index + 1) * width := by
    rw [Nat.succ_mul]
    omega
  have hmost : index * width < (below + 2) * width := by
    rw [Nat.add_mul]
    omega
  have hleast' := Nat.lt_of_mul_lt_mul_right hleast
  have hmost' := Nat.lt_of_mul_lt_mul_right hmost
  omega

/-- Assumes: a grid that is wider than the spacing of a magnitude. A point of it that rounds to the
magnitude keeps the grid from being given up. -/
theorem isSome_gridPoint? {count index : Nat}
    (hwide : spacing units * decimalScale < gridWidth units count)
    (h : roundsTo units (index * gridWidth units count) = true) :
    (gridPoint? units count).isSome = true := by
  unfold gridPoint?
  dsimp only
  split_ifs with hfirst hsecond
  · rfl
  · rfl
  · obtain rfl | rfl := neighbour_of_roundsTo hwide h
    · rw [h, Bool.true_and, Bool.or_eq_true, not_or, Bool.not_eq_true', Bool.not_eq_false] at hfirst
      exact absurd hfirst.1 hsecond
    · exact absurd h hsecond

/-- Where the grid of fifteen digits has a point that rounds to a magnitude, the point that is
taken lies on a grid of fifteen digits at most. -/
theorem exists_shortestPoint (h : (gridPoint? units 15).isSome = true) :
    ∃ index count, shortestPoint units = (index, count) ∧ count ≤ 15 ∧
      gridPoint? units count = some index := by
  have hcounts : digitCounts = (List.range 15).map (· + 1) ++ [16, 17] := by decide
  obtain ⟨found, hfound⟩ := Option.isSome_iff_exists.mp h
  have hsome : (((List.range 15).map (· + 1)).findSome? fun count ↦
      (gridPoint? units count).map fun index ↦ (index, count)).isSome = true := by
    rw [List.findSome?_isSome_iff]
    exact ⟨15, by decide, by rw [hfound]; rfl⟩
  obtain ⟨point, hpoint⟩ := Option.isSome_iff_exists.mp hsome
  obtain ⟨count, hcount, hmapped⟩ := List.exists_of_findSome?_eq_some hpoint
  obtain ⟨index, hindex, rfl⟩ := Option.map_eq_some_iff.mp hmapped
  obtain ⟨start, hstart, rfl⟩ := List.mem_map.mp hcount
  refine ⟨index, start + 1, ?_, List.mem_range.mp hstart, hindex⟩
  rw [shortestPoint, hcounts, List.findSome?_append, hpoint]
  rfl

/-- Assumes: a magnitude that is not tiny. The grid of fifteen digits is wider than its spacing. -/
theorem spacing_lt_gridWidth (hlarge : 2 ^ 52 ≤ units) (hlength : 15 ≤ shiftedLength units) :
    spacing units * decimalScale < gridWidth units 15 := by
  have hspacing : 2 ^ 52 * spacing units ≤ units := by
    obtain ⟨-, hsmall⟩ | ⟨hleast, -⟩ := spacing_cases (show units ≠ 0 by omega)
    · omega
    · exact hleast
  have hscaled : units * decimalScale < 10 ^ shiftedLength units * unitsOfOne :=
    (Nat.div_lt_iff_lt_mul unitsOfOne_pos).mp (lt_pow_length _)
  have hwidth : 10 ^ shiftedLength units * unitsOfOne = 10 ^ 15 * gridWidth units 15 := by
    rw [gridWidth, Nat.pow_eq]
    calc 10 ^ shiftedLength units * unitsOfOne
        = 10 ^ (15 + (shiftedLength units - 15)) * unitsOfOne := by
          rw [Nat.add_sub_cancel' hlength]
      _ = 10 ^ 15 * (unitsOfOne * 10 ^ (shiftedLength units - 15)) := by
          rw [Nat.pow_add]
          ring
  have hproduct := Nat.mul_le_mul_right decimalScale hspacing
  rw [Nat.mul_assoc] at hproduct
  rw [hwidth] at hscaled
  generalize spacing units * decimalScale = step at hproduct ⊢
  omega

/-- The points of a grid, counted in the finer steps of the last one. -/
theorem mul_gridWidth (units index places count : Nat) :
    index * 10 ^ places * gridWidth units count =
      index * 10 ^ (places + (shiftedLength units - count)) * unitsOfOne := by
  rw [gridWidth, Nat.pow_eq, Nat.pow_add]
  ring

/-- Assumes: a magnitude that is not tiny, and a decimal that rounds to it and lies on its grid of
fifteen digits. The shortest decimal is the same number. -/
theorem shortest_of_roundsTo {significand power : Nat} (hlarge : 2 ^ 52 ≤ units)
    (hlength : 15 ≤ shiftedLength units) (hgrid : shiftedLength units ≤ 15 + power)
    (hrounds : roundsTo units (significand * 10 ^ power * unitsOfOne) = true) :
    ∃ shift : Nat, (shortest units).digits * 10 ^ shift = significand * 10 ^ power ∧
      (shortest units).exponent = shift - decimalShift := by
  have hwide := spacing_lt_gridWidth hlarge hlength
  have hpoint := mul_gridWidth units significand (power - (shiftedLength units - 15)) 15
  rw [Nat.sub_add_cancel (by omega)] at hpoint
  rw [← hpoint] at hrounds
  obtain ⟨index, count, hshortest, hcount, hfound⟩ :=
    exists_shortestPoint (isSome_gridPoint? hwide hrounds)
  -- The point that is taken lies on the grid of fifteen digits too, and rounds to the magnitude.
  have hcoarse := mul_gridWidth units index 0 count
  have hfine := mul_gridWidth units index (15 - count) 15
  have hplaces : 15 - count + (shiftedLength units - 15) = shiftedLength units - count := by omega
  rw [Nat.pow_zero, Nat.mul_one, Nat.zero_add] at hcoarse
  rw [hplaces, ← hcoarse] at hfine
  have hsame := roundsTo_of_gridPoint? hfound
  rw [← hfine] at hsame
  have hequal := eq_of_roundsTo hwide hsame hrounds
  refine ⟨shiftedLength units - count, ?_, ?_⟩
  · rw [shortest, hshortest]
    refine Nat.eq_of_mul_eq_mul_right unitsOfOne_pos ?_
    rw [← hpoint, ← hequal, hfine, hcoarse]
  · rw [shortest, hshortest]
    dsimp only
    omega

end Grids

/-! ### Scaling with one rounding -/

section Scaling

variable {significand units : Nat} {exponent : Int}

theorem exists_natPow (base exponent : Nat) : ∃ power, Nat.pow base exponent = base ^ power :=
  ⟨exponent, rfl⟩

theorem exists_unitsOfOne : ∃ bits, unitsOfOne = 2 ^ bits := by
  unfold unitsOfOne
  apply exists_natPow

theorem unitsOfNat_of_lt (h : significand < 2 ^ 53) :
    unitsOfNat significand = significand * unitsOfOne := by
  obtain ⟨bits, hone⟩ := exists_unitsOfOne
  rw [unitsOfNat, hone]
  exact roundUnits_exact bits h

/-- The powers of ten up to the one with 53 significant bits are exact. -/
theorem unitsOfPower_of_le {power : Nat} (h : power ≤ 22) :
    unitsOfPower power = 10 ^ power * unitsOfOne := by
  obtain ⟨bits, hone⟩ := exists_unitsOfOne
  have hfive : 5 ^ power < 2 ^ 53 := (Nat.pow_le_pow_right (by decide) h).trans_lt (by decide)
  have hsplit : 10 ^ power * unitsOfOne = 5 ^ power * 2 ^ (power + bits) := by
    rw [hone, Nat.pow_add, ← Nat.mul_assoc, ← Nat.mul_pow]
  rw [unitsOfPower, unitsOfNat, Nat.pow_eq, hsplit]
  exact roundUnits_exact _ hfive

/-- A magnitude is the exact number `significand * 10 ^ power`, shifted by `decimalShift` decimal
places, after one rounding, and it is not tiny. -/
def RoundedOnce (units significand power : Nat) : Prop :=
  ∃ numerator denominator, 0 < denominator ∧ units = roundUnits numerator denominator ∧
    significand * 10 ^ power * unitsOfOne * denominator = numerator * decimalScale ∧
    2 ^ 60 ≤ numerator / denominator

theorem decimalShift_eq : decimalShift = 400 := rfl

theorem largestPower_eq : largestPower = 308 := rfl

theorem decimalScale_eq : decimalScale = 10 ^ decimalShift := by
  unfold decimalScale
  generalize decimalShift = shift
  rfl

/-- Assumes: a significand of 53 bits and a small power of ten. The number is rounded once. -/
theorem scaled?_short (hsome : significand ≠ 0) (hbits : significand < 2 ^ 53)
    (hexponent : exponent.natAbs ≤ 22) (h : scaled? significand exponent = some units) :
    RoundedOnce units significand (exponent + decimalShift).toNat := by
  have hone := unitsOfOne_pos
  have hlarge : 2 ^ 60 * 10 ^ 22 ≤ unitsOfOne := by
    have hunits := mul_largestPower_le
    have hpower : 10 ^ 82 ≤ Nat.pow 10 largestPower := by
      have hlimit : 82 ≤ largestPower := by decide
      generalize largestPower = power at hlimit
      exact Nat.pow_le_pow_right (by decide) hlimit
    omega
  have hunits : unitsOfOne ≤ significand * unitsOfOne :=
    Nat.le_mul_of_pos_left _ (Nat.pos_of_ne_zero hsome)
  have hten : 10 ^ exponent.natAbs ≤ 10 ^ 22 := Nat.pow_le_pow_right (by decide) hexponent
  have hpositive : 0 < 10 ^ exponent.natAbs := Nat.pow_pos (by decide)
  have hshift := decimalShift_eq
  have hlimit := largestPower_eq
  unfold scaled? at h
  dsimp only at h
  split_ifs at h with hdown hpower hfinite
  · have hsteps : (exponent.natAbs - 1) / largestPower = 0 := Nat.div_eq_of_lt (by omega)
    rw [hsteps, Nat.mul_zero, Nat.sub_zero, scaleDown, quotient, unitsOfNat_of_lt hbits,
      unitsOfPower_of_le hexponent, roundUnits_mul_mul _ _ hone, Option.some.injEq] at h
    refine ⟨significand * unitsOfOne, 10 ^ exponent.natAbs, hpositive, h.symm, ?_, ?_⟩
    · have hpowers : (exponent + decimalShift).toNat + exponent.natAbs = decimalShift := by omega
      have hscale : decimalScale =
          10 ^ (exponent + decimalShift).toNat * 10 ^ exponent.natAbs := by
        rw [← Nat.pow_add, hpowers, decimalScale_eq]
      rw [hscale]
      ring
    · rw [Nat.le_div_iff_mul_le hpositive]
      exact (Nat.mul_le_mul_left _ hten).trans (hlarge.trans hunits)
  · have hproduct : significand * unitsOfOne * (10 ^ exponent.natAbs * unitsOfOne) =
        significand * unitsOfOne * 10 ^ exponent.natAbs * unitsOfOne := by ring
    rw [Option.some.injEq, product, unitsOfNat_of_lt hbits, unitsOfPower_of_le hexponent, hproduct]
      at h
    have hreduced := roundUnits_mul_mul (significand * unitsOfOne * 10 ^ exponent.natAbs) 1 hone
    rw [Nat.one_mul, h] at hreduced
    refine ⟨significand * unitsOfOne * 10 ^ exponent.natAbs, 1, Nat.one_pos, hreduced, ?_, ?_⟩
    · have hpowers : (exponent + decimalShift).toNat = exponent.natAbs + decimalShift := by omega
      rw [hpowers, Nat.pow_add, ← decimalScale_eq]
      ring
    · have hsmall : 2 ^ 60 ≤ unitsOfOne := (Nat.le_mul_of_pos_right _ (by decide)).trans hlarge
      refine le_of_le_of_eq ?_ (Nat.div_one _).symm
      exact hsmall.trans (hunits.trans (Nat.le_mul_of_pos_right _ hpositive))
  · omega

end Scaling

/-! ### Short decimals -/

section Short

variable {units significand power : Nat}

/-- What is rounded once lies in the interval of the magnitude. -/
theorem RoundedOnce.roundsTo (h : RoundedOnce units significand power) :
    Numeric.roundsTo units (significand * 10 ^ power * unitsOfOne) = true := by
  obtain ⟨numerator, denominator, hpositive, rfl, hexact, hlarge⟩ := h
  exact (encloses_roundUnits hpositive (by omega)).roundsTo hpositive hexact

/-- The magnitude differs from what was rounded by its last bit at most. -/
theorem RoundedOnce.bounds (h : RoundedOnce units significand power) :
    2 ^ 52 ≤ units ∧
      2 ^ 52 * (units * decimalScale) ≤ (2 ^ 52 + 1) * (significand * 10 ^ power * unitsOfOne) := by
  obtain ⟨numerator, denominator, hpositive, rfl, hexact, hlarge⟩ := h
  have hupper := roundUnits_le numerator denominator
  have hlower := le_roundUnits_add numerator denominator
  have hbelow : numerator / denominator * decimalScale ≤ significand * 10 ^ power * unitsOfOne := by
    refine Nat.le_of_mul_le_mul_right ?_ hpositive
    rw [hexact, Nat.mul_right_comm]
    exact Nat.mul_le_mul_right _ (Nat.div_mul_le_self _ _)
  have hspacing : 2 ^ 52 * spacing (numerator / denominator) ≤ numerator / denominator := by
    obtain ⟨-, hsmall⟩ | ⟨hleast, -⟩ := spacing_cases (show numerator / denominator ≠ 0 by omega)
    · omega
    · exact hleast
  generalize numerator / denominator = whole at *
  generalize spacing whole = gap at *
  refine ⟨by omega, ?_⟩
  calc 2 ^ 52 * (roundUnits numerator denominator * decimalScale)
      = 2 ^ 52 * roundUnits numerator denominator * decimalScale := (Nat.mul_assoc _ _ _).symm
    _ ≤ (2 ^ 52 + 1) * whole * decimalScale := Nat.mul_le_mul_right _ (by omega)
    _ = (2 ^ 52 + 1) * (whole * decimalScale) := Nat.mul_assoc _ _ _
    _ ≤ (2 ^ 52 + 1) * (significand * 10 ^ power * unitsOfOne) := Nat.mul_le_mul_left _ hbelow

/-- Assumes: a significand of fifteen digits. What is rounded once is a point of the grid of fifteen
digits at the magnitude. -/
theorem RoundedOnce.shiftedLength_le (h : RoundedOnce units significand power)
    (hdigits : significand < 10 ^ 15) : shiftedLength units ≤ 15 + power := by
  have hbound := h.bounds.2
  have hpositive : 0 < 10 ^ power * unitsOfOne :=
    Nat.mul_pos (Nat.pow_pos (by decide)) unitsOfOne_pos
  have hfew : (2 ^ 52 + 1) * significand < 2 ^ 52 * 10 ^ 15 := by omega
  have hproduct := Nat.mul_lt_mul_of_pos_right hfew hpositive
  refine (length_digitsOf_le (by omega)).mpr ?_
  rw [Nat.div_lt_iff_lt_mul unitsOfOne_pos]
  refine Nat.lt_of_mul_lt_mul_left (a := 2 ^ 52) ?_
  calc 2 ^ 52 * (units * decimalScale)
      ≤ (2 ^ 52 + 1) * (significand * 10 ^ power * unitsOfOne) := hbound
    _ = (2 ^ 52 + 1) * significand * (10 ^ power * unitsOfOne) := by
        rw [Nat.mul_assoc significand, Nat.mul_assoc]
    _ < 2 ^ 52 * 10 ^ 15 * (10 ^ power * unitsOfOne) := hproduct
    _ = 2 ^ 52 * (10 ^ (15 + power) * unitsOfOne) := by
        rw [Nat.pow_add, Nat.mul_assoc, Nat.mul_assoc]

/-- Every magnitude has the text of a decimal. -/
theorem exists_decimal_of_magnitudeText (units : Nat) :
    ∃ d : Decimal, magnitudeText units = d.text := by
  by_cases hunits : units = 0
  · refine ⟨⟨0, 0⟩, ?_⟩
    rw [magnitudeText, if_pos hunits, Decimal.text, if_pos rfl]
  · refine ⟨shortest units, ?_⟩
    rw [magnitudeText, if_neg hunits, Decimal.text, if_neg (shortest_digits_ne_zero hunits)]

/-- Assumes: a significand of fifteen digits that is not zero, and a small power of ten. The text of
the magnitude is the decimal itself, written without trailing zeros. -/
theorem magnitudeText_of_short {exponent : Int} (hsome : significand ≠ 0)
    (hdigits : significand < 10 ^ 15) (hexponent : exponent.natAbs ≤ 22)
    (h : scaled? significand exponent = some units) :
    magnitudeText units = (Decimal.mk significand exponent).text := by
  have hbits : significand < 2 ^ 53 := hdigits.trans (by decide)
  have honce := scaled?_short hsome hbits hexponent h
  have hlarge := honce.bounds.1
  have hunits : units ≠ 0 := by omega
  have hlimit := scaled?_lt (hbits.le.trans (by decide)) h
  have hlength : 15 ≤ shiftedLength units :=
    (show 15 ≤ 77 by decide).trans (shiftedLength_bounds hunits hlimit).1
  obtain ⟨shift, hsame, hshift⟩ :=
    shortest_of_roundsTo hlarge hlength (honce.shiftedLength_le hdigits) honce.roundsTo
  have hpositive : significand * 10 ^ (exponent + decimalShift).toNat ≠ 0 :=
    Nat.mul_ne_zero hsome (Nat.pow_pos (by decide)).ne'
  have htaken : (shortest units).digits ≠ 0 := by
    intro hzero
    rw [hzero, Nat.zero_mul] at hsame
    exact hpositive hsame.symm
  have hback : -(decimalShift : Int) + (exponent + decimalShift).toNat = exponent := by
    have hplaces := decimalShift_eq
    omega
  have htrimmed : (shortest units).trimmed = (Decimal.mk significand exponent).trimmed := by
    have halike := Decimal.trimmed_eq_trimmed htaken hsome hsame (-(decimalShift : Int))
    rw [hback, ← sub_eq_neg_add, ← hshift] at halike
    exact halike
  rw [magnitudeText, if_neg hunits, htrimmed, Decimal.text, if_neg hsome]

end Short

end LiveBoard.Numeric
