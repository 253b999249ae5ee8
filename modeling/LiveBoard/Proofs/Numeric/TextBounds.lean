import LiveBoard.Numeric.Shortest
import LiveBoard.Proofs.Numeric.Magnitudes

/-!
# The text of a double is short

The shortest decimal of a magnitude has seventeen digits at most (`shortest_digits_le`) and, where
the magnitude is finite, an exponent of three (`abs_point_shortest`). So whichever way it is
written, the text of a double has at most twenty-four characters (`Double.length_text_le`), all of
them digits, signs, points or the letter of an exponent (`Double.isNumberChar_text`).
-/

set_option autoImplicit false
set_option relaxedAutoImplicit false

namespace LiveBoard.Numeric

/-! ### Digits -/

theorem length_digitsOf_le {n count : Nat} (hcount : 0 < count) :
    (digitsOf n).length ≤ count ↔ n < 10 ^ count :=
  Nat.length_toDigits_le_iff (by decide) hcount

theorem digitsOf_ne_nil (n : Nat) : digitsOf n ≠ [] := Nat.toDigits_ne_nil

theorem length_digitsOf_pos (n : Nat) : 0 < (digitsOf n).length :=
  List.length_pos_iff.mpr (digitsOf_ne_nil n)

theorem lt_pow_length (n : Nat) : n < 10 ^ (digitsOf n).length :=
  (length_digitsOf_le (length_digitsOf_pos n)).mp le_rfl

/-! ### The shortest decimal -/

/-- The grid with some digits has no more points below a magnitude than these digits count. -/
theorem gridIndex_lt (units count : Nat) :
    units * decimalScale / gridWidth units count < 10 ^ count := by
  have hlength := lt_pow_length (units * decimalScale / unitsOfOne)
  rw [gridWidth, ← Nat.div_div_eq_div_mul, Nat.pow_eq,
    Nat.div_lt_iff_lt_mul (Nat.pow_pos (by decide)), ← Nat.pow_add]
  refine hlength.trans_le (Nat.pow_le_pow_right (by decide) ?_)
  rw [shiftedLength]
  omega

theorem gridPoint?_le {units count index : Nat} (h : gridPoint? units count = some index) :
    index ≤ 10 ^ count := by
  have hindex := gridIndex_lt units count
  unfold gridPoint? at h
  dsimp only at h
  split_ifs at h <;> cases h <;> omega

/-- The point that is taken lies on a grid of seventeen digits at most. -/
theorem shortestPoint_le (units : Nat) :
    (shortestPoint units).1 ≤ 10 ^ (shortestPoint units).2 ∧ (shortestPoint units).2 ≤ 17 := by
  unfold shortestPoint
  cases hfound : digitCounts.findSome? fun count ↦
      (gridPoint? units count).map fun index ↦ (index, count) with
  | none => exact ⟨(gridIndex_lt units 17).le, le_rfl⟩
  | some point =>
    obtain ⟨count, hcount, hpoint⟩ := List.exists_of_findSome?_eq_some hfound
    obtain ⟨index, hindex, rfl⟩ := Option.map_eq_some_iff.mp hpoint
    obtain ⟨start, hstart, rfl⟩ := List.mem_map.mp hcount
    have hlimit : start < 17 := List.mem_range.mp hstart
    exact ⟨gridPoint?_le hindex, hlimit⟩

/-- The digits that are kept are the first ones that were written. -/
theorem Decimal.trimmed_eq (d : Decimal) :
    ∃ zeros, digitsOf d.digits = d.trimmed.1 ++ zeros ∧
      d.trimmed.2 = d.exponent + zeros.length := by
  unfold Decimal.trimmed
  dsimp only
  generalize digitsOf d.digits = written
  refine ⟨(written.reverse.takeWhile (· == '0')).reverse, ?_, ?_⟩
  · rw [← List.reverse_append, List.takeWhile_append_dropWhile, List.reverse_reverse]
  · have hsplit := congrArg List.length
      (List.takeWhile_append_dropWhile (p := (· == '0')) (l := written.reverse))
    rw [List.length_append, List.length_reverse] at hsplit
    rw [List.length_reverse, List.length_reverse]
    omega

/-- Seventeen digits are kept at most; a carry into an eighteenth leaves zeros behind it. -/
theorem Decimal.length_trimmed_le {d : Decimal} (h : d.digits ≤ 10 ^ 17) :
    d.trimmed.1.length ≤ 17 := by
  by_cases hfull : d.digits = 10 ^ 17
  · have hkept : d.trimmed.1 = ['1'] := by
      change ((digitsOf d.digits).reverse.dropWhile (· == '0')).reverse = ['1']
      rw [hfull]
      decide
    rw [hkept]
    decide
  · obtain ⟨zeros, hwritten, -⟩ := d.trimmed_eq
    have hlength := congrArg List.length hwritten
    rw [List.length_append] at hlength
    have hdigits : (digitsOf d.digits).length ≤ 17 :=
      (length_digitsOf_le (by decide)).mpr (Nat.lt_of_le_of_ne h hfull)
    omega

theorem shortest_digits_le (units : Nat) : (shortest units).digits ≤ 10 ^ 17 := by
  obtain ⟨hindex, hcount⟩ := shortestPoint_le units
  exact hindex.trans (Nat.pow_le_pow_right (by decide) hcount)

theorem mul_unitsOfOne_le_decimalScale : 10 ^ 76 * unitsOfOne ≤ decimalScale := by decide +kernel

theorem decimalScale_pos : 0 < decimalScale := by
  have hone := unitsOfOne_pos
  have hscale := mul_unitsOfOne_le_decimalScale
  omega

/-- A finite magnitude that is not zero has between 77 and 709 digits in front of the shifted
point. -/
theorem shiftedLength_bounds {units : Nat} (hzero : units ≠ 0) (hlimit : units < unitsLimit) :
    77 ≤ shiftedLength units ∧ shiftedLength units ≤ 709 := by
  have hscale := mul_unitsOfOne_le_decimalScale
  have hbound : unitsLimit * decimalScale ≤ 10 ^ 709 * unitsOfOne := by decide +kernel
  have hone := unitsOfOne_pos
  constructor
  · by_contra hshort
    have hlow : units * decimalScale / unitsOfOne < 10 ^ 76 :=
      (length_digitsOf_le (by decide)).mp (show shiftedLength units ≤ 76 by omega)
    rw [Nat.div_lt_iff_lt_mul hone] at hlow
    have hscaled : decimalScale ≤ units * decimalScale :=
      Nat.le_mul_of_pos_left _ (Nat.pos_of_ne_zero hzero)
    omega
  · apply (length_digitsOf_le (by decide)).mpr
    rw [Nat.div_lt_iff_lt_mul hone]
    refine lt_of_lt_of_le ?_ hbound
    exact Nat.mul_lt_mul_of_pos_right hlimit decimalScale_pos

/-- The point of the shortest decimal of a finite magnitude is less than a thousand places off. -/
theorem abs_point_shortest {units : Nat} (hzero : units ≠ 0) (hlimit : units < unitsLimit) :
    ((shortest units).trimmed.1.length + (shortest units).trimmed.2 - 1).natAbs < 1000 := by
  obtain ⟨zeros, hwritten, hexponent⟩ := (shortest units).trimmed_eq
  obtain ⟨hlow, hhigh⟩ := shiftedLength_bounds hzero hlimit
  obtain ⟨-, hcount⟩ := shortestPoint_le units
  have hlength := congrArg List.length hwritten
  rw [List.length_append] at hlength
  have hdigits : (digitsOf (shortest units).digits).length ≤ 18 := by
    apply (length_digitsOf_le (by decide)).mpr
    exact (shortest_digits_le units).trans_lt (by decide)
  have hshifted : (shortest units).exponent =
      (shiftedLength units : Int) - 400 - (shortestPoint units).2 := rfl
  omega

/-! ### The text -/

theorem length_exponentText_le {exponent : Int} (h : exponent.natAbs < 1000) :
    (exponentText exponent).length ≤ 4 := by
  have hdigits : (digitsOf exponent.natAbs).length ≤ 3 := (length_digitsOf_le (by decide)).mpr h
  rw [exponentText, List.length_cons]
  omega

/-- Assumes: seventeen digits at most and an exponent of three. No way of writing them takes more
than twenty-three characters. -/
theorem length_plainText_le {digits : List Char} {exponent : Int} (hdigits : digits.length ≤ 17)
    (hpoint : (digits.length + exponent - 1).natAbs < 1000) :
    (plainText digits exponent).length ≤ 23 := by
  have hexponent := length_exponentText_le hpoint
  unfold plainText
  dsimp only
  split_ifs with hwhole hinside hbelow
  · simp only [List.length_append, List.length_replicate, List.length_cons, List.length_nil]
    omega
  · simp only [List.length_append, List.length_take, List.length_cons, List.length_drop]
    omega
  · simp only [List.length_cons, List.length_append, List.length_replicate]
    omega
  · match digits with
    | [] => exact Nat.zero_le _
    | [digit] => exact (Nat.add_le_add_right hexponent 2).trans (by decide)
    | digit :: second :: rest =>
      simp only [List.length_cons, List.length_append] at hdigits hexponent ⊢
      omega

theorem length_magnitudeText_le {units : Nat} (h : units < unitsLimit) :
    (magnitudeText units).length ≤ 23 := by
  unfold magnitudeText
  split_ifs with hzero
  · decide
  · exact length_plainText_le (Decimal.length_trimmed_le (shortest_digits_le _))
      (abs_point_shortest hzero h)

/-- The text of a finite double has at most twenty-four characters. -/
theorem Double.length_text_le {x : Double} (h : x.units < unitsLimit) : x.text.length ≤ 24 := by
  have hmagnitude := length_magnitudeText_le h
  unfold Double.text
  split_ifs
  · rw [List.length_cons]
    omega
  · omega

/-- The characters of numbers. -/
def isNumberChar (c : Char) : Bool :=
  c.isDigit || c == '-' || c == '+' || c == '.' || c == 'e'

theorem toNat_of_isNumberChar {c : Char} (h : isNumberChar c = true) :
    0x21 ≤ c.toNat ∧ c.toNat ≤ 0x7E := by
  simp only [isNumberChar, Bool.or_eq_true, beq_iff_eq] at h
  obtain (((hdigit | rfl) | rfl) | rfl) | rfl := h
  · have hbounds : 48 ≤ c.toNat ∧ c.toNat ≤ 57 := Char.isDigit_iff_toNat.mp hdigit
    omega
  · decide
  · decide
  · decide
  · decide

theorem isNumberChar_digitsOf (n : Nat) : ∀ c ∈ digitsOf n, isNumberChar c = true := by
  intro c hc
  have hdigit : c.isDigit = true := Nat.isDigit_of_mem_toDigits (by decide) (by decide) hc
  simp [isNumberChar, hdigit]

theorem isNumberChar_exponentText (exponent : Int) :
    ∀ c ∈ exponentText exponent, isNumberChar c = true := by
  unfold exponentText
  intro c hc
  obtain rfl | hc := List.mem_cons.mp hc
  · split_ifs <;> decide
  · exact isNumberChar_digitsOf _ c hc

theorem isNumberChar_plainText {digits : List Char} (hdigits : ∀ c ∈ digits, isNumberChar c = true)
    (exponent : Int) : ∀ c ∈ plainText digits exponent, isNumberChar c = true := by
  have hexponent := isNumberChar_exponentText (digits.length + exponent - 1)
  have hmarks : isNumberChar '0' = true ∧ isNumberChar '.' = true ∧ isNumberChar 'e' = true := by
    decide
  have hzeros : ∀ count, ∀ c ∈ List.replicate count '0', isNumberChar c = true := by
    intro count c hc
    rw [List.eq_of_mem_replicate hc]
    exact hmarks.1
  unfold plainText
  dsimp only
  split_ifs with hwhole hinside hbelow
  · simp only [List.forall_mem_append, List.forall_mem_cons]
    exact ⟨⟨hdigits, hzeros _⟩, hmarks.2.1, hmarks.1, nofun⟩
  · simp only [List.forall_mem_append, List.forall_mem_cons]
    exact ⟨fun c hc ↦ hdigits c (List.mem_of_mem_take hc), hmarks.2.1,
      fun c hc ↦ hdigits c (List.mem_of_mem_drop hc)⟩
  · simp only [List.forall_mem_append, List.forall_mem_cons]
    exact ⟨⟨hmarks.1, hmarks.2.1, hzeros _⟩, hdigits⟩
  · match digits with
    | [] => exact nofun
    | [digit] =>
      simp only [List.forall_mem_cons] at hdigits ⊢
      exact ⟨hdigits.1, hmarks.2.2, hexponent⟩
    | digit :: second :: rest =>
      simp only [List.forall_mem_append, List.forall_mem_cons] at hdigits ⊢
      exact ⟨⟨hdigits.1, hmarks.2.1, hdigits.2⟩, hmarks.2.2, hexponent⟩

/-- The text of a double is written in the characters of numbers. -/
theorem Double.isNumberChar_text (x : Double) : ∀ c ∈ x.text, isNumberChar c = true := by
  have hmagnitude : ∀ c ∈ magnitudeText x.units, isNumberChar c = true := by
    unfold magnitudeText
    split_ifs with hzero
    · exact List.all_eq_true.mp (by decide)
    · obtain ⟨zeros, hwritten, -⟩ := (shortest x.units).trimmed_eq
      have hkept : ∀ c ∈ (shortest x.units).trimmed.1, isNumberChar c = true := by
        intro c hc
        apply isNumberChar_digitsOf (shortest x.units).digits
        rw [hwritten]
        exact List.mem_append_left zeros hc
      exact isNumberChar_plainText hkept _
  unfold Double.text
  split_ifs
  · rw [List.forall_mem_cons]
    exact ⟨by decide, hmagnitude⟩
  · exact hmagnitude

end LiveBoard.Numeric
