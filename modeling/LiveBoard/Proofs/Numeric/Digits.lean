import LiveBoard.Numeric.Shortest
import LiveBoard.Proofs.Numeric.TextBounds
import Mathlib.Data.List.Basic

/-!
# Digits and the number that they make

The digits of the number that some digits make are these digits, so long as no zero leads them
(`digitsOf_ofDigitChars`). Zeros behind them go over into the exponent of a decimal
(`Decimal.trimmed_of_digits`), and every decimal is written without them
(`Decimal.trimmed_spec`).
-/

set_option autoImplicit false
set_option relaxedAutoImplicit false

namespace LiveBoard.Numeric

/-! ### Digits of a number -/

section Digits

variable {digits : List Char}

/-- A digit is the one of its value. -/
theorem digitsOf_digit {c : Char} (hc : c.isDigit = true) :
    c.toNat - '0'.toNat < 10 ∧ digitsOf (c.toNat - '0'.toNat) = [c] := by
  obtain ⟨hlow, hhigh⟩ : 48 ≤ c.toNat ∧ c.toNat ≤ 57 := Char.isDigit_iff_toNat.mp hc
  have hzero : '0'.toNat = 48 := rfl
  have hsmall : c.toNat - '0'.toNat < 10 := by omega
  refine ⟨hsmall, ?_⟩
  have hchar : (c.toNat - '0'.toNat).digitChar = c := by
    apply Char.toNat_inj.mp
    rw [Nat.toNat_digitChar_of_lt_ten hsmall]
    omega
  rw [digitsOf, Nat.toDigits_of_lt_base hsmall, hchar]

/-- Digits behind a positive number are written behind its digits. -/
theorem digitsOf_ofDigitChars_of_pos {start : Nat} (hstart : 0 < start)
    (hdigits : ∀ c ∈ digits, c.isDigit = true) :
    digitsOf (Nat.ofDigitChars 10 digits start) = digitsOf start ++ digits := by
  induction digits generalizing start with
  | nil => rw [Nat.ofDigitChars_nil, List.append_nil]
  | cons c digits ih =>
    obtain ⟨hsmall, hdigit⟩ := digitsOf_digit (hdigits c List.mem_cons_self)
    have happend : digitsOf start ++ digitsOf (c.toNat - '0'.toNat) =
        digitsOf (10 * start + (c.toNat - '0'.toNat)) :=
      Nat.toDigits_append_toDigits (by decide) hstart hsmall
    have hnext : 0 < 10 * start + (c.toNat - '0'.toNat) := by omega
    rw [Nat.ofDigitChars_cons, ih hnext fun d hd ↦ hdigits d (List.mem_cons_of_mem c hd),
      ← happend, hdigit, List.append_assoc, List.singleton_append]

/-- Assumes: digits of which there are some, and no leading zero. They are the digits of their
number. -/
theorem digitsOf_ofDigitChars (hdigits : ∀ c ∈ digits, c.isDigit = true) (hsome : digits ≠ [])
    (hleading : digits.head? ≠ some '0') : digitsOf (Nat.ofDigitChars 10 digits 0) = digits := by
  obtain ⟨c, rest, rfl⟩ := List.exists_cons_of_ne_nil hsome
  have hc := hdigits c List.mem_cons_self
  obtain ⟨-, hdigit⟩ := digitsOf_digit hc
  have hpositive : 0 < c.toNat - '0'.toNat := by
    by_contra hzero
    rw [Nat.eq_zero_of_not_pos hzero] at hdigit
    exact hleading (congrArg List.head? hdigit.symm)
  rw [Nat.ofDigitChars_cons, Nat.mul_zero, Nat.zero_add,
    digitsOf_ofDigitChars_of_pos hpositive fun d hd ↦ hdigits d (List.mem_cons_of_mem c hd), hdigit,
    List.singleton_append]

/-- Leading zeros do not count. -/
@[simp]
theorem ofDigitChars_zeros (count : Nat) (digits : List Char) :
    Nat.ofDigitChars 10 (List.replicate count '0' ++ digits) 0 = Nat.ofDigitChars 10 digits 0 := by
  rw [Nat.ofDigitChars_append, Nat.ofDigitChars_replicate_zero, Nat.mul_zero]

/-- The digits of a multiple of a power of ten end with its zeros. -/
theorem digitsOf_mul_pow {n : Nat} (hn : n ≠ 0) (count : Nat) :
    digitsOf (n * 10 ^ count) = digitsOf n ++ List.replicate count '0' := by
  have hzeros : ∀ c ∈ List.replicate count '0', c.isDigit = true := by
    intro c hc
    rw [List.eq_of_mem_replicate hc]
    rfl
  rw [← digitsOf_ofDigitChars_of_pos (Nat.pos_of_ne_zero hn) hzeros,
    Nat.ofDigitChars_replicate_zero, Nat.mul_comm]

theorem isDigit_of_mem_digitsOf {n : Nat} {c : Char} (hc : c ∈ digitsOf n) : c.isDigit = true :=
  Nat.isDigit_of_mem_toDigits (by decide) (by decide) hc

/-- A text starts with some zeros, and no zero follows them. -/
theorem exists_leadingZeros (text : List Char) :
    ∃ count rest, text = List.replicate count '0' ++ rest ∧ rest.head? ≠ some '0' := by
  induction text with
  | nil => exact ⟨0, [], rfl, nofun⟩
  | cons c text ih =>
    by_cases hc : c = '0'
    · obtain ⟨count, rest, htext, hrest⟩ := ih
      refine ⟨count + 1, rest, ?_, hrest⟩
      rw [hc, htext, List.replicate_succ, List.cons_append]
    · exact ⟨0, c :: text, rfl, fun hzero ↦ hc (Option.some.inj hzero)⟩

/-- A text ends with some zeros, and no zero stands in front of them. -/
theorem exists_trailingZeros (text : List Char) :
    ∃ kept count, text = kept ++ List.replicate count '0' ∧ kept.getLast? ≠ some '0' := by
  obtain ⟨count, rest, htext, hrest⟩ := exists_leadingZeros text.reverse
  refine ⟨rest.reverse, count, ?_, ?_⟩
  · rw [← List.reverse_replicate, ← List.reverse_append, ← htext, List.reverse_reverse]
  · rwa [List.getLast?_reverse]

/-- Digits that make zero are zeros. -/
theorem eq_zero_of_ofDigitChars (hdigits : ∀ c ∈ digits, c.isDigit = true)
    (hzero : Nat.ofDigitChars 10 digits 0 = 0) : ∀ c ∈ digits, c = '0' := by
  obtain ⟨count, rest, rfl, hleading⟩ := exists_leadingZeros digits
  obtain ⟨-, hrest⟩ := List.forall_mem_append.mp hdigits
  rw [ofDigitChars_zeros] at hzero
  by_cases hnil : rest = []
  · rw [hnil, List.append_nil]
    exact fun c hc ↦ List.eq_of_mem_replicate hc
  · have hwritten := digitsOf_ofDigitChars hrest hnil hleading
    rw [hzero] at hwritten
    rw [← hwritten] at hleading
    exact absurd rfl hleading

/-- No zero leads the digits of a number that is not zero. -/
theorem head?_digitsOf {n : Nat} (hn : n ≠ 0) : (digitsOf n).head? ≠ some '0' := by
  obtain ⟨count, rest, hwritten, hrest⟩ := exists_leadingZeros (digitsOf n)
  have hvalue : Nat.ofDigitChars 10 rest 0 = n := by
    rw [← ofDigitChars_zeros count, ← hwritten]
    exact Nat.ofDigitChars_ten_toDigits
  have hall : ∀ c ∈ rest, c.isDigit = true := fun c hc ↦
    isDigit_of_mem_digitsOf (hwritten ▸ List.mem_append_right _ hc)
  have hsome : rest ≠ [] := by
    rintro rfl
    exact hn hvalue.symm
  have hsame : digitsOf n = rest := by
    rw [← hvalue]
    exact digitsOf_ofDigitChars hall hsome hrest
  rwa [hsame]

end Digits

/-! ### Decimals without trailing zeros -/

section Trimmed

variable {d : Decimal} {kept : List Char} {count : Nat}

/-- Trailing zeros go over into the exponent. -/
theorem Decimal.trimmed_of_digits (hwritten : digitsOf d.digits = kept ++ List.replicate count '0')
    (hlast : kept.getLast? ≠ some '0') : d.trimmed = (kept, d.exponent + count) := by
  have hzeros : ∀ c ∈ List.replicate count '0', (c == '0') = true := by
    intro c hc
    rw [List.eq_of_mem_replicate hc]
    rfl
  have hkept : kept.reverse.dropWhile (· == '0') = kept.reverse := by
    rw [← List.head?_reverse] at hlast
    cases hreverse : kept.reverse with
    | nil => rfl
    | cons c rest =>
      rw [hreverse] at hlast
      exact List.dropWhile_cons_of_neg fun hc ↦ hlast (congrArg some (eq_of_beq hc))
  unfold Decimal.trimmed
  dsimp only
  rw [hwritten, List.reverse_append, List.reverse_replicate, List.dropWhile_append_of_pos hzeros,
    hkept, List.reverse_reverse, List.length_append, List.length_replicate, Nat.add_sub_cancel_left]

/-- A decimal is written by the digits in front of its trailing zeros. -/
theorem Decimal.trimmed_spec (d : Decimal) :
    ∃ kept count, digitsOf d.digits = kept ++ List.replicate count '0' ∧
      kept.getLast? ≠ some '0' ∧ d.trimmed = (kept, d.exponent + count) := by
  obtain ⟨kept, count, hwritten, hlast⟩ := exists_trailingZeros (digitsOf d.digits)
  exact ⟨kept, count, hwritten, hlast, d.trimmed_of_digits hwritten hlast⟩

/-- The digits of a decimal that is not zero are written from the first to the last one that is
not zero. -/
theorem Decimal.trimmed_digits (hsome : d.digits ≠ 0) :
    (∀ c ∈ d.trimmed.1, c.isDigit = true) ∧ d.trimmed.1 ≠ [] ∧ d.trimmed.1.head? ≠ some '0' ∧
      d.trimmed.1.getLast? ≠ some '0' := by
  obtain ⟨kept, count, hwritten, hlast, htrimmed⟩ := d.trimmed_spec
  have hleading := head?_digitsOf hsome
  have hwhole := digitsOf_ne_nil d.digits
  rw [hwritten] at hleading hwhole
  rw [htrimmed]
  have hkept : kept ≠ [] := by
    rintro rfl
    cases count with
    | zero => exact hwhole rfl
    | succ count => exact hleading rfl
  refine ⟨fun c hc ↦ ?_, hkept, ?_, hlast⟩
  · exact isDigit_of_mem_digitsOf (hwritten ▸ List.mem_append_left _ hc)
  · rwa [List.head?_append_of_ne_nil _ hkept] at hleading

/-- The text of a decimal, written as the one of a magnitude. -/
def Decimal.text (d : Decimal) : List Char :=
  if d.digits = 0 then ['0', '.', '0'] else plainText d.trimmed.1 d.trimmed.2

/-- Zeros behind the digits of a decimal go over into its exponent. -/
theorem Decimal.trimmed_mul_pow {n : Nat} (hn : n ≠ 0) (exponent : Int) (zeros : Nat) :
    (Decimal.mk (n * 10 ^ zeros) exponent).trimmed = (Decimal.mk n (exponent + zeros)).trimmed := by
  obtain ⟨kept, count, hwritten, hlast, htrimmed⟩ := (Decimal.mk n (exponent + zeros)).trimmed_spec
  have hlonger : digitsOf (n * 10 ^ zeros) = kept ++ List.replicate (count + zeros) '0' := by
    rw [digitsOf_mul_pow hn, hwritten, List.append_assoc, List.replicate_append_replicate]
  rw [htrimmed, Decimal.trimmed_of_digits hlonger hlast, Prod.mk.injEq]
  refine ⟨rfl, ?_⟩
  dsimp only
  omega

/-- Decimals of one number are written alike. -/
theorem Decimal.trimmed_eq_trimmed {first second firstPower secondPower : Nat} (hfirst : first ≠ 0)
    (hsecond : second ≠ 0) (h : first * 10 ^ firstPower = second * 10 ^ secondPower)
    (exponent : Int) : (Decimal.mk first (exponent + firstPower)).trimmed =
      (Decimal.mk second (exponent + secondPower)).trimmed := by
  rw [← Decimal.trimmed_mul_pow hfirst, h, Decimal.trimmed_mul_pow hsecond]

end Trimmed

/-! ### Marks -/

/-- A text of a decimal is not made of digits alone. -/
theorem exists_mark_of_plainText {digits : List Char} {exponent : Int}
    (hsome : plainText digits exponent ≠ []) :
    ∃ c ∈ plainText digits exponent, c.isDigit = false := by
  unfold plainText at hsome ⊢
  dsimp only at hsome ⊢
  split_ifs at hsome ⊢
  · exact ⟨'.', by simp, rfl⟩
  · exact ⟨'.', by simp, rfl⟩
  · exact ⟨'.', by simp, rfl⟩
  · match digits with
    | [] => exact absurd rfl hsome
    | [digit] => exact ⟨'e', by simp, rfl⟩
    | digit :: second :: rest => exact ⟨'.', by simp, rfl⟩

/-- A text of a magnitude is not made of digits alone. -/
theorem magnitudeText_ne_digits {digits : List Char} (hdigits : ∀ c ∈ digits, c.isDigit = true)
    (hsome : digits ≠ []) (units : Nat) : magnitudeText units ≠ digits := by
  rintro rfl
  unfold magnitudeText at hdigits hsome
  split_ifs at hdigits hsome
  · exact absurd (hdigits '.' (by decide)) (by decide)
  · obtain ⟨c, hc, hmark⟩ := exists_mark_of_plainText hsome
    rw [hdigits c hc] at hmark
    cases hmark

end LiveBoard.Numeric
