import LiveBoard.Proofs.Json.CanonicalNumerals
import LiveBoard.Proofs.Json.NumberRange
import LiveBoard.Proofs.Numeric.ShortDecimals

/-!
# The longest texts of numbers

No text of a number that was read is longer than twenty-four characters, and those that are as long
are all alike (`Number.isLongest_iff`): a minus sign and seventeen digits, which have either a point
and an exponent of three digits or a point with four zeros. No integer is written so, and no number
without a minus sign.
-/

set_option autoImplicit false
set_option relaxedAutoImplicit false

namespace LiveBoard.Json

open Numeric

/-- The texts of twenty-four characters: seventeen digits behind a minus sign, with an exponent of
three or with zeros in front. -/
inductive IsLongest : List Char → Prop
  /-- The point stands behind the first digit, and an exponent behind the others. -/
  | scientific {first sign : Char} {rest power : List Char} (hrest : rest.length = 16)
      (hpower : power.length = 3) (hsign : sign = '+' ∨ sign = '-')
      (hdigits : ∀ c ∈ first :: (rest ++ power), c.isDigit = true) :
      IsLongest ('-' :: first :: '.' :: (rest ++ 'e' :: sign :: power))
  /-- The point and four zeros stand in front of the digits. -/
  | below {digits : List Char} (hlength : digits.length = 17)
      (hdigits : ∀ c ∈ digits, c.isDigit = true) :
      IsLongest ('-' :: '0' :: '.' :: '0' :: '0' :: '0' :: '0' :: digits)

theorem IsLongest.length_eq {text : List Char} (h : IsLongest text) : text.length = 24 := by
  cases h with
  | scientific hrest hpower =>
    simp only [List.length_cons, List.length_append, hrest, hpower]
  | below hlength => simp only [List.length_cons, hlength]

section Decimals

variable {digits : List Char} {exponent : Int}

theorem length_fractionText_le (fraction : List Char) :
    (fractionText fraction).length ≤ fraction.length + 1 := by
  unfold fractionText
  split_ifs
  · exact Nat.zero_le _
  · rfl

/-- Assumes: seventeen digits at most and an exponent of three. Twenty-three characters are only
needed for all of them. -/
theorem isLongest_plainText (hsome : digits ≠ []) (hdigits : ∀ c ∈ digits, c.isDigit = true)
    (hlength : digits.length ≤ 17) (hpoint : (digits.length + exponent - 1).natAbs < 1000)
    (hlong : 23 ≤ (plainText digits exponent).length) :
    IsLongest ('-' :: plainText digits exponent) := by
  obtain ⟨whole, fraction, tail, hlayout⟩ := exists_layout hsome exponent
  rw [hlayout.plainText_eq hsome] at hlong ⊢
  have hfraction := length_fractionText_le fraction
  simp only [List.length_append] at hlong
  cases hlayout with
  | whole hexponent hshort =>
    simp only [List.length_append, List.length_replicate, List.length_cons, List.length_nil]
      at hlong hfraction
    omega
  | inside hexponent hinside hshort =>
    simp only [List.length_take, List.length_drop, List.length_nil] at hlong hfraction
    omega
  | below hlow hbelow =>
    simp only [List.length_append, List.length_replicate, List.length_cons, List.length_nil]
      at hlong hfraction
    have hzeros : (digits.length + exponent).natAbs = 4 := by omega
    rw [fractionText_of_ne_nil (List.append_ne_nil_of_right_ne_nil _ hsome), hzeros,
      List.append_nil]
    have hlongest : IsLongest ('-' :: '0' :: '.' :: '0' :: '0' :: '0' :: '0' :: digits) :=
      .below (by omega) hdigits
    exact hlongest
  | scientific digit rest hcons hfar =>
    have hexponent := length_exponentText_le hpoint
    generalize digits.length + exponent - 1 = power at hlong hexponent ⊢
    subst hcons
    have hpower : ∀ c ∈ digitsOf power.natAbs, c.isDigit = true :=
      fun c hc ↦ isDigit_of_mem_digitsOf hc
    simp only [exponentText, List.length_cons, List.length_nil] at hlong hexponent hlength
    have hrest : fraction ≠ [] := by
      rintro rfl
      rw [fractionText, if_pos rfl, List.length_nil] at hlong
      omega
    rw [fractionText_of_ne_nil hrest, exponentText]
    refine .scientific (by omega) (by omega) ?_ ?_
    · split_ifs
      · exact .inr rfl
      · exact .inl rfl
    · rw [← List.cons_append, List.forall_mem_append]
      exact ⟨hdigits, hpower⟩

end Decimals

theorem isLongest_magnitudeText {units : Nat} (hlimit : units < unitsLimit)
    (hlong : 23 ≤ (magnitudeText units).length) : IsLongest ('-' :: magnitudeText units) := by
  unfold magnitudeText at hlong ⊢
  split_ifs at hlong ⊢ with hzero
  · exact absurd hlong (by decide)
  · obtain ⟨hdigits, hsome, -, -⟩ := Decimal.trimmed_digits (shortest_digits_ne_zero hzero)
    exact isLongest_plainText hsome hdigits (Decimal.length_trimmed_le (shortest_digits_le units))
      (abs_point_shortest hzero hlimit) hlong

/-- Only with a minus sign does a magnitude take twenty-four characters. -/
theorem isLongest_double {x : Double} (hlimit : x.units < unitsLimit)
    (hlong : 23 < x.text.length) : IsLongest x.text := by
  unfold Double.text at hlong ⊢
  split_ifs at hlong ⊢
  · exact isLongest_magnitudeText hlimit (Nat.le_of_lt_succ hlong)
  · exact absurd (length_magnitudeText_le hlimit) (Nat.not_le_of_lt hlong)

/-- Assumes: a number in range. Its text is one of the longest where it has more than twenty-three
characters. -/
theorem Number.isLongest_iff {number : Number} (h : number.InRange) :
    IsLongest number.text ↔ 23 < number.text.length := by
  constructor
  · intro hlongest
    rw [hlongest.length_eq]
    decide
  · intro hlong
    cases number with
    | natural value =>
      have hshort := Number.length_text_of_integer h nofun
      omega
    | negative magnitude =>
      have hshort := Number.length_text_of_integer h nofun
      omega
    | double value => exact isLongest_double h hlong

end LiveBoard.Json
