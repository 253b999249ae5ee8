import LiveBoard.Proofs.Json.Tokens
import Mathlib.Tactic.Ring

/-!
# Integers of a JSON text

The decimal text of an integer is read back as that integer, exactly and without a double in
between, from `-2 ^ 63` up to `2 ^ 64 - 1` (`readScalar_decimal`). Its digits all fit the
significand (`gather_digits`), and no zero leads them (`digitBytes_eq_cons`).
-/

set_option autoImplicit false
set_option relaxedAutoImplicit false

namespace LiveBoard.Json

/-! ### Digits -/

/-- The bytes of the decimal digits of a natural number. -/
def digitBytes (n : Nat) : List UInt8 := Text.encodeText (Nat.toDigits 10 n)

/-- A digit is one byte, which stands for the same value. -/
theorem encodeChar_of_isDigit {c : Char} (hc : c.isDigit = true) :
    ∃ b, Text.encodeChar c = [b] ∧ isDigit b = true ∧ digitValue b = c.toNat - '0'.toNat := by
  obtain ⟨hlow, hhigh⟩ : 48 ≤ c.toNat ∧ c.toNat ≤ 57 := Char.isDigit_iff_toNat.mp hc
  have hvalue : (UInt8.ofNat c.toNat).toNat = c.toNat := by
    rw [UInt8.toNat_ofNat']
    omega
  refine ⟨.ofNat c.toNat, ?_, ?_, ?_⟩
  · rw [Text.encodeChar, if_pos (by omega)]
  · simp only [isDigit, Bool.and_eq_true, decide_eq_true_eq, UInt8.le_iff_toNat_le, hvalue]
    exact ⟨hlow, hhigh⟩
  · rw [digitValue, hvalue]
    rfl

/-- The number that a run of digits makes of the number in front of it. -/
def runValue (start : Nat) (digits : List UInt8) : Nat :=
  digits.foldl (fun value b ↦ value * 10 + digitValue b) start

/-- The bytes of digits are digits, and stand for the same number. -/
theorem encodeText_digits {digits : List Char} (hdigits : ∀ c ∈ digits, c.isDigit = true) :
    (∀ b ∈ Text.encodeText digits, isDigit b = true) ∧
      (Text.encodeText digits).length = digits.length ∧
      ∀ start, runValue start (Text.encodeText digits) = Nat.ofDigitChars 10 digits start := by
  induction digits with
  | nil => simp [Text.encodeText, runValue, Nat.ofDigitChars]
  | cons c digits ih =>
    obtain ⟨hall, hlength, hvalue⟩ := ih fun d hd ↦ hdigits d (List.mem_cons_of_mem c hd)
    obtain ⟨b, hb, hdigit, hsame⟩ := encodeChar_of_isDigit (hdigits c List.mem_cons_self)
    have hcons : Text.encodeText (c :: digits) = b :: Text.encodeText digits := by
      simp [Text.encodeText, hb]
    rw [hcons]
    refine ⟨?_, by simp [hlength], fun start ↦ ?_⟩
    · intro d hd
      obtain rfl | hd := List.mem_cons.mp hd
      · exact hdigit
      · exact hall d hd
    · rw [Nat.ofDigitChars_cons, ← hvalue, ← hsame, Nat.mul_comm 10 start]
      rfl

theorem le_runValue (start : Nat) (digits : List UInt8) : start ≤ runValue start digits := by
  induction digits generalizing start with
  | nil => exact le_rfl
  | cons b digits ih =>
    have hnext : start * 10 + digitValue b ≤ runValue (start * 10 + digitValue b) digits := ih _
    change start ≤ runValue (start * 10 + digitValue b) digits
    omega

theorem runValue_lt (start : Nat) {digits : List UInt8} (hdigits : ∀ b ∈ digits, isDigit b = true) :
    runValue start digits < (start + 1) * 10 ^ digits.length := by
  induction digits generalizing start with
  | nil => simp [runValue]
  | cons b digits ih =>
    have hb : digitValue b ≤ 9 := by
      have hdigit := hdigits b List.mem_cons_self
      simp only [isDigit, Bool.and_eq_true, decide_eq_true_eq, UInt8.le_iff_toNat_le] at hdigit
      have hlimit : b.toNat ≤ 57 := hdigit.2
      rw [digitValue]
      omega
    calc runValue start (b :: digits)
        < (start * 10 + digitValue b + 1) * 10 ^ digits.length :=
          ih (start * 10 + digitValue b) fun d hd ↦ hdigits d (List.mem_cons_of_mem b hd)
      _ ≤ (start + 1) * 10 * 10 ^ digits.length := Nat.mul_le_mul_right _ (by omega)
      _ = (start + 1) * 10 ^ (b :: digits).length := by rw [List.length_cons]; ring

/-- Digits that make no more than the largest significand all fit. -/
theorem gather_digits {start : Nat} {digits : List UInt8}
    (hdigits : ∀ b ∈ digits, isDigit b = true) (hfits : runValue start digits ≤ largestNatural) :
    gather start digits = (runValue start digits, []) := by
  induction digits generalizing start with
  | nil => rfl
  | cons b digits ih =>
    have hrest := ih (fun d hd ↦ hdigits d (List.mem_cons_of_mem b hd)) hfits
    have hstep : start * 10 + digitValue b ≤ largestNatural := (le_runValue _ digits).trans hfits
    rw [gather, hdigits b List.mem_cons_self, Bool.true_and, if_pos (by simpa using hstep)]
    exact hrest

theorem digitBytes_spec (n : Nat) :
    (∀ b ∈ digitBytes n, isDigit b = true) ∧ runValue 0 (digitBytes n) = n ∧
      (digitBytes n).length = (Nat.toDigits 10 n).length := by
  have hchars : ∀ c ∈ Nat.toDigits 10 n, c.isDigit = true := fun c hc ↦
    Nat.isDigit_of_mem_toDigits (by decide) (by decide) hc
  obtain ⟨hall, hlength, hvalue⟩ := encodeText_digits hchars
  exact ⟨hall, (hvalue 0).trans (Nat.ofDigitChars_toDigits (by decide) (by decide)), hlength⟩

/-- No zero leads the digits of a number, but for the one of zero. -/
theorem digitBytes_eq_cons {n : Nat} {b : UInt8} {digits : List UInt8}
    (h : digitBytes n = b :: digits) : b = '0'.toUInt8 → digits = [] := by
  rintro rfl
  obtain ⟨hall, hvalue, hlength⟩ := digitBytes_spec n
  rw [h] at hall hvalue hlength
  by_contra hsome
  have hpositive : 0 < digits.length := List.length_pos_iff.mpr hsome
  have hbound : n < 10 ^ digits.length := by
    have hlimit := runValue_lt 0 fun d hd ↦ hall d (List.mem_cons_of_mem _ hd)
    rw [Nat.zero_add, Nat.one_mul] at hlimit
    calc n = runValue 0 digits := hvalue.symm
      _ < 10 ^ digits.length := hlimit
  rw [← Nat.length_toDigits_le_iff (by decide) hpositive, ← hlength, List.length_cons] at hbound
  omega

theorem exists_digitBytes (n : Nat) : ∃ b digits, digitBytes n = b :: digits := by
  apply List.exists_cons_of_ne_nil
  intro hnil
  have hlength := (digitBytes_spec n).2.2
  rw [hnil] at hlength
  exact Nat.toDigits_ne_nil (List.length_eq_zero_iff.mp hlength.symm)

/-! ### Integers -/

/-- The digits of a number that fits are read as the number. -/
theorem readNumber_digitBytes (negative : Bool) {n : Nat} (hfits : n ≤ largestNatural) :
    readNumber negative (digitBytes n) = .ok (wholeNumber negative n, []) := by
  obtain ⟨hall, hvalue, -⟩ := digitBytes_spec n
  obtain ⟨b, digits, hbytes⟩ := exists_digitBytes n
  rw [hbytes] at hall hvalue
  have hdigits : ∀ d ∈ digits, isDigit d = true := fun d hd ↦ hall d (List.mem_cons_of_mem b hd)
  have hrun : runValue (digitValue b) digits = n := by
    simpa [runValue] using hvalue
  have hgather : gather (digitValue b) digits = (n, []) := by
    rw [gather_digits hdigits (hrun.trans_le hfits), hrun]
  have hread : readNumber negative (b :: (digits ++ [])) = _ :=
    readNumber_run (hall b List.mem_cons_self) hdigits (digitBytes_eq_cons hbytes) ends_nil.endsRun
  rw [List.append_nil, hgather] at hread
  rw [hbytes, hread]
  rfl

/-- The bytes of the decimal text of an integer. -/
def decimalBytes (n : Int) : List UInt8 := Text.encodeText (toString n).toList

@[simp]
theorem decimalBytes_ofNat (n : Nat) : decimalBytes n = digitBytes n := by
  simp [decimalBytes, digitBytes, toString, Int.repr]

theorem decimalBytes_negSucc (n : Nat) :
    decimalBytes (Int.negSucc n) = '-'.toUInt8 :: digitBytes (n + 1) := by
  have htext : (toString (Int.negSucc n)).toList = '-' :: Nat.toDigits 10 (n + 1) := by
    simp [toString, Int.repr]
  rw [decimalBytes, htext]
  rfl

/-- The decimal text of an integer is read as the integer. -/
theorem readScalar_decimal {n : Int} (hlow : -2 ^ 63 ≤ n) (hhigh : n < 2 ^ 64) :
    readScalar (decimalBytes n) = .ok (.number (.ofInt n), []) := by
  cases n with
  | ofNat n =>
    have hfits : n ≤ largestNatural := by
      have hn : n < 2 ^ 64 := by
        rw [Int.ofNat_eq_natCast] at hhigh
        exact_mod_cast hhigh
      exact Nat.le_sub_one_of_lt hn
    obtain ⟨b, digits, hbytes⟩ := exists_digitBytes n
    have hb : isDigit b = true := (digitBytes_spec n).1 b (hbytes ▸ List.mem_cons_self)
    rw [Int.ofNat_eq_natCast, decimalBytes_ofNat, hbytes, readScalar_of_isDigit hb, ← hbytes,
      readNumber_digitBytes false hfits]
    rfl
  | negSucc n =>
    have hmagnitude : n + 1 ≤ largestNegative := by
      have hn : n + 1 ≤ 2 ^ 63 := by omega
      exact hn
    have hfits : n + 1 ≤ largestNatural := hmagnitude.trans (by decide)
    have hread : readScalar ('-'.toUInt8 :: digitBytes (n + 1)) =
        (readNumber true (digitBytes (n + 1))).map fun read ↦ (.number read.1, read.2) := rfl
    have hkept : ¬ (n + 1 = 0 ∨ largestNegative < n + 1) := by
      rw [not_or, Nat.not_lt]
      exact ⟨Nat.succ_ne_zero n, hmagnitude⟩
    have hwhole : wholeNumber true (n + 1) = .negative (n + 1) := by
      rw [wholeNumber, if_neg (by decide), if_neg hkept]
    rw [decimalBytes_negSucc, hread, readNumber_digitBytes true hfits, hwhole]
    rfl

/-- An integer is shown by its decimal text. -/
@[simp]
theorem text_ofInt (n : Int) : (Number.ofInt n).text = (toString n).toList := by
  cases n with
  | ofNat n => simp [Number.ofInt, Number.text, Numeric.digitsOf, toString, Int.repr]
  | negSucc n => simp [Number.ofInt, Number.text, Numeric.digitsOf, toString, Int.repr]

@[simp]
theorem isZero_ofInt (n : Int) : (Number.ofInt n).isZero = decide (n = 0) := by
  cases n with
  | ofNat n => simp [Number.ofInt, Number.isZero, beq_eq_decide]
  | negSucc n => simp [Number.ofInt, Number.isZero]

end LiveBoard.Json
