import LiveBoard.Proofs.Json.Integers
import LiveBoard.Proofs.Text.Utf8
import Mathlib.Algebra.Field.Rat

/-!
# The spelling of numbers

A `Numeral` is a number as it is spelled: a sign, digits without a leading zero, and perhaps a
fraction and an exponent. `Numeral.value` is the exact number that it means, and `Numeral.number?`
is what the reader makes of it: `readScalar_eq_number_iff` says that the numbers that are read are
the spelled ones, each as what is made of its spelling.
-/

set_option autoImplicit false
set_option relaxedAutoImplicit false

namespace LiveBoard.Json

/-! ### Numerals -/

/-- The sign of an exponent. -/
inductive ExponentSign
  /-- No sign. -/
  | absent
  /-- A plus sign. -/
  | plus
  /-- A minus sign. -/
  | minus
  deriving DecidableEq, Repr

/-- The text of a sign. -/
def ExponentSign.text : ExponentSign → List Char
  | .absent => []
  | .plus => ['+']
  | .minus => ['-']

/-- An exponent as it is spelled. -/
structure Exponent where
  /-- Whether its letter is the capital one. -/
  capital : Bool
  /-- Its sign. -/
  sign : ExponentSign
  /-- Its digits. -/
  digits : List Char
  /-- There are digits. -/
  digits_ne_nil : digits ≠ []
  /-- The digits are digits. -/
  isDigit_of_mem : ∀ c ∈ digits, c.isDigit = true

/-- The text of an exponent. -/
def Exponent.text (exponent : Exponent) : List Char :=
  (if exponent.capital then 'E' else 'e') :: (exponent.sign.text ++ exponent.digits)

/-- The number of the digits of an exponent. -/
def Exponent.magnitude (exponent : Exponent) : Nat := Nat.ofDigitChars 10 exponent.digits 0

/-- The power of ten that an exponent means. -/
def Exponent.power (exponent : Exponent) : Int :=
  if exponent.sign = .minus then -exponent.magnitude else exponent.magnitude

/-- The power of ten of an exponent that may be absent. -/
def exponentPower (exponent : Option Exponent) : Int := (exponent.map Exponent.power).getD 0

/-- A number as it is spelled. -/
structure Numeral where
  /-- Whether its sign is minus. -/
  negative : Bool
  /-- The digits of its integer part. -/
  whole : List Char
  /-- The digits after its point, none where it has no point. -/
  fraction : List Char
  /-- Its exponent. -/
  exponent : Option Exponent
  /-- There is an integer part. -/
  whole_ne_nil : whole ≠ []
  /-- A leading zero stands alone. -/
  eq_nil_of_leading_zero : ∀ rest, whole = '0' :: rest → rest = []
  /-- The digits of the integer part are digits. -/
  isDigit_whole : ∀ c ∈ whole, c.isDigit = true
  /-- The digits after the point are digits. -/
  isDigit_fraction : ∀ c ∈ fraction, c.isDigit = true

/-- The text of a fraction. -/
def fractionText (fraction : List Char) : List Char :=
  if fraction = [] then [] else '.' :: fraction

/-- The text of an exponent that may be absent. -/
def exponentText? (exponent : Option Exponent) : List Char :=
  (exponent.map Exponent.text).getD []

/-- The text of a numeral without its sign. -/
def Numeral.unsignedText (numeral : Numeral) : List Char :=
  numeral.whole ++ (fractionText numeral.fraction ++ exponentText? numeral.exponent)

/-- The text of a numeral. -/
def Numeral.text (numeral : Numeral) : List Char :=
  if numeral.negative then '-' :: numeral.unsignedText else numeral.unsignedText

/-- The number of all digits of a numeral but those of its exponent. -/
def Numeral.significand (numeral : Numeral) : Nat :=
  Nat.ofDigitChars 10 (numeral.whole ++ numeral.fraction) 0

/-- The power of ten that scales the significand of a numeral. -/
def Numeral.scale (numeral : Numeral) : Int :=
  exponentPower numeral.exponent - numeral.fraction.length

/-- The exact number that a numeral means, but for its sign. -/
def Numeral.magnitude (numeral : Numeral) : ℚ := numeral.significand * 10 ^ numeral.scale

/-- The exact number that a numeral means. -/
def Numeral.value (numeral : Numeral) : ℚ :=
  if numeral.negative then -numeral.magnitude else numeral.magnitude

/-- The numeral has neither a fraction nor an exponent. -/
def Numeral.IsInteger (numeral : Numeral) : Prop :=
  numeral.fraction = [] ∧ numeral.exponent = none

/-- A power of ten by its exponent. -/
def Numeral.powerOfTen (exponent : Exponent) : Numeral where
  negative := false
  whole := ['1']
  fraction := []
  exponent := some exponent
  whole_ne_nil := List.cons_ne_nil _ _
  eq_nil_of_leading_zero := by
    rintro rest ⟨⟩
  isDigit_whole := List.all_eq_true.mp (by decide)
  isDigit_fraction := List.all_eq_true.mp (by decide)

@[simp]
theorem Numeral.powerOfTen_value (exponent : Exponent) :
    (powerOfTen exponent).value = 10 ^ exponent.power := by
  have hone : (powerOfTen exponent).significand = 1 := rfl
  have hscale : (powerOfTen exponent).scale = exponent.power := sub_zero _
  change (powerOfTen exponent).magnitude = _
  rw [Numeral.magnitude, hone, hscale, Nat.cast_one, one_mul]

/-! ### What is made of a numeral -/

/-- The significand that is gathered from an integer part, and the number of digits that did not
fit. -/
def gatherWhole (whole : List Char) : Nat × Nat :=
  let (significand, unfit) := gather 0 (Text.encodeText whole)
  (significand, unfit.length)

/-- The significand that a fraction makes of the one in front of it, and the number of its digits
that fit. -/
def gatherFraction (significand : Nat) (fraction : List Char) : Nat × Nat :=
  let (longer, unfit) := gather significand (Text.encodeText fraction)
  (longer, fraction.length - unfit.length)

/-- The significand of a numeral as far as it fits. -/
def Numeral.gathered (numeral : Numeral) : Nat :=
  (gatherFraction (gatherWhole numeral.whole).1 numeral.fraction).1

/-- The power of ten that belongs to the gathered significand, without the exponent. -/
def Numeral.shift (numeral : Numeral) : Int :=
  (gatherWhole numeral.whole).2 -
    (gatherFraction (gatherWhole numeral.whole).1 numeral.fraction).2

/-- The magnitude of a significand and a shift with an exponent that may be absent. -/
def exponentUnits? (significand : Nat) (shift : Int) : Option Exponent → Option Nat
  | none => Numeric.scaled? significand shift
  | some exponent =>
    if exponent.magnitude ≤ largestExponent then
      Numeric.scaled? significand (saturated (shift + exponent.power))
    else if exponent.sign ≠ .minus ∧ significand ≠ 0 then none
    else some 0

/-- What the reader makes of a numeral, none where it is out of range. -/
def Numeral.number? (numeral : Numeral) : Option Number :=
  if numeral.fraction = [] ∧ numeral.exponent = none ∧ (gatherWhole numeral.whole).2 = 0 then
    some (wholeNumber numeral.negative numeral.gathered)
  else
    (exponentUnits? numeral.gathered numeral.shift numeral.exponent).map fun units ↦
      .double ⟨numeral.negative, units⟩

/-! ### Numerals are read -/

/-- Reading all bytes gives a number, or fails where there is none. -/
def Yields (reading : Reading Number) (number : Option Number) : Prop :=
  ∀ value, reading = .ok (value, []) ↔ number = some value

section Reading

variable {negative : Bool} {significand : Nat}

theorem yields_ok (value : Number) : Yields (.ok (value, [])) (some value) := by
  intro other
  simp

theorem yields_error (stop : Stop) : Yields (.error stop) none := by
  intro other
  simp

theorem yields_finishDouble (negative : Bool) (significand : Nat) (exponent : Int) :
    Yields (finishDouble negative significand exponent [])
      ((Numeric.scaled? significand exponent).map fun units ↦ .double ⟨negative, units⟩) := by
  unfold finishDouble
  cases Numeric.scaled? significand exponent with
  | none => exact yields_error _
  | some units => exact yields_ok _

/-- The digits of an exponent are read as their number, unless it is too large. -/
theorem readExponentDigits_fst {start : Nat} {digits : List UInt8}
    (hdigits : ∀ b ∈ digits, isDigit b = true) (hstart : start ≤ largestExponent) :
    (readExponentDigits start digits).1 =
      if runValue start digits ≤ largestExponent then some (runValue start digits) else none := by
  induction digits generalizing start with
  | nil => exact (if_pos hstart).symm
  | cons b digits ih =>
    have hrun : runValue start (b :: digits) = runValue (start * 10 + digitValue b) digits := rfl
    rw [readExponentDigits, if_pos (hdigits b List.mem_cons_self), hrun]
    by_cases hfits : start * 10 + digitValue b ≤ largestExponent
    · rw [if_pos hfits, ih (fun d hd ↦ hdigits d (List.mem_cons_of_mem b hd)) hfits]
    · have hlarge := le_runValue (start * 10 + digitValue b) digits
      rw [if_neg hfits, if_neg (by omega)]

/-- The bytes of digits, of which there are some. -/
theorem exists_digitRun {digits : List Char} (hsome : digits ≠ [])
    (hdigits : ∀ c ∈ digits, c.isDigit = true) :
    ∃ b rest, Text.encodeText digits = b :: rest ∧ isDigit b = true ∧
      (∀ d ∈ rest, isDigit d = true) ∧
      runValue (digitValue b) rest = Nat.ofDigitChars 10 digits 0 := by
  obtain ⟨hall, hlength, hvalue⟩ := encodeText_digits hdigits
  have hbytes : Text.encodeText digits ≠ [] := by
    intro hnil
    rw [hnil] at hlength
    exact hsome (List.length_eq_zero_iff.mp hlength.symm)
  obtain ⟨b, rest, hcons⟩ := List.exists_cons_of_ne_nil hbytes
  have hrun := hvalue 0
  rw [hcons] at hall hrun
  refine ⟨b, rest, hcons, hall b List.mem_cons_self,
    fun d hd ↦ hall d (List.mem_cons_of_mem b hd), ?_⟩
  rw [runValue, List.foldl_cons, Nat.zero_mul, Nat.zero_add] at hrun
  exact hrun

theorem readExponentSign_text (sign : ExponentSign) {b : UInt8} (hb : isDigit b = true)
    (rest : List UInt8) :
    readExponentSign (Text.encodeText sign.text ++ b :: rest) =
      (decide (sign = .minus), b :: rest) := by
  cases sign with
  | absent =>
    have hminus := byte_ne_of_isDigit hb (c := '-'.toUInt8) (by decide)
    have hplus := byte_ne_of_isDigit hb (c := '+'.toUInt8) (by decide)
    simp [ExponentSign.text, Text.encodeText, readExponentSign, hminus, hplus]
  | plus => rfl
  | minus => rfl

/-- An exponent is read after its letter. -/
theorem yields_readExponent (negative : Bool) (significand : Nat) (shift : Int)
    (exponent : Exponent) :
    Yields (readExponent negative significand shift
        (Text.encodeText (exponent.sign.text ++ exponent.digits)))
      ((exponentUnits? significand shift exponent).map fun units ↦ .double ⟨negative, units⟩) := by
  obtain ⟨b, rest, hbytes, hb, hrest, hvalue⟩ :=
    exists_digitRun exponent.digits_ne_nil exponent.isDigit_of_mem
  change runValue (digitValue b) rest = exponent.magnitude at hvalue
  have hfirst : digitValue b ≤ largestExponent := by
    have hbyte := b.toNat_lt
    have hlimit : 255 ≤ largestExponent := by decide
    rw [digitValue]
    omega
  have hsign := readExponentSign_text exponent.sign hb (rest ++ [])
  have hread : readExponent negative significand shift
      (Text.encodeText exponent.sign.text ++ b :: (rest ++ [])) = _ :=
    readExponent_run shift hsign hb hrest ends_nil.endsRun
  have hfits := readExponentDigits_fst hrest hfirst
  rw [hvalue] at hfits
  rw [Text.encodeText_append, hbytes, ← List.append_nil rest, hread]
  generalize readExponentDigits (digitValue b) rest = result at hfits
  obtain ⟨found, unread⟩ := result
  dsimp only at hfits
  subst hfits
  unfold exponentUnits?
  by_cases hmagnitude : exponent.magnitude ≤ largestExponent
  · rw [if_pos hmagnitude]
    dsimp only
    rw [if_pos hmagnitude]
    have hpower : (if decide (exponent.sign = .minus) = true then shift - exponent.magnitude
        else shift + exponent.magnitude) = shift + exponent.power := by
      unfold Exponent.power
      simp only [decide_eq_true_eq]
      split_ifs <;> rfl
    rw [hpower]
    exact yields_finishDouble negative significand _
  · rw [if_neg hmagnitude]
    dsimp only
    rw [if_neg hmagnitude]
    by_cases hlarge : exponent.sign ≠ .minus ∧ significand ≠ 0
    · rw [if_pos hlarge, if_pos (by simpa using hlarge)]
      exact yields_error _
    · rw [if_neg hlarge, if_neg (by simpa using hlarge)]
      exact yields_ok _

/-- What follows the digits of a double is read. -/
theorem yields_readScale (negative : Bool) (significand : Nat) (shift : Int)
    (exponent : Option Exponent) :
    Yields (readScale negative significand shift (Text.encodeText (exponentText? exponent)))
      ((exponentUnits? significand shift exponent).map fun units ↦ .double ⟨negative, units⟩) := by
  cases exponent with
  | none => exact yields_finishDouble negative significand shift
  | some exponent =>
    have hexponent := yields_readExponent negative significand shift exponent
    have hread : readScale negative significand shift
        (Text.encodeText (exponentText? (some exponent))) =
        readExponent negative significand shift
          (Text.encodeText (exponent.sign.text ++ exponent.digits)) := by
      cases hcapital : exponent.capital <;>
        simp [exponentText?, Exponent.text, hcapital, Text.encodeText, readScale] <;> rfl
    rw [hread]
    exact hexponent

/-- The bytes of an exponent do not go on with a run of digits. -/
theorem endsRun_exponentText (exponent : Option Exponent) :
    EndsRun (Text.encodeText (exponentText? exponent)) := by
  intro b hb
  cases exponent with
  | none => cases hb
  | some exponent =>
    cases hcapital : exponent.capital <;>
      simp [exponentText?, Exponent.text, hcapital, Text.encodeText, Text.encodeChar] at hb <;>
      rw [← hb] <;> decide

/-- A fraction is read after its point. -/
theorem yields_readFraction (negative : Bool) (significand : Nat) (start : Int)
    {fraction : List Char} (hsome : fraction ≠ []) (hdigits : ∀ c ∈ fraction, c.isDigit = true)
    (exponent : Option Exponent) :
    Yields (readFraction negative significand start
        (Text.encodeText (fraction ++ exponentText? exponent)))
      ((exponentUnits? (gatherFraction significand fraction).1
        (start - (gatherFraction significand fraction).2) exponent).map fun units ↦
          .double ⟨negative, units⟩) := by
  obtain ⟨hall, hlength, -⟩ := encodeText_digits hdigits
  obtain ⟨b, rest, hcons, -⟩ := exists_digitRun hsome hdigits
  have hbytes : Text.encodeText fraction ≠ [] := by
    rw [hcons]
    exact List.cons_ne_nil b rest
  rw [Text.encodeText_append, readFraction_run start hbytes hall (endsRun_exponentText exponent),
    hlength]
  exact yields_readScale negative _ _ exponent

/-- What follows the integer part of a numeral is read. -/
theorem yields_readTail (numeral : Numeral) :
    Yields (readTail numeral.negative (gatherWhole numeral.whole).1 (gatherWhole numeral.whole).2
        (Text.encodeText (fractionText numeral.fraction ++ exponentText? numeral.exponent)))
      numeral.number? := by
  unfold Numeral.number? Numeral.gathered Numeral.shift
  by_cases hfraction : numeral.fraction = []
  · have hnone : ∀ significand, gatherFraction significand numeral.fraction = (significand, 0) := by
      intro significand
      rw [hfraction]
      rfl
    rw [hnone]
    dsimp only
    rw [hfraction, fractionText, if_pos rfl, List.nil_append, Nat.cast_zero, sub_zero]
    cases hexponent : numeral.exponent with
    | none =>
      have hplain : readTail numeral.negative (gatherWhole numeral.whole).1
          (gatherWhole numeral.whole).2 [] = _ :=
        readTail_of_plain _ fun b hb ↦ by cases hb
      change Yields (readTail _ _ _ []) _
      rw [hplain]
      by_cases hfits : (gatherWhole numeral.whole).2 = 0
      · rw [if_pos hfits, if_pos ⟨rfl, rfl, hfits⟩]
        exact yields_ok _
      · rw [if_neg hfits, if_neg fun h ↦ hfits h.2.2]
        exact yields_finishDouble _ _ _
    | some exponent =>
      have hread : readTail numeral.negative (gatherWhole numeral.whole).1
          (gatherWhole numeral.whole).2 (Text.encodeText (exponentText? (some exponent))) =
          readExponent numeral.negative (gatherWhole numeral.whole).1
            (gatherWhole numeral.whole).2
            (Text.encodeText (exponent.sign.text ++ exponent.digits)) := by
        cases hcapital : exponent.capital <;>
          simp [exponentText?, Exponent.text, hcapital, Text.encodeText, readTail] <;> rfl
      rw [hread, if_neg fun h ↦ by cases h.2.1]
      exact yields_readExponent _ _ _ exponent
  · have hread : readTail numeral.negative (gatherWhole numeral.whole).1
        (gatherWhole numeral.whole).2
        (Text.encodeText (fractionText numeral.fraction ++ exponentText? numeral.exponent)) =
        readFraction numeral.negative (gatherWhole numeral.whole).1
          (gatherWhole numeral.whole).2
          (Text.encodeText (numeral.fraction ++ exponentText? numeral.exponent)) := by
      rw [fractionText, if_neg hfraction]
      rfl
    rw [hread, if_neg fun h ↦ hfraction h.1]
    exact yields_readFraction _ _ _ hfraction numeral.isDigit_fraction numeral.exponent

theorem eq_zero_of_encodeChar {c : Char} (hc : c.isDigit = true) {b : UInt8}
    (hb : Text.encodeChar c = [b]) : b = '0'.toUInt8 → c = '0' := by
  rintro rfl
  obtain ⟨hlow, hhigh⟩ : 48 ≤ c.toNat ∧ c.toNat ≤ 57 := Char.isDigit_iff_toNat.mp hc
  rw [Text.encodeChar, if_pos (by omega), List.cons.injEq] at hb
  have hcode := congrArg UInt8.toNat hb.1
  rw [Text.toNat_byte (by omega)] at hcode
  exact Char.toNat_inj.mp hcode

/-- The bytes after the integer part of a numeral do not go on with it. -/
theorem endsRun_afterWhole (fraction : List Char) (exponent : Option Exponent) :
    EndsRun (Text.encodeText (fractionText fraction ++ exponentText? exponent)) := by
  by_cases hfraction : fraction = []
  · rw [fractionText, if_pos hfraction, List.nil_append]
    exact endsRun_exponentText exponent
  · rw [fractionText, if_neg hfraction]
    intro b hb
    have hpoint : b = '.'.toUInt8 := (Option.some.inj hb).symm
    rw [hpoint]
    decide

/-- A numeral is read after its sign. -/
theorem yields_readNumber (numeral : Numeral) :
    Yields (readNumber numeral.negative (Text.encodeText numeral.unsignedText))
      numeral.number? := by
  obtain ⟨b, rest, hbytes, hb, hrest, -⟩ :=
    exists_digitRun numeral.whole_ne_nil numeral.isDigit_whole
  have hzero : b = '0'.toUInt8 → rest = [] := by
    intro hleading
    obtain ⟨c, whole, hwhole⟩ := List.exists_cons_of_ne_nil numeral.whole_ne_nil
    have hc := numeral.isDigit_whole c (hwhole ▸ List.mem_cons_self)
    obtain ⟨d, hd, -⟩ := encodeChar_of_isDigit hc
    rw [hwhole, Text.encodeText_cons, hd, List.singleton_append] at hbytes
    obtain ⟨rfl, rfl⟩ := List.cons.inj hbytes
    obtain rfl := eq_zero_of_encodeChar hc hd hleading
    rw [numeral.eq_nil_of_leading_zero whole hwhole]
    rfl
  have hgather : gather 0 (b :: rest) = gather (digitValue b) rest := by
    have hbyte := b.toNat_lt
    have hlimit : 255 ≤ largestNatural := by decide
    have hfits : 0 * 10 + digitValue b ≤ largestNatural := by
      rw [digitValue]
      omega
    rw [gather, hb, Bool.true_and, if_pos (by simpa using hfits), Nat.zero_mul, Nat.zero_add]
  have hread : readNumber numeral.negative (b :: (rest ++ Text.encodeText
      (fractionText numeral.fraction ++ exponentText? numeral.exponent))) = _ :=
    readNumber_run hb hrest hzero (endsRun_afterWhole numeral.fraction numeral.exponent)
  rw [Numeral.unsignedText, Text.encodeText_append, hbytes, List.cons_append, hread]
  have htail := yields_readTail numeral
  rw [gatherWhole, hbytes, hgather] at htail
  exact htail

theorem map_number_eq_ok {reading : Reading Number} {number : Number} {rest : List UInt8} :
    (reading.map fun read ↦ (Value.number read.1, read.2)) = .ok (.number number, rest) ↔
      reading = .ok (number, rest) := by
  cases reading with
  | error stop => simp [Except.map]
  | ok read =>
    obtain ⟨value, more⟩ := read
    simp [Except.map]

/-- The text of a numeral starts with its sign or a digit. -/
theorem Numeral.exists_cons (numeral : Numeral) :
    ∃ b rest, Text.encodeText numeral.text = b :: rest ∧ startsScalar b = true := by
  unfold Numeral.text
  cases numeral.negative with
  | true => exact ⟨'-'.toUInt8, _, rfl, by decide⟩
  | false =>
    obtain ⟨b, rest, hbytes, hb, -⟩ :=
      exists_digitRun numeral.whole_ne_nil numeral.isDigit_whole
    refine ⟨b, rest ++ Text.encodeText (fractionText numeral.fraction ++
      exponentText? numeral.exponent), ?_, by simp [startsScalar, hb]⟩
    rw [if_neg (by decide), Numeral.unsignedText, Text.encodeText_append, hbytes, List.cons_append]

/-- The text of a numeral is read as its sign says. -/
theorem readScalar_text (numeral : Numeral) :
    readScalar (Text.encodeText numeral.text) =
      (readNumber numeral.negative (Text.encodeText numeral.unsignedText)).map fun read ↦
        (.number read.1, read.2) := by
  unfold Numeral.text
  cases hnegative : numeral.negative with
  | true => rfl
  | false =>
    obtain ⟨b, rest, hbytes, hb, -⟩ :=
      exists_digitRun numeral.whole_ne_nil numeral.isDigit_whole
    rw [if_neg (by decide), Numeral.unsignedText, Text.encodeText_append, hbytes, List.cons_append,
      readScalar_of_isDigit hb]

/-- A numeral is read as what is made of it. -/
theorem readScalar_numeral (numeral : Numeral) (number : Number) :
    readScalar (Text.encodeText numeral.text) = .ok (.number number, []) ↔
      numeral.number? = some number := by
  rw [readScalar_text, map_number_eq_ok, yields_readNumber numeral number]

end Reading

/-! ### What is read is a numeral -/

section Spelling

variable {negative : Bool} {significand : Nat} {bytes : List UInt8} {number : Number}

/-- The byte of a digit spells a digit. -/
theorem exists_digit {b : UInt8} (hb : isDigit b = true) :
    ∃ c : Char, c.isDigit = true ∧ Text.encodeChar c = [b] := by
  obtain ⟨hlow, hhigh⟩ : 48 ≤ b.toNat ∧ b.toNat ≤ 57 := by
    simpa [isDigit, UInt8.le_iff_toNat_le] using hb
  have hvalid : b.toNat.isValidChar := Or.inl (by omega)
  have hcode : (Char.ofNat b.toNat).toNat = b.toNat := by
    rw [Char.ofNat, dif_pos hvalid]
    rfl
  refine ⟨Char.ofNat b.toNat, Char.isDigit_iff_toNat.mpr ?_, ?_⟩
  · rw [hcode]
    exact ⟨hlow, hhigh⟩
  · rw [Text.encodeChar, hcode, if_pos (by omega), UInt8.ofNat_toNat]

/-- The bytes of a run of digits spell digits. -/
theorem exists_digits {digits : List UInt8} (hdigits : ∀ b ∈ digits, isDigit b = true) :
    ∃ chars : List Char, (∀ c ∈ chars, c.isDigit = true) ∧ Text.encodeText chars = digits := by
  induction digits with
  | nil => exact ⟨[], by simp, rfl⟩
  | cons b rest ih =>
    obtain ⟨c, hc, hb⟩ := exists_digit (hdigits b List.mem_cons_self)
    obtain ⟨chars, hchars, hrest⟩ := ih fun d hd ↦ hdigits d (List.mem_cons_of_mem b hd)
    refine ⟨c :: chars, List.forall_mem_cons.mpr ⟨hc, hchars⟩, ?_⟩
    change Text.encodeChar c ++ Text.encodeText chars = b :: rest
    rw [hb, hrest]
    rfl

theorem encodeText_ne_nil {text : List Char} (h : Text.encodeText text ≠ []) : text ≠ [] := by
  rintro rfl
  exact h rfl

/-- The bytes of an exponent after its letter spell its sign and its digits. -/
theorem exists_of_readExponentSign {down : Bool} {b : UInt8} {rest : List UInt8}
    (h : readExponentSign bytes = (down, b :: rest)) :
    ∃ sign : ExponentSign, bytes = Text.encodeText sign.text ++ b :: rest := by
  cases bytes with
  | nil => cases h
  | cons c following =>
    rw [readExponentSign] at h
    split_ifs at h with hminus hplus
    · obtain rfl := eq_of_beq hminus
      cases h
      exact ⟨.minus, rfl⟩
    · obtain rfl := eq_of_beq hplus
      cases h
      exact ⟨.plus, rfl⟩
    · cases h
      exact ⟨.absent, rfl⟩

/-- What is read after the letter of an exponent spells one. -/
theorem exists_of_readExponent (capital : Bool) {shift : Int}
    (h : readExponent negative significand shift bytes = .ok (number, [])) :
    ∃ exponent : Exponent, exponent.capital = capital ∧
      bytes = Text.encodeText (exponent.sign.text ++ exponent.digits) := by
  have hsigned : ∃ down b following,
      readExponentSign bytes = (down, b :: following) ∧ isDigit b = true := by
    unfold readExponent at h
    split at h
    case h_1 => cases h
    case h_2 down b following hsign =>
      by_cases hb : isDigit b = true
      · exact ⟨down, b, following, hsign, hb⟩
      · rw [if_neg hb] at h
        cases h
  obtain ⟨down, b, following, hsign, hb⟩ := hsigned
  obtain ⟨run, tail, rfl, hrun, htail⟩ := exists_run following
  have hend : tail = [] := by
    rw [readExponent_run shift hsign hb hrun htail] at h
    split at h
    case h_1 => exact (finishDouble_eq_ok h).1
    case h_2 =>
      split_ifs at h
      cases h
      rfl
  subst hend
  obtain ⟨sign, rfl⟩ := exists_of_readExponentSign hsign
  obtain ⟨digits, hdigits, hbytes⟩ := exists_digits (List.forall_mem_cons.mpr ⟨hb, hrun⟩)
  have hsome : digits ≠ [] := encodeText_ne_nil (hbytes ▸ List.cons_ne_nil b run)
  refine ⟨⟨capital, sign, digits, hsome, hdigits⟩, rfl, ?_⟩
  rw [Text.encodeText_append, hbytes, List.append_nil]

theorem exists_capital {b : UInt8} (hb : isExponentMark b = true) :
    ∃ capital : Bool, Text.encodeChar (if capital then 'E' else 'e') = [b] := by
  obtain hsmall | hcapital := Bool.or_eq_true_iff.mp hb
  · obtain rfl := eq_of_beq hsmall
    exact ⟨false, rfl⟩
  · obtain rfl := eq_of_beq hcapital
    exact ⟨true, rfl⟩

/-- An exponent is spelled from its letter on. -/
theorem exists_of_exponentMark {b : UInt8} {rest : List UInt8} {shift : Int}
    (hb : isExponentMark b = true)
    (h : readExponent negative significand shift rest = .ok (number, [])) :
    ∃ exponent : Exponent, b :: rest = Text.encodeText (exponentText? (some exponent)) := by
  obtain ⟨capital, hletter⟩ := exists_capital hb
  obtain ⟨exponent, rfl, rfl⟩ := exists_of_readExponent capital h
  refine ⟨exponent, ?_⟩
  change _ = Text.encodeText exponent.text
  rw [Exponent.text, Text.encodeText_cons, hletter, List.singleton_append]

/-- What is read after the digits of a double spells an exponent or nothing. -/
theorem exists_of_readScale {shift : Int}
    (h : readScale negative significand shift bytes = .ok (number, [])) :
    ∃ exponent : Option Exponent, bytes = Text.encodeText (exponentText? exponent) := by
  by_cases hplain : ∀ b, bytes.head? = some b → isExponentMark b = false
  · rw [readScale_of_plain shift hplain] at h
    exact ⟨none, (finishDouble_eq_ok h).1⟩
  · obtain ⟨b, hb, hmark⟩ := by simpa only [not_forall, exists_prop] using hplain
    obtain ⟨rest, rfl⟩ := List.head?_eq_some_iff.mp hb
    replace hmark : isExponentMark b = true := by simpa using hmark
    have hread : readExponent negative significand shift rest = .ok (number, []) := by
      rw [← h]
      exact (if_pos hmark).symm
    obtain ⟨exponent, hbytes⟩ := exists_of_exponentMark hmark hread
    exact ⟨some exponent, hbytes⟩

/-- What is read after a point spells a fraction, and perhaps an exponent. -/
theorem exists_of_readFraction {shift : Int}
    (h : readFraction negative significand shift bytes = .ok (number, [])) :
    ∃ fraction : List Char, fraction ≠ [] ∧ (∀ c ∈ fraction, c.isDigit = true) ∧
      ∃ exponent : Option Exponent,
        bytes = Text.encodeText (fraction ++ exponentText? exponent) := by
  obtain ⟨run, tail, rfl, hrun, htail⟩ := exists_run bytes
  have hsome : run ≠ [] := by
    rintro rfl
    cases tail with
    | nil => cases h
    | cons b tail =>
      have hb : isDigit b = false := htail b rfl
      rw [List.nil_append, readFraction, if_neg (by simp [hb])] at h
      cases h
  rw [readFraction_run shift hsome hrun htail] at h
  obtain ⟨exponent, rfl⟩ := exists_of_readScale h
  obtain ⟨fraction, hfraction, rfl⟩ := exists_digits hrun
  exact ⟨fraction, encodeText_ne_nil hsome, hfraction, exponent, Text.encodeText_append _ _ |>.symm⟩

/-- What is read after an integer part spells the rest of a numeral. -/
theorem exists_of_readTail {dropped : Nat}
    (h : readTail negative significand dropped bytes = .ok (number, [])) :
    ∃ fraction : List Char, (∀ c ∈ fraction, c.isDigit = true) ∧
      ∃ exponent : Option Exponent,
        bytes = Text.encodeText (fractionText fraction ++ exponentText? exponent) := by
  by_cases hplain : ∀ b, bytes.head? = some b →
      (b == '.'.toUInt8) = false ∧ isExponentMark b = false
  · rw [readTail_of_plain dropped hplain] at h
    refine ⟨[], by simp, none, ?_⟩
    split_ifs at h
    · cases h
      rfl
    · exact (finishDouble_eq_ok h).1
  · obtain ⟨b, hb, hmarked⟩ := by simpa only [not_forall, exists_prop] using hplain
    obtain ⟨rest, rfl⟩ := List.head?_eq_some_iff.mp hb
    by_cases hpoint : (b == '.'.toUInt8) = true
    · have hread : readFraction negative significand dropped rest = .ok (number, []) := by
        rw [← h]
        exact (if_pos hpoint).symm
      obtain rfl := eq_of_beq hpoint
      obtain ⟨fraction, hsome, hfraction, exponent, rfl⟩ := exists_of_readFraction hread
      refine ⟨fraction, hfraction, exponent, ?_⟩
      rw [fractionText, if_neg hsome]
      rfl
    · have hmark : isExponentMark b = true := by simpa [hpoint] using hmarked
      have hread : readExponent negative significand dropped rest = .ok (number, []) := by
        rw [← h]
        exact ((if_neg hpoint).trans (if_pos hmark)).symm
      obtain ⟨exponent, hbytes⟩ := exists_of_exponentMark hmark hread
      exact ⟨[], by simp, some exponent, hbytes⟩

/-- What is read as a number after its sign spells a numeral. -/
theorem exists_of_readNumber (h : readNumber negative bytes = .ok (number, [])) :
    ∃ numeral : Numeral, numeral.negative = negative ∧
      bytes = Text.encodeText numeral.unsignedText := by
  cases bytes with
  | nil => cases h
  | cons b following =>
    obtain ⟨run, tail, rfl, hrun, htail⟩ := exists_run following
    have hb : isDigit b = true := by
      by_contra hother
      have hzero : ¬ (b == '0'.toUInt8) = true := by
        intro hzero
        obtain rfl := eq_of_beq hzero
        exact hother (by decide)
      simp [readNumber, hzero, hother] at h
    have hzero : b = '0'.toUInt8 → run = [] := by
      rintro rfl
      cases run with
      | nil => rfl
      | cons d run => simp [readNumber, hrun d List.mem_cons_self] at h
    rw [readNumber_run hb hrun hzero htail] at h
    obtain ⟨fraction, hfraction, exponent, rfl⟩ := exists_of_readTail h
    obtain ⟨c, hc, hbyte⟩ := exists_digit hb
    obtain ⟨rest, hrest, rfl⟩ := exists_digits hrun
    have hleading : ∀ more, c :: rest = '0' :: more → more = [] := by
      intro more hcons
      obtain ⟨rfl, rfl⟩ := List.cons.inj hcons
      have hnil := hzero (List.cons.inj hbyte).1.symm
      by_contra hsome
      obtain ⟨d, digits, hcons, -⟩ := exists_digitRun hsome hrest
      rw [hnil] at hcons
      cases hcons
    refine ⟨⟨negative, c :: rest, fraction, exponent, List.cons_ne_nil c rest, hleading,
      List.forall_mem_cons.mpr ⟨hc, hrest⟩, hfraction⟩, rfl, ?_⟩
    dsimp only [Numeral.unsignedText]
    rw [Text.encodeText_append (c :: rest), Text.encodeText_cons, hbyte, List.singleton_append,
      List.cons_append]

/-- The numbers that are read are the numerals that are spelled, each as what is made of it. -/
theorem readScalar_eq_number_iff :
    readScalar bytes = .ok (.number number, []) ↔
      ∃ numeral : Numeral, bytes = Text.encodeText numeral.text ∧
        numeral.number? = some number := by
  constructor
  case mp =>
    intro h
    have hspelled : ∃ numeral : Numeral, bytes = Text.encodeText numeral.text := by
      obtain ⟨b, following, rfl, hstart⟩ := startsScalar_of_readScalar h
      by_cases hdigit : isDigit b = true
      · rw [readScalar_of_isDigit hdigit, map_number_eq_ok] at h
        obtain ⟨numeral, hnegative, hbytes⟩ := exists_of_readNumber h
        refine ⟨numeral, ?_⟩
        rw [hbytes, Numeral.text, hnegative, if_neg (by decide)]
      · simp only [startsScalar, hdigit, Bool.or_false, Bool.or_eq_true, beq_iff_eq] at hstart
        obtain ((rfl | rfl) | rfl) | rfl := hstart
        · cases (readWord_takes h).1
        · cases (readWord_takes h).1
        · cases (readWord_takes h).1
        · obtain ⟨numeral, hnegative, rfl⟩ := exists_of_readNumber (map_number_eq_ok.mp h)
          refine ⟨numeral, ?_⟩
          rw [Numeral.text, hnegative, if_pos rfl]
          rfl
    obtain ⟨numeral, rfl⟩ := hspelled
    exact ⟨numeral, rfl, (readScalar_numeral numeral number).mp h⟩
  case mpr =>
    rintro ⟨numeral, rfl, hnumber⟩
    exact (readScalar_numeral numeral number).mpr hnumber

end Spelling

end LiveBoard.Json
