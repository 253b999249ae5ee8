import LiveBoard.Proofs.Json.Numerals
import LiveBoard.Proofs.Numeric.Digits

/-!
# Numerals that are spelled as doubles are

A positive decimal is laid out in one of four ways (`Layout`): with zeros and a fraction of one
zero behind its digits, with a point inside of them, with zeros in front of them, or with a point
behind the first digit and an exponent. A numeral is spelled in the same way where it is canonical:
no zero that could be left out, no exponent that could be, and the exponent itself with a small
letter and a sign. Every decimal that is written out as a numeral is spelled makes it canonical
(`Numeral.isCanonical_of_text`), and a short canonical numeral is spelled as its own number is
written (`Numeral.text_decimal_of_isCanonical`).
-/

set_option autoImplicit false
set_option relaxedAutoImplicit false

namespace LiveBoard.Json

open Numeric

/-! ### Layouts -/

/-- The integer part, the fraction and the text of the exponent of a positive decimal that is
written out. -/
inductive Layout (digits : List Char) (exponent : Int) : List Char → List Char → List Char → Prop
  /-- Zeros are put behind the digits, and a fraction of one zero. -/
  | whole (hexponent : 0 ≤ exponent) (hpoint : digits.length + exponent ≤ 16) :
      Layout digits exponent (digits ++ List.replicate exponent.natAbs '0') ['0'] []
  /-- The point stands inside of the digits. -/
  | inside (hexponent : exponent < 0) (hpoint : 0 < digits.length + exponent)
      (hshort : digits.length + exponent ≤ 16) :
      Layout digits exponent (digits.take (digits.length + exponent).natAbs)
        (digits.drop (digits.length + exponent).natAbs) []
  /-- Zeros are put in front of the digits. -/
  | below (hlow : -5 < digits.length + exponent) (hpoint : digits.length + exponent ≤ 0) :
      Layout digits exponent ['0']
        (List.replicate (digits.length + exponent).natAbs '0' ++ digits) []
  /-- The point stands behind the first digit, and an exponent behind the others. -/
  | scientific (digit : Char) (rest : List Char) (hdigits : digits = digit :: rest)
      (hfar : 16 < digits.length + exponent ∨ digits.length + exponent ≤ -5) :
      Layout digits exponent [digit] rest ('e' :: exponentText (digits.length + exponent - 1))

/-- A text is empty or starts as an exponent does. -/
def StartsExponent (text : List Char) : Prop := ∀ c, text.head? = some c → c = 'e' ∨ c = 'E'

section Layouts

variable {digits whole fraction tail : List Char} {exponent : Int}

@[simp]
theorem fractionText_of_ne_nil (h : fraction ≠ []) : fractionText fraction = '.' :: fraction :=
  if_neg h

/-- The text of a decimal is its layout. -/
theorem Layout.plainText_eq (h : Layout digits exponent whole fraction tail)
    (hsome : digits ≠ []) :
    plainText digits exponent = whole ++ (fractionText fraction ++ tail) := by
  have hlength := List.length_pos_iff.mpr hsome
  unfold plainText
  dsimp only
  cases h with
  | whole hexponent hpoint =>
    rw [if_pos ⟨hexponent, hpoint⟩]
    rfl
  | inside hexponent hpoint hshort =>
    have hrest : digits.drop (digits.length + exponent).natAbs ≠ [] := by
      rw [List.ne_nil_iff_length_pos, List.length_drop]
      omega
    rw [if_neg (by omega), if_pos ⟨hpoint, hshort⟩, fractionText_of_ne_nil hrest,
      List.append_nil]
  | below hlow hpoint =>
    have hrest : List.replicate (digits.length + exponent).natAbs '0' ++ digits ≠ [] :=
      List.append_ne_nil_of_right_ne_nil _ hsome
    rw [if_neg (by omega), if_neg (by omega), if_pos ⟨hlow, hpoint⟩, fractionText_of_ne_nil hrest,
      List.append_nil]
    rfl
  | scientific digit _ hdigits hfar =>
    rw [if_neg (by omega), if_neg (by omega), if_neg (by omega), hdigits]
    cases fraction with
    | nil => rfl
    | cons second rest => rfl

/-- Every decimal has a layout. -/
theorem exists_layout (hsome : digits ≠ []) (exponent : Int) :
    ∃ whole fraction tail, Layout digits exponent whole fraction tail := by
  have hlength := List.length_pos_iff.mpr hsome
  by_cases hwhole : 0 ≤ exponent ∧ digits.length + exponent ≤ 16
  · exact ⟨_, _, _, .whole hwhole.1 hwhole.2⟩
  · by_cases hinside : 0 < digits.length + exponent ∧ digits.length + exponent ≤ 16
    · exact ⟨_, _, _, .inside (by omega) hinside.1 hinside.2⟩
    · by_cases hbelow : -5 < digits.length + exponent ∧ digits.length + exponent ≤ 0
      · exact ⟨_, _, _, .below hbelow.1 hbelow.2⟩
      · obtain ⟨digit, rest, hdigits⟩ := List.exists_cons_of_ne_nil hsome
        exact ⟨_, _, _, .scientific digit rest hdigits (by omega)⟩

theorem startsExponent_nil : StartsExponent [] := nofun

theorem startsExponent_exponentText? (exponent : Option Exponent) :
    StartsExponent (exponentText? exponent) := by
  intro c hc
  cases exponent with
  | none => cases hc
  | some exponent =>
    have hmark : (if exponent.capital then 'E' else 'e') = c := Option.some.inj hc
    rw [← hmark]
    split_ifs
    · exact Or.inr rfl
    · exact Or.inl rfl

/-- The parts of a layout are parts of a numeral. -/
theorem Layout.spec (h : Layout digits exponent whole fraction tail)
    (hdigits : ∀ c ∈ digits, c.isDigit = true) :
    (∀ c ∈ whole, c.isDigit = true) ∧ (∀ c ∈ fraction, c.isDigit = true) ∧
      StartsExponent tail := by
  have hzeros : ∀ count, ∀ c ∈ List.replicate count '0', c.isDigit = true := by
    intro count c hc
    rw [List.eq_of_mem_replicate hc]
    rfl
  cases h with
  | whole => exact ⟨List.forall_mem_append.mpr ⟨hdigits, hzeros _⟩, hzeros 1, startsExponent_nil⟩
  | inside =>
    exact ⟨fun c hc ↦ hdigits c (List.mem_of_mem_take hc),
      fun c hc ↦ hdigits c (List.mem_of_mem_drop hc), startsExponent_nil⟩
  | below => exact ⟨hzeros 1, List.forall_mem_append.mpr ⟨hzeros _, hdigits⟩, startsExponent_nil⟩
  | scientific digit rest hcons =>
    rw [hcons, List.forall_mem_cons] at hdigits
    refine ⟨by simpa using hdigits.1, hdigits.2, ?_⟩
    rintro c ⟨⟩
    exact Or.inl rfl

end Layouts

/-! ### Parts of a text -/

section Parts

variable {first second firstRest secondRest : List Char}

/-- Digits end where something else starts. -/
theorem digits_append_inj (hfirst : ∀ c ∈ first, c.isDigit = true)
    (hsecond : ∀ c ∈ second, c.isDigit = true)
    (hfirstRest : ∀ c, firstRest.head? = some c → c.isDigit = false)
    (hsecondRest : ∀ c, secondRest.head? = some c → c.isDigit = false)
    (h : first ++ firstRest = second ++ secondRest) :
    first = second ∧ firstRest = secondRest := by
  have htaken : ∀ {digits rest : List Char}, (∀ c ∈ digits, c.isDigit = true) →
      (∀ c, rest.head? = some c → c.isDigit = false) →
      (digits ++ rest).takeWhile Char.isDigit = digits := by
    intro digits rest hdigits hrest
    have hnone : rest.takeWhile Char.isDigit = [] := by
      cases rest with
      | nil => rfl
      | cons c rest => simp [hrest c rfl]
    rw [List.takeWhile_append_of_pos hdigits, hnone, List.append_nil]
  have hsame := congrArg (List.takeWhile Char.isDigit) h
  rw [htaken hfirst hfirstRest, htaken hsecond hsecondRest] at hsame
  rw [hsame] at h
  exact ⟨hsame, List.append_cancel_left h⟩

theorem isDigit_of_startsExponent (h : StartsExponent first) :
    ∀ c, first.head? = some c → c.isDigit = false := by
  intro c hc
  obtain rfl | rfl := h c hc <;> rfl

theorem isDigit_of_afterWhole {fraction : List Char} (h : StartsExponent first) :
    ∀ c, (fractionText fraction ++ first).head? = some c → c.isDigit = false := by
  intro c hc
  by_cases hfraction : fraction = []
  · rw [hfraction] at hc
    exact isDigit_of_startsExponent h c hc
  · rw [fractionText_of_ne_nil hfraction] at hc
    cases hc
    rfl

/-- A text has one integer part, one fraction and one exponent. -/
theorem parts_inj {whole fraction tail otherWhole otherFraction otherTail : List Char}
    (hwhole : ∀ c ∈ whole, c.isDigit = true) (hotherWhole : ∀ c ∈ otherWhole, c.isDigit = true)
    (hfraction : ∀ c ∈ fraction, c.isDigit = true)
    (hotherFraction : ∀ c ∈ otherFraction, c.isDigit = true) (htail : StartsExponent tail)
    (hotherTail : StartsExponent otherTail)
    (h : whole ++ (fractionText fraction ++ tail) =
      otherWhole ++ (fractionText otherFraction ++ otherTail)) :
    whole = otherWhole ∧ fraction = otherFraction ∧ tail = otherTail := by
  obtain ⟨hsame, hrest⟩ := digits_append_inj hwhole hotherWhole (isDigit_of_afterWhole htail)
    (isDigit_of_afterWhole hotherTail) h
  refine ⟨hsame, ?_⟩
  -- A point is no letter of an exponent, so both texts have one or neither has.
  have hpoint : ∀ {digits text other : List Char}, StartsExponent other →
      '.' :: digits ++ text ≠ other := by
    rintro digits text _ hother rfl
    obtain hmark | hmark := hother '.' rfl <;> cases hmark
  by_cases hnil : fraction = []
  · by_cases hotherNil : otherFraction = []
    · rw [hnil, hotherNil] at hrest
      exact ⟨hnil.trans hotherNil.symm, hrest⟩
    · rw [hnil, fractionText_of_ne_nil hotherNil] at hrest
      exact absurd hrest.symm (hpoint htail)
  · by_cases hotherNil : otherFraction = []
    · rw [hotherNil, fractionText_of_ne_nil hnil] at hrest
      exact absurd hrest (hpoint hotherTail)
    · rw [fractionText_of_ne_nil hnil, fractionText_of_ne_nil hotherNil] at hrest
      exact digits_append_inj hfraction hotherFraction (isDigit_of_startsExponent htail)
        (isDigit_of_startsExponent hotherTail) (List.cons.inj hrest).2

end Parts

/-! ### Canonical numerals -/

/-- An exponent is spelled with a small letter and a sign, and without a leading zero. -/
structure Exponent.IsPlain (exponent : Exponent) : Prop where
  /-- Its letter is the small one. -/
  small : exponent.capital = false
  /-- It has a sign. -/
  signed : exponent.sign ≠ .absent
  /-- No zero leads it. -/
  leading : exponent.digits.head? ≠ some '0'

/-- A numeral is spelled as a double is. Without an exponent, its fraction is a single zero or does
not end with one, and no more than four zeros stand between the point and the other digits of a
number below one. With an exponent, the number is at least `1e16` or below `1e-5`, a single digit
that is not zero stands in front of the point, and the fraction does not end with a zero. -/
def Numeral.IsCanonical (numeral : Numeral) : Prop :=
  match numeral.exponent with
  | none =>
    numeral.fraction = ['0'] ∨ numeral.fraction.getLast? ≠ some '0' ∧
      (numeral.whole = ['0'] → ¬ List.replicate 5 '0' <+: numeral.fraction)
  | some exponent =>
    exponent.IsPlain ∧ (16 ≤ exponent.power ∨ exponent.power ≤ -6) ∧
      numeral.whole.length = 1 ∧ numeral.whole ≠ ['0'] ∧ numeral.fraction.getLast? ≠ some '0'

section Exponents

variable {exponent : Exponent} {power : Int}

theorem Exponent.isDigit_of_head? (exponent : Exponent) {c : Char}
    (hc : exponent.digits.head? = some c) : c.isDigit = true :=
  exponent.isDigit_of_mem c (List.mem_of_head? hc)

theorem Exponent.magnitude_of_digits {n : Nat} (h : exponent.digits = digitsOf n) :
    exponent.magnitude = n := by
  rw [Exponent.magnitude, h]
  exact Nat.ofDigitChars_ten_toDigits

theorem Exponent.power_of_minus (h : exponent.sign = .minus) :
    exponent.power = -exponent.magnitude := if_pos h

theorem Exponent.power_of_plus (h : exponent.sign = .plus) :
    exponent.power = exponent.magnitude := by
  rw [Exponent.power, h, if_neg (by decide)]

/-- A plain exponent is written as its power of ten is. -/
theorem Exponent.text_of_isPlain (hplain : exponent.IsPlain) (hpower : exponent.power ≠ 0) :
    exponent.text = 'e' :: exponentText exponent.power := by
  obtain ⟨hsmall, hsigned, hleading⟩ := hplain
  have hdigits : digitsOf exponent.magnitude = exponent.digits :=
    digitsOf_ofDigitChars exponent.isDigit_of_mem exponent.digits_ne_nil hleading
  rw [Exponent.text, hsmall, if_neg (by decide), exponentText, ← hdigits]
  cases hsign : exponent.sign with
  | absent => exact absurd hsign hsigned
  | plus =>
    have hvalue := exponent.power_of_plus hsign
    rw [hvalue, if_neg (by omega), Int.natAbs_natCast]
    rfl
  | minus =>
    have hvalue := exponent.power_of_minus hsign
    rw [hvalue, if_pos (by omega), Int.natAbs_neg, Int.natAbs_natCast]
    rfl

/-- An exponent that is written as a power of ten has its sign and its digits. -/
theorem Exponent.parts_of_text (h : exponent.text = 'e' :: exponentText power) :
    exponent.capital = false ∧ exponent.digits = digitsOf power.natAbs ∧
      (exponent.sign = .minus ∧ power < 0 ∨ exponent.sign = .plus ∧ 0 ≤ power) := by
  obtain ⟨hmark, hrest⟩ := List.cons.inj h
  have hcapital : exponent.capital = false := by
    by_contra hcapital
    rw [if_pos (by simpa using hcapital)] at hmark
    cases hmark
  refine ⟨hcapital, ?_⟩
  unfold exponentText at hrest
  cases hsign : exponent.sign with
  | absent =>
    rw [hsign] at hrest
    have hdigit := exponent.isDigit_of_head? (congrArg List.head? hrest)
    split_ifs at hdigit <;> cases hdigit
  | plus =>
    rw [hsign] at hrest
    split_ifs at hrest with hnegative
    · cases hrest
    · exact ⟨(List.cons.inj hrest).2, Or.inr ⟨rfl, not_lt.mp hnegative⟩⟩
  | minus =>
    rw [hsign] at hrest
    split_ifs at hrest with hnegative
    · exact ⟨(List.cons.inj hrest).2, Or.inl ⟨rfl, hnegative⟩⟩
    · cases hrest

/-- Assumes: a power of ten that is not zero. An exponent that is written as it is is plain. -/
theorem Exponent.isPlain_of_text (hpower : power ≠ 0)
    (h : exponent.text = 'e' :: exponentText power) :
    exponent.IsPlain ∧ exponent.power = power := by
  obtain ⟨hcapital, hdigits, hsign⟩ := exponent.parts_of_text h
  have hmagnitude := exponent.magnitude_of_digits hdigits
  have hleading : exponent.digits.head? ≠ some '0' := by
    rw [hdigits]
    exact head?_digitsOf (Int.natAbs_ne_zero.mpr hpower)
  obtain ⟨hminus, hnegative⟩ | ⟨hplus, hpositive⟩ := hsign
  · refine ⟨⟨hcapital, hminus ▸ by decide, hleading⟩, ?_⟩
    rw [exponent.power_of_minus hminus, hmagnitude]
    omega
  · refine ⟨⟨hcapital, hplus ▸ by decide, hleading⟩, ?_⟩
    rw [exponent.power_of_plus hplus, hmagnitude]
    omega

end Exponents

section Canonical

variable {numeral : Numeral} {digits : List Char} {exponent : Int}

/-- A decimal is written as a numeral is spelled exactly where the numeral is its layout. -/
theorem plainText_eq_unsignedText_iff (hdigits : ∀ c ∈ digits, c.isDigit = true)
    (hsome : digits ≠ []) : plainText digits exponent = numeral.unsignedText ↔
      Layout digits exponent numeral.whole numeral.fraction (exponentText? numeral.exponent) := by
  constructor
  · intro h
    obtain ⟨whole, fraction, tail, hlayout⟩ := exists_layout hsome exponent
    obtain ⟨hwhole, hfraction, htail⟩ := hlayout.spec hdigits
    rw [hlayout.plainText_eq hsome] at h
    obtain ⟨rfl, rfl, rfl⟩ := parts_inj hwhole numeral.isDigit_whole hfraction
      numeral.isDigit_fraction htail (startsExponent_exponentText? numeral.exponent) h
    exact hlayout
  · intro hlayout
    exact hlayout.plainText_eq hsome

@[simp]
theorem exponentText?_eq_nil_iff {exponent : Option Exponent} :
    exponentText? exponent = [] ↔ exponent = none := by
  cases exponent with
  | none => exact iff_of_true rfl rfl
  | some exponent => exact iff_of_false (List.cons_ne_nil _ _) (Option.some_ne_none exponent)

theorem head?_of_zeros_isPrefix {few many : Nat} (hcount : few < many)
    (h : List.replicate many '0' <+: List.replicate few '0' ++ digits) :
    digits.head? = some '0' := by
  obtain ⟨rest, hrest⟩ := h
  obtain ⟨more, rfl⟩ := Nat.exists_eq_add_of_lt hcount
  rw [Nat.add_assoc, ← List.replicate_append_replicate, List.append_assoc] at hrest
  rw [← List.append_cancel_left hrest]
  rfl

/-- A digit in front that is not zero adds no trailing zero. -/
theorem getLast?_cons_iff {digit : Char} {rest : List Char} (hdigit : digit ≠ '0') :
    (digit :: rest).getLast? = some '0' ↔ rest.getLast? = some '0' := by
  rw [List.getLast?_cons, Option.some.injEq]
  cases rest.getLast? with
  | none => exact iff_of_false hdigit nofun
  | some last => rw [Option.getD_some, Option.some.injEq]

/-- Assumes: digits without leading or trailing zeros. Every layout of them is canonical. -/
theorem Numeral.isCanonical_of_layout (hsome : digits ≠ []) (hfirst : digits.head? ≠ some '0')
    (hlast : digits.getLast? ≠ some '0')
    (h : Layout digits exponent numeral.whole numeral.fraction (exponentText? numeral.exponent)) :
    numeral.IsCanonical := by
  unfold Numeral.IsCanonical
  generalize numeral.whole = whole at h
  generalize numeral.fraction = fraction at h
  generalize htail : exponentText? numeral.exponent = tail at h
  cases h with
  | whole =>
    rw [exponentText?_eq_nil_iff.mp htail]
    exact Or.inl rfl
  | inside hexponent hpoint hshort =>
    rw [exponentText?_eq_nil_iff.mp htail]
    refine Or.inr ⟨?_, ?_⟩
    · rw [List.getLast?_drop, if_neg (by omega)]
      exact hlast
    · intro hwhole
      have hhead := congrArg List.head? hwhole
      rw [List.head?_take, if_neg (by omega)] at hhead
      exact absurd hhead hfirst
  | below hlow hpoint =>
    rw [exponentText?_eq_nil_iff.mp htail]
    refine Or.inr ⟨?_, fun _ hzeros ↦ ?_⟩
    · rwa [List.getLast?_append_of_ne_nil _ hsome]
    · exact hfirst (head?_of_zeros_isPrefix (by omega) hzeros)
  | scientific digit _ hdigits hfar =>
    rw [hdigits] at hfirst hlast
    have hdigit : digit ≠ '0' := fun hzero ↦ hfirst (congrArg some hzero)
    cases hexponent : numeral.exponent with
    | none =>
      rw [hexponent] at htail
      cases htail
    | some shown =>
      rw [hexponent] at htail
      obtain ⟨hplain, hpower⟩ := Exponent.isPlain_of_text (by omega) htail
      refine ⟨hplain, by omega, rfl, ?_, mt (getLast?_cons_iff hdigit).mpr hlast⟩
      exact fun hzero ↦ hdigit (List.cons.inj hzero).1

/-- The digits of a numeral without a leading zero are the digits of its significand. -/
theorem Numeral.digitsOf_significand (hwhole : numeral.whole ≠ ['0']) :
    digitsOf numeral.significand = numeral.whole ++ numeral.fraction := by
  apply digitsOf_ofDigitChars
  · exact List.forall_mem_append.mpr ⟨numeral.isDigit_whole, numeral.isDigit_fraction⟩
  · exact List.append_ne_nil_of_left_ne_nil numeral.whole_ne_nil _
  · rw [List.head?_append_of_ne_nil _ numeral.whole_ne_nil]
    intro hzero
    obtain ⟨rest, hrest⟩ := List.head?_eq_some_iff.mp hzero
    rw [numeral.eq_nil_of_leading_zero rest hrest] at hrest
    exact hwhole hrest

/-- The decimal of the exact number that a numeral means, but for its sign. -/
def Numeral.decimal (numeral : Numeral) : Decimal := ⟨numeral.significand, numeral.scale⟩

/-- The integer part and the fraction of a numeral are the ones of the layout of its number, with
some text of an exponent behind them. -/
def Numeral.IsLaidOut (numeral : Numeral) (tail : List Char) : Prop :=
  Layout numeral.decimal.trimmed.1 numeral.decimal.trimmed.2 numeral.whole numeral.fraction tail

/-- Assumes: a fraction of a single zero. It goes over into the exponent. -/
theorem Numeral.isLaidOut_of_zero (hsome : numeral.significand ≠ 0)
    (hdigits : numeral.significand < 10 ^ 15) (hexponent : numeral.exponent = none)
    (hfraction : numeral.fraction = ['0']) :
    numeral.IsLaidOut [] := by
  have hwhole : numeral.whole ≠ ['0'] := by
    intro hwhole
    apply hsome
    rw [Numeral.significand, hwhole, hfraction]
    rfl
  have hall := numeral.digitsOf_significand hwhole
  obtain ⟨kept, count, hkept, hlast⟩ := exists_trailingZeros numeral.whole
  have hwritten : digitsOf numeral.decimal.digits = kept ++ List.replicate (count + 1) '0' := by
    rw [List.replicate_succ', ← List.append_assoc, ← hkept, ← hfraction]
    exact hall
  have hscale : numeral.decimal.exponent + (count + 1 : Nat) = count := by
    rw [Numeral.decimal, Numeral.scale, hexponent, hfraction]
    change (0 : Int) - 1 + (count + 1 : Nat) = count
    omega
  have hlength := (length_digitsOf_le (by decide)).mpr hdigits
  rw [hall, hfraction, List.length_append, hkept, List.length_append, List.length_replicate,
    List.length_singleton] at hlength
  have hlayout : Layout kept count _ _ _ := .whole (Int.natCast_nonneg count) (by omega)
  rw [Int.natAbs_natCast, ← hkept, ← hfraction] at hlayout
  rw [Numeral.IsLaidOut, Decimal.trimmed_of_digits hwritten hlast, hscale]
  exact hlayout

/-- Assumes: a number of at least one, and a fraction that does not end with a zero. The point
stands inside of the digits. -/
theorem Numeral.isLaidOut_of_point (hdigits : numeral.significand < 10 ^ 15)
    (hexponent : numeral.exponent = none) (hfraction : numeral.fraction ≠ [])
    (hlast : numeral.fraction.getLast? ≠ some '0') (hwhole : numeral.whole ≠ ['0']) :
    numeral.IsLaidOut [] := by
  have hall := numeral.digitsOf_significand hwhole
  have hwritten : digitsOf numeral.decimal.digits =
      numeral.whole ++ numeral.fraction ++ List.replicate 0 '0' :=
    hall.trans (List.append_nil _).symm
  have hscale : numeral.decimal.exponent + (0 : Nat) = -(numeral.fraction.length : Int) := by
    rw [Numeral.decimal, Numeral.scale, hexponent]
    change (0 : Int) - numeral.fraction.length + 0 = -numeral.fraction.length
    omega
  have hsomeWhole := List.length_pos_iff.mpr numeral.whole_ne_nil
  have hsomeFraction := List.length_pos_iff.mpr hfraction
  have hlength := (length_digitsOf_le (by decide)).mpr hdigits
  rw [hall, List.length_append] at hlength
  have hplace : ((numeral.whole ++ numeral.fraction).length : Int) + -numeral.fraction.length =
      numeral.whole.length := by
    rw [List.length_append]
    omega
  have hlayout : Layout (numeral.whole ++ numeral.fraction) (-numeral.fraction.length) _ _ _ :=
    .inside (by omega) (by omega) (by omega)
  rw [hplace, Int.natAbs_natCast, List.take_left, List.drop_left] at hlayout
  rw [Numeral.IsLaidOut, Decimal.trimmed_of_digits hwritten ?_, hscale]
  · exact hlayout
  · rwa [List.getLast?_append_of_ne_nil _ hfraction]

/-- Assumes: a number below one with few zeros behind the point, and a fraction that does not end
with a zero. Zeros are put in front of the digits. -/
theorem Numeral.isLaidOut_of_below (hsome : numeral.significand ≠ 0)
    (hexponent : numeral.exponent = none) (hlast : numeral.fraction.getLast? ≠ some '0')
    (hwhole : numeral.whole = ['0']) (hfew : ¬ List.replicate 5 '0' <+: numeral.fraction) :
    numeral.IsLaidOut [] := by
  obtain ⟨count, rest, hfraction, hleading⟩ := exists_leadingZeros numeral.fraction
  have hvalue : numeral.significand = Nat.ofDigitChars 10 rest 0 := by
    rw [Numeral.significand, hwhole, hfraction, ← List.append_assoc]
    exact ofDigitChars_zeros (count + 1) rest
  have hrest : rest ≠ [] := by
    rintro rfl
    exact hsome hvalue
  have hwritten : digitsOf numeral.decimal.digits = rest ++ List.replicate 0 '0' := by
    have hall : ∀ c ∈ rest, c.isDigit = true := fun c hc ↦
      numeral.isDigit_fraction c (hfraction ▸ List.mem_append_right _ hc)
    rw [List.replicate_zero, List.append_nil, ← digitsOf_ofDigitChars hall hrest hleading, ← hvalue]
    rfl
  have hscale : numeral.decimal.exponent + (0 : Nat) = -(count + rest.length : Nat) := by
    rw [Numeral.decimal, Numeral.scale, hexponent, hfraction, List.length_append,
      List.length_replicate]
    change (0 : Int) - (count + rest.length : Nat) + 0 = -(count + rest.length : Nat)
    omega
  have hcount : count ≤ 4 := by
    by_contra hmany
    apply hfew
    obtain ⟨more, rfl⟩ := Nat.exists_eq_add_of_le (show 5 ≤ count by omega)
    rw [hfraction, ← List.replicate_append_replicate, List.append_assoc]
    exact List.prefix_append _ _
  have hplace : (rest.length : Int) + -(count + rest.length : Nat) = -count := by omega
  have hlayout : Layout rest (-(count + rest.length : Nat)) _ _ _ := .below (by omega) (by omega)
  rw [hplace, Int.natAbs_neg, Int.natAbs_natCast, ← hfraction, ← hwhole] at hlayout
  rw [Numeral.IsLaidOut, Decimal.trimmed_of_digits hwritten ?_, hscale]
  · exact hlayout
  · rwa [hfraction, List.getLast?_append_of_ne_nil _ hrest] at hlast

/-- Assumes: one digit that is not zero in front of the point, and a plain exponent that is needed.
The exponent is written. -/
theorem Numeral.isLaidOut_of_exponent {exponent : Exponent}
    (hexponent : numeral.exponent = some exponent) (hplain : exponent.IsPlain)
    (hpower : 16 ≤ exponent.power ∨ exponent.power ≤ -6) (hone : numeral.whole.length = 1)
    (hwhole : numeral.whole ≠ ['0']) (hlast : numeral.fraction.getLast? ≠ some '0') :
    numeral.IsLaidOut exponent.text := by
  obtain ⟨digit, hdigit⟩ := List.length_eq_one_iff.mp hone
  have hwritten : digitsOf numeral.decimal.digits =
      digit :: numeral.fraction ++ List.replicate 0 '0' := by
    have hall := numeral.digitsOf_significand hwhole
    rw [hdigit] at hall
    exact hall.trans (List.append_nil _).symm
  have hscale : numeral.decimal.exponent + (0 : Nat) =
      exponent.power - numeral.fraction.length := by
    rw [Numeral.decimal, Numeral.scale, hexponent]
    exact add_zero _
  have hplace : ((digit :: numeral.fraction).length : Int) +
      (exponent.power - numeral.fraction.length) = exponent.power + 1 := by
    rw [List.length_cons]
    omega
  have htext := exponent.text_of_isPlain hplain (by omega)
  have hlayout : Layout (digit :: numeral.fraction) (exponent.power - numeral.fraction.length)
    _ _ _ := .scientific digit numeral.fraction rfl (by omega)
  rw [hplace, add_sub_cancel_right, ← htext, ← hdigit] at hlayout
  rw [Numeral.IsLaidOut, Decimal.trimmed_of_digits hwritten ?_, hscale]
  · exact hlayout
  · have hother : digit ≠ '0' := fun hzero ↦ hwhole (hdigit.trans (congrArg (· :: []) hzero))
    exact mt (getLast?_cons_iff hother).mp hlast

/-- Assumes: a numeral that is no integer, with fifteen digits at most that do not mean zero. A
canonical one is the layout of its number. -/
theorem Numeral.isLaidOut_of_isCanonical (hsome : numeral.significand ≠ 0)
    (hdigits : numeral.significand < 10 ^ 15) (hinteger : ¬ numeral.IsInteger)
    (h : numeral.IsCanonical) :
    numeral.IsLaidOut (exponentText? numeral.exponent) := by
  unfold Numeral.IsCanonical at h
  cases hexponent : numeral.exponent with
  | none =>
    rw [hexponent] at h
    have hfraction : numeral.fraction ≠ [] := fun hnil ↦ hinteger ⟨hnil, hexponent⟩
    obtain hzero | ⟨hlast, hfew⟩ := h
    · exact numeral.isLaidOut_of_zero hsome hdigits hexponent hzero
    · by_cases hwhole : numeral.whole = ['0']
      · exact numeral.isLaidOut_of_below hsome hexponent hlast hwhole (hfew hwhole)
      · exact numeral.isLaidOut_of_point hdigits hexponent hfraction hlast hwhole
  | some exponent =>
    rw [hexponent] at h
    obtain ⟨hplain, hpower, hone, hwhole, hlast⟩ := h
    exact numeral.isLaidOut_of_exponent hexponent hplain hpower hone hwhole hlast

/-- The digits of a numeral whose significand is zero are zeros, with one of them in front. -/
theorem Numeral.zeros_of_significand (hzero : numeral.significand = 0) :
    numeral.whole = ['0'] ∧ ∀ c ∈ numeral.fraction, c = '0' := by
  have hzeros := eq_zero_of_ofDigitChars
    (List.forall_mem_append.mpr ⟨numeral.isDigit_whole, numeral.isDigit_fraction⟩) hzero
  obtain ⟨hwhole, hfraction⟩ := List.forall_mem_append.mp hzeros
  obtain ⟨c, rest, hcons⟩ := List.exists_cons_of_ne_nil numeral.whole_ne_nil
  rw [hwhole c (hcons ▸ List.mem_cons_self)] at hcons
  rw [numeral.eq_nil_of_leading_zero rest hcons] at hcons
  exact ⟨hcons, hfraction⟩

/-- Assumes: a numeral that is no integer, and without digits but zeros. A canonical one is spelled
with a zero on each side of the point. -/
theorem Numeral.unsignedText_of_isCanonical (hzero : numeral.significand = 0)
    (hinteger : ¬ numeral.IsInteger) (h : numeral.IsCanonical) :
    ['0', '.', '0'] = numeral.unsignedText := by
  obtain ⟨hwhole, hfraction⟩ := numeral.zeros_of_significand hzero
  unfold Numeral.IsCanonical at h
  cases hexponent : numeral.exponent with
  | none =>
    rw [hexponent] at h
    have hone : numeral.fraction = ['0'] := by
      obtain hone | ⟨hlast, -⟩ := h
      · exact hone
      · have hsome : numeral.fraction ≠ [] := fun hnil ↦ hinteger ⟨hnil, hexponent⟩
        rw [List.getLast?_eq_some_getLast hsome] at hlast
        exact absurd (congrArg some (hfraction _ (List.getLast_mem hsome))) hlast
    rw [Numeral.unsignedText, hwhole, hone, hexponent]
    rfl
  | some exponent =>
    rw [hexponent] at h
    obtain ⟨-, -, -, hother, -⟩ := h
    exact absurd hwhole hother

/-- A numeral that is spelled as a decimal is written is canonical. -/
theorem Numeral.isCanonical_of_text {decimal : Decimal}
    (h : decimal.text = numeral.unsignedText) : numeral.IsCanonical := by
  unfold Decimal.text at h
  by_cases hzero : decimal.digits = 0
  · rw [if_pos hzero] at h
    have hdigit : ∀ c ∈ ['0'], c.isDigit = true := List.all_eq_true.mp (by decide)
    obtain ⟨-, hone, htail⟩ := parts_inj hdigit numeral.isDigit_whole hdigit
      numeral.isDigit_fraction startsExponent_nil
      (startsExponent_exponentText? numeral.exponent) h
    unfold Numeral.IsCanonical
    rw [exponentText?_eq_nil_iff.mp htail.symm]
    exact Or.inl hone.symm
  · obtain ⟨hall, hsome, hfirst, hlast⟩ := Decimal.trimmed_digits hzero
    rw [if_neg hzero, plainText_eq_unsignedText_iff hall hsome] at h
    exact numeral.isCanonical_of_layout hsome hfirst hlast h

/-- Assumes: a numeral that is no integer, with fifteen digits at most. A canonical one is spelled
as its number is written. -/
theorem Numeral.text_decimal_of_isCanonical (hdigits : numeral.significand < 10 ^ 15)
    (hinteger : ¬ numeral.IsInteger) (h : numeral.IsCanonical) :
    numeral.decimal.text = numeral.unsignedText := by
  unfold Decimal.text
  by_cases hzero : numeral.decimal.digits = 0
  · rw [if_pos hzero]
    exact numeral.unsignedText_of_isCanonical hzero hinteger h
  · obtain ⟨hall, hsome, -⟩ := Decimal.trimmed_digits hzero
    rw [if_neg hzero, plainText_eq_unsignedText_iff hall hsome]
    exact numeral.isLaidOut_of_isCanonical hzero hdigits hinteger h

end Canonical

end LiveBoard.Json
