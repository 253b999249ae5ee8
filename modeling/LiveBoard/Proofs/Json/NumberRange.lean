import LiveBoard.Proofs.Json.Grammar
import LiveBoard.Proofs.Numeric.TextBounds

/-!
# The numbers that are read

Every number of a text is in the range of its kind (`inRange_of_readNumber`): a significand never
grows beyond 64 bits, and what is scaled up beyond the doubles is refused. So the text of a number
that was read is short (`Number.length_text_le`).
-/

set_option autoImplicit false
set_option relaxedAutoImplicit false

namespace LiveBoard.Json

/-- A number within the range of its kind. -/
def Number.InRange : Number → Prop
  | .natural value => value ≤ largestNatural
  | .negative magnitude => 1 ≤ magnitude ∧ magnitude ≤ largestNegative
  | .double value => value.units < Numeric.unitsLimit

/-! ### Readers -/

section Readers

variable {negative : Bool} {significand : Nat} {bytes rest : List UInt8} {value : Number}

theorem le_pow_of_le_largestNatural (h : significand ≤ largestNatural) : significand ≤ 2 ^ 64 :=
  h.trans (by decide)

/-- The significand stays within its limit. -/
theorem gather_le (h : significand ≤ largestNatural) (bytes : List UInt8) :
    (gather significand bytes).1 ≤ largestNatural := by
  induction bytes generalizing significand with
  | nil => exact h
  | cons b rest ih =>
    by_cases hfits : (isDigit b && significand * 10 + digitValue b ≤ largestNatural) = true
    · rw [gather, if_pos hfits]
      rw [Bool.and_eq_true, decide_eq_true_eq] at hfits
      exact ih hfits.2
    · rw [gather, if_neg hfits]
      exact h

theorem inRange_of_finishDouble {exponent : Int} (hsignificand : significand ≤ largestNatural)
    (h : finishDouble negative significand exponent bytes = .ok (value, rest)) :
    value.InRange := by
  unfold finishDouble at h
  split at h
  case h_1 units hunits =>
    cases h
    exact Numeric.scaled?_lt (le_pow_of_le_largestNatural hsignificand) hunits
  case h_2 => cases h

theorem inRange_of_readExponent {start : Int} (hsignificand : significand ≤ largestNatural)
    (h : readExponent negative significand start bytes = .ok (value, rest)) : value.InRange := by
  unfold readExponent at h
  split at h
  case h_1 => cases h
  case h_2 down b following hsign =>
    by_cases hdigit : isDigit b = true
    · rw [if_pos hdigit] at h
      split at h
      case h_1 exponent unread hexponent => exact inRange_of_finishDouble hsignificand h
      case h_2 unread hexponent =>
        split_ifs at h with hlarge
        cases h
        exact Numeric.unitsLimit_pos
    · rw [if_neg hdigit] at h
      cases h

theorem inRange_of_readScale {exponent : Int} (hsignificand : significand ≤ largestNatural)
    (h : readScale negative significand exponent bytes = .ok (value, rest)) : value.InRange := by
  unfold readScale at h
  split at h
  case h_1 => exact inRange_of_finishDouble hsignificand h
  case h_2 =>
    split_ifs at h
    · exact inRange_of_readExponent hsignificand h
    · exact inRange_of_finishDouble hsignificand h

theorem inRange_of_readFraction {start : Int} (hsignificand : significand ≤ largestNatural)
    (h : readFraction negative significand start bytes = .ok (value, rest)) : value.InRange := by
  unfold readFraction at h
  split at h
  case h_1 => cases h
  case h_2 b following =>
    split_ifs at h
    have hlonger := gather_le hsignificand (b :: following)
    exact inRange_of_readScale hlonger h

theorem inRange_wholeNumber (negative : Bool) (h : significand ≤ largestNatural) :
    (wholeNumber negative significand).InRange := by
  unfold wholeNumber
  split_ifs with hpositive hdouble
  · exact h
  · have hunits := Numeric.unitsOfNat_le_mul (le_pow_of_le_largestNatural h)
    exact lt_of_le_of_lt hunits Numeric.mul_unitsOfOne_lt
  · rw [not_or, Nat.not_lt] at hdouble
    exact ⟨Nat.one_le_iff_ne_zero.mpr hdouble.1, hdouble.2⟩

theorem inRange_of_readTail {dropped : Nat} (hsignificand : significand ≤ largestNatural)
    (h : readTail negative significand dropped bytes = .ok (value, rest)) : value.InRange := by
  unfold readTail at h
  split at h
  case h_1 b following =>
    split_ifs at h with hpoint hmark hwhole
    · exact inRange_of_readFraction hsignificand h
    · exact inRange_of_readExponent hsignificand h
    · cases h
      exact inRange_wholeNumber negative hsignificand
    · exact inRange_of_finishDouble hsignificand h
  case h_2 =>
    split_ifs at h with hwhole
    · cases h
      exact inRange_wholeNumber negative hsignificand
    · exact inRange_of_finishDouble hsignificand h

theorem inRange_of_readNumber (h : readNumber negative bytes = .ok (value, rest)) :
    value.InRange := by
  unfold readNumber at h
  split at h
  case h_1 => cases h
  case h_2 b following =>
    split_ifs at h with hzero hdigit
    · split at h
      · split_ifs at h
        exact inRange_of_readTail (Nat.zero_le _) h
      · exact inRange_of_readTail (Nat.zero_le _) h
    · have hvalue : digitValue b ≤ largestNatural := by
        have hbyte := b.toNat_lt
        have hlimit : (255 : Nat) ≤ largestNatural := by decide
        rw [digitValue]
        omega
      exact inRange_of_readTail (gather_le hvalue following) h

theorem inRange_of_readScalar (h : readScalar bytes = .ok (.number value, rest)) :
    value.InRange := by
  obtain hnull | ⟨held, hbool⟩ | ⟨negative, digits, number, hnumber, hread⟩ := readScalar_eq_ok h
  · cases hnull
  · cases hbool
  · cases hnumber
    exact inRange_of_readNumber hread

end Readers

/-! ### Texts -/

theorem ValueText.inRange {levels : Nat} {number : Number} {text : List UInt8}
    (h : ValueText levels (.number number) text) : number.InRange := by
  cases h with
  | scalar hread => exact inRange_of_readScalar hread

/-- Every value of an object has a text of its own. -/
theorem MembersText.exists_valueText {levels : Nat} {first : Bool}
    {members : List (List Char × Value)} {bytes : List UInt8}
    (h : MembersText levels first members bytes) {member : List Char × Value}
    (hmember : member ∈ members) : ∃ text, ValueText levels member.2 text := by
  match h with
  | .closed _ => cases hmember
  | .member _ _ _ _ hvalue hrest =>
    obtain rfl | hmember := List.mem_cons.mp hmember
    · exact ⟨_, hvalue⟩
    · exact hrest.exists_valueText hmember

/-- A number that is a member of an object that was read is in range. -/
theorem inRange_of_lastMember? {bytes : List UInt8} {members : List (List Char × Value)}
    {name : List Char} {number : Number} (hobject : parse bytes = .ok (.object members))
    (hmember : lastMember? name members = some (.number number)) : number.InRange := by
  obtain ⟨found, hfound, hvalue⟩ := Option.map_eq_some_iff.mp hmember
  have hmem : found ∈ members := List.mem_reverse.mp (List.mem_of_find?_eq_some hfound)
  obtain ⟨before, text, after, -, htext, -, -⟩ := parse_eq_ok_iff.mp hobject
  cases htext with
  | scalar hread => exact absurd hread readScalar_ne_object
  | object hmembers =>
    obtain ⟨text, hvalueText⟩ := hmembers.exists_valueText hmem
    rw [hvalue] at hvalueText
    exact hvalueText.inRange

theorem length_digitsOf_le_twenty {value : Nat} (h : value ≤ 2 ^ 64) :
    (Numeric.digitsOf value).length ≤ 20 :=
  (Numeric.length_digitsOf_le (by decide)).mpr (lt_of_le_of_lt h (by decide))

/-- The text of an integer in range has at most twenty-one characters. -/
theorem Number.length_text_of_integer {number : Number} (h : number.InRange)
    (hinteger : ∀ value, number ≠ .double value) : number.text.length ≤ 21 := by
  cases number with
  | natural value =>
    exact (length_digitsOf_le_twenty (le_pow_of_le_largestNatural h)).trans (by decide)
  | negative magnitude =>
    exact Nat.succ_le_succ (length_digitsOf_le_twenty (h.2.trans (by decide)))
  | double value => exact absurd rfl (hinteger value)

/-- The text of a number in range has at most twenty-four characters. -/
theorem Number.length_text_le {number : Number} (h : number.InRange) : number.text.length ≤ 24 := by
  cases number with
  | natural value => exact (Number.length_text_of_integer h nofun).trans (by decide)
  | negative magnitude => exact (Number.length_text_of_integer h nofun).trans (by decide)
  | double value => exact Numeric.Double.length_text_le h

theorem Number.isNumberChar_text (number : Number) :
    ∀ c ∈ number.text, Numeric.isNumberChar c = true := by
  cases number with
  | natural value => exact Numeric.isNumberChar_digitsOf value
  | negative magnitude =>
    rw [Number.text, List.forall_mem_cons]
    exact ⟨by decide, Numeric.isNumberChar_digitsOf magnitude⟩
  | double value => exact value.isNumberChar_text

end LiveBoard.Json
