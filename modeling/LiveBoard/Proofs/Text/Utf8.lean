import LiveBoard.Text.Utf8
import Mathlib.Tactic.SplitIfs

/-!
# Texts and their bytes

A text is read back from its bytes: the encoding of a character is read as that character, whatever
follows (`leadingChar?_encodeChar`), and a text as that text (`decodeText?_encodeText`).
-/

set_option autoImplicit false
set_option relaxedAutoImplicit false

namespace LiveBoard.Text

/-- The code of a character is that of a scalar value. -/
theorem scalar_toNat (c : Char) : c.toNat < 0xD800 ∨ 0xDFFF < c.toNat ∧ c.toNat < 0x110000 :=
  c.valid

theorem toNat_byte {n : Nat} (h : n < 256) : (UInt8.ofNat n).toNat = n := by
  rw [UInt8.toNat_ofNat', Nat.mod_eq_of_lt h]

/-- Bytes are compared by their numbers. -/
theorem lies_iff {a low high : UInt8} :
    (decide (low ≤ a) && decide (a ≤ high)) = true ↔
      low.toNat ≤ a.toNat ∧ a.toNat ≤ high.toNat := by
  simp [UInt8.le_iff_toNat_le]

theorem isTail_byte {n : Nat} (h : n < 64) : isTail (.ofNat (0x80 + n)) = true := by
  have hbyte := toNat_byte (n := 0x80 + n) (by omega)
  refine lies_iff.mpr ?_
  rw [hbyte]
  exact ⟨Nat.le_add_right 0x80 n, show 0x80 + n ≤ 0xBF by omega⟩

theorem tailBits_byte {n : Nat} (h : n < 64) : tailBits (.ofNat (0x80 + n)) = n := by
  unfold tailBits
  rw [toNat_byte (by omega), Nat.add_sub_cancel_left]

section Leading

variable {a b c d : UInt8} (rest : List UInt8)

theorem leadingChar?_single (ha : a.toNat < 0x80) :
    leadingChar? (a :: rest) = some (Char.ofNat a.toNat, rest) :=
  if_pos (UInt8.lt_iff_toNat_lt.mpr ha)

theorem leadingChar?_pair (ha : 0xC2 ≤ a.toNat ∧ a.toNat ≤ 0xDF) (hb : isTail b = true) :
    leadingChar? (a :: b :: rest) = some (pairChar a b, rest) := by
  have hsingle : ¬ a < 0x80 := fun h ↦ absurd (UInt8.lt_iff_toNat_lt.mp h)
    (show ¬ a.toNat < 0x80 by omega)
  have hpair : (decide (0xC2 ≤ a) && decide (a ≤ 0xDF)) = true := lies_iff.mpr ha
  unfold leadingChar?
  dsimp only
  rw [if_neg hsingle, if_pos hpair, if_pos hb]

theorem leadingChar?_triple (ha : 0xE0 ≤ a.toNat ∧ a.toNat ≤ 0xEF)
    (hb : secondOfThree a b = true) (hc : isTail c = true) :
    leadingChar? (a :: b :: c :: rest) = some (tripleChar a b c, rest) := by
  have hsingle : ¬ a < 0x80 := fun h ↦ absurd (UInt8.lt_iff_toNat_lt.mp h)
    (show ¬ a.toNat < 0x80 by omega)
  have hpair : ¬ (decide (0xC2 ≤ a) && decide (a ≤ 0xDF)) = true := fun h ↦
    absurd (lies_iff.mp h).2 (show ¬ a.toNat ≤ 0xDF by omega)
  have htriple : (decide (0xE0 ≤ a) && decide (a ≤ 0xEF)) = true := lies_iff.mpr ha
  unfold leadingChar?
  dsimp only
  rw [if_neg hsingle, if_neg hpair, if_pos htriple, hb, hc, Bool.and_self, if_pos rfl]

theorem leadingChar?_quadruple (ha : 0xF0 ≤ a.toNat ∧ a.toNat ≤ 0xF4)
    (hb : secondOfFour a b = true) (hc : isTail c = true) (hd : isTail d = true) :
    leadingChar? (a :: b :: c :: d :: rest) = some (quadrupleChar a b c d, rest) := by
  have hsingle : ¬ a < 0x80 := fun h ↦ absurd (UInt8.lt_iff_toNat_lt.mp h)
    (show ¬ a.toNat < 0x80 by omega)
  have hpair : ¬ (decide (0xC2 ≤ a) && decide (a ≤ 0xDF)) = true := fun h ↦
    absurd (lies_iff.mp h).2 (show ¬ a.toNat ≤ 0xDF by omega)
  have htriple : ¬ (decide (0xE0 ≤ a) && decide (a ≤ 0xEF)) = true := fun h ↦
    absurd (lies_iff.mp h).2 (show ¬ a.toNat ≤ 0xEF by omega)
  have hquadruple : (decide (0xF0 ≤ a) && decide (a ≤ 0xF4)) = true := lies_iff.mpr ha
  unfold leadingChar?
  dsimp only
  rw [if_neg hsingle, if_neg hpair, if_neg htriple, if_pos hquadruple, hb, hc, hd, Bool.and_self,
    Bool.and_self, if_pos rfl]

end Leading

/-- The second of three bytes is as large as the code asks for, which is no surrogate. -/
theorem secondOfThree_byte {n : Nat} (hlow : 0x800 ≤ n) (hhigh : n < 0x10000)
    (hscalar : n < 0xD800 ∨ 0xDFFF < n) :
    secondOfThree (.ofNat (0xE0 + n / 4096)) (.ofNat (0x80 + n / 64 % 64)) = true := by
  have hfirst := toNat_byte (n := 0xE0 + n / 4096) (by omega)
  have hsecond := toNat_byte (n := 0x80 + n / 64 % 64) (by omega)
  unfold secondOfThree
  split_ifs with hoverlong hsurrogate
  · rw [beq_iff_eq, ← UInt8.toNat_inj, hfirst] at hoverlong
    change 0xE0 + n / 4096 = 0xE0 at hoverlong
    refine lies_iff.mpr ?_
    rw [hsecond]
    exact ⟨show 0xA0 ≤ 0x80 + n / 64 % 64 by omega, show 0x80 + n / 64 % 64 ≤ 0xBF by omega⟩
  · rw [beq_iff_eq, ← UInt8.toNat_inj, hfirst] at hsurrogate
    change 0xE0 + n / 4096 = 0xED at hsurrogate
    refine lies_iff.mpr ?_
    rw [hsecond]
    exact ⟨show 0x80 ≤ 0x80 + n / 64 % 64 by omega, show 0x80 + n / 64 % 64 ≤ 0x9F by omega⟩
  · exact isTail_byte (by omega)

/-- The second of four bytes is as large as the code asks for. -/
theorem secondOfFour_byte {n : Nat} (hlow : 0x10000 ≤ n) (hhigh : n < 0x110000) :
    secondOfFour (.ofNat (0xF0 + n / 262144)) (.ofNat (0x80 + n / 4096 % 64)) = true := by
  have hfirst := toNat_byte (n := 0xF0 + n / 262144) (by omega)
  have hsecond := toNat_byte (n := 0x80 + n / 4096 % 64) (by omega)
  unfold secondOfFour
  split_ifs with hoverlong hlimit
  · rw [beq_iff_eq, ← UInt8.toNat_inj, hfirst] at hoverlong
    change 0xF0 + n / 262144 = 0xF0 at hoverlong
    refine lies_iff.mpr ?_
    rw [hsecond]
    exact ⟨show 0x90 ≤ 0x80 + n / 4096 % 64 by omega, show 0x80 + n / 4096 % 64 ≤ 0xBF by omega⟩
  · rw [beq_iff_eq, ← UInt8.toNat_inj, hfirst] at hlimit
    change 0xF0 + n / 262144 = 0xF4 at hlimit
    refine lies_iff.mpr ?_
    rw [hsecond]
    exact ⟨show 0x80 ≤ 0x80 + n / 4096 % 64 by omega, show 0x80 + n / 4096 % 64 ≤ 0x8F by omega⟩
  · exact isTail_byte (by omega)

/-- The encoding of a character is read as the character, whatever follows. -/
@[simp]
theorem leadingChar?_encodeChar (c : Char) (rest : List UInt8) :
    leadingChar? (encodeChar c ++ rest) = some (c, rest) := by
  have hscalar := scalar_toNat c
  have hchar : Char.ofNat c.toNat = c := Char.ofNat_toNat c
  unfold encodeChar
  dsimp only
  split_ifs with hone htwo hthree
  · have hbyte := toNat_byte (n := c.toNat) (by omega)
    refine (leadingChar?_single rest (by rw [hbyte]; exact hone)).trans ?_
    rw [hbyte, hchar]
  · have hbyte := toNat_byte (n := 0xC0 + c.toNat / 64) (by omega)
    refine (leadingChar?_pair rest (by omega) (isTail_byte (by omega))).trans ?_
    rw [pairChar, hbyte, tailBits_byte (by omega),
      show (0xC0 + c.toNat / 64 - 0xC0) * 64 + c.toNat % 64 = c.toNat by omega, hchar]
  · have hbyte := toNat_byte (n := 0xE0 + c.toNat / 4096) (by omega)
    refine (leadingChar?_triple rest (by omega) (secondOfThree_byte (by omega) hthree (by omega))
      (isTail_byte (by omega))).trans ?_
    rw [tripleChar, hbyte, tailBits_byte (by omega), tailBits_byte (by omega),
      show (0xE0 + c.toNat / 4096 - 0xE0) * 4096 + c.toNat / 64 % 64 * 64 + c.toNat % 64 =
        c.toNat by omega, hchar]
  · have hbyte := toNat_byte (n := 0xF0 + c.toNat / 262144) (by omega)
    refine (leadingChar?_quadruple rest (by omega) (secondOfFour_byte (by omega) (by omega))
      (isTail_byte (by omega)) (isTail_byte (by omega))).trans ?_
    rw [quadrupleChar, hbyte, tailBits_byte (by omega), tailBits_byte (by omega),
      tailBits_byte (by omega),
      show (0xF0 + c.toNat / 262144 - 0xF0) * 262144 + c.toNat / 4096 % 64 * 4096 +
        c.toNat / 64 % 64 * 64 + c.toNat % 64 = c.toNat by omega, hchar]

@[simp]
theorem encodeText_cons (c : Char) (text : List Char) :
    encodeText (c :: text) = encodeChar c ++ encodeText text :=
  List.flatMap_cons

@[simp]
theorem encodeText_append (first second : List Char) :
    encodeText (first ++ second) = encodeText first ++ encodeText second :=
  List.flatMap_append

theorem length_encodeChar_pos (c : Char) : 0 < (encodeChar c).length := by
  unfold encodeChar
  dsimp only
  split_ifs <;> exact Nat.succ_pos _

/-- Assumes: at least as much fuel as there are bytes. A text is read from its bytes. -/
theorem decodeOnto_encodeText (text : List Char) (fuel : Nat) (read : List Char)
    (hfuel : (encodeText text).length ≤ fuel) :
    decodeOnto fuel read (encodeText text) = (read.reverse ++ text, []) := by
  induction text generalizing fuel read with
  | nil =>
    cases fuel with
    | zero => simp [decodeOnto, encodeText]
    | succ fuel => simp [decodeOnto, encodeText, leadingChar?]
  | cons c text ih =>
    have hpositive := length_encodeChar_pos c
    rw [encodeText_cons, List.length_append] at hfuel
    obtain ⟨fuel, rfl⟩ : ∃ less, fuel = less + 1 := ⟨fuel - 1, by omega⟩
    rw [encodeText_cons, decodeOnto, leadingChar?_encodeChar]
    dsimp only
    rw [ih fuel (c :: read) (by omega), List.reverse_cons, List.append_assoc]
    rfl

/-- A text is what is read from its bytes. -/
@[simp]
theorem decodeText?_encodeText (text : List Char) : decodeText? (encodeText text) = some text := by
  unfold decodeText? decodePrefix
  rw [decodeOnto_encodeText text _ [] (Nat.le_refl _)]
  rfl

/-- The bytes of ASCII characters are their codes. -/
theorem encodeText_of_ascii {text : List Char} (h : ∀ c ∈ text, c.toNat < 128) :
    encodeText text = text.map Char.toUInt8 := by
  induction text with
  | nil => rfl
  | cons c text ih =>
    have hchar : encodeChar c = [c.toUInt8] := if_pos (h c List.mem_cons_self)
    change encodeChar c ++ encodeText text = _
    rw [hchar, ih fun other hother ↦ h other (List.mem_cons_of_mem _ hother)]
    rfl

end LiveBoard.Text
