import LiveBoard.Proofs.Screen.Obedience
import Mathlib.Data.List.Infix

/-!
# Bytes that do not show the cursor

The control sequence that shows the cursor is sent by no drawing. That is a property of bytes, and
it has to survive their being put together, so it is stated with what may follow: bytes are hushed
if the sequence begins nowhere in them, whatever of a kind comes next (`Hushed`). Marks are hushed
whatever follows (`settled_bytesOfMarks`). Of bytes whose writing breaks off an end may be missing,
perhaps in the middle of a control sequence; what is left is hushed before anything that begins with
an escape byte (`Settled.beginning`), as repaints do.
-/

set_option autoImplicit false
set_option relaxedAutoImplicit false

namespace LiveBoard.Screen

/-- The control sequence that shows the cursor. -/
def showCursor : List UInt8 := [0x1B, 0x5B, 0x3F, 0x32, 0x35, 0x68]

/-- Bytes of which the first is an escape byte, or none. -/
def BeginsAnew (bytes : List UInt8) : Prop := ∀ byte ∈ bytes.head?, byte = 0x1B

/-- Nowhere in the bytes begins a sequence that shows the cursor, whatever of a kind follows. -/
def Hushed (follows : List UInt8 → Prop) (bytes : List UInt8) : Prop :=
  ∀ rest before after, follows rest → bytes ++ rest = before ++ (showCursor ++ after) →
    bytes.length ≤ before.length

/-- Nowhere in the bytes begins a sequence that shows the cursor, whatever follows. -/
def Settled (bytes : List UInt8) : Prop := Hushed (fun _ ↦ True) bytes

section Hushed

variable {follows follows' : List UInt8 → Prop} {first second bytes : List UInt8}

theorem hushed_nil : Hushed follows [] := fun _ before _ _ _ ↦ Nat.zero_le before.length

theorem Settled.hushed (h : Settled bytes) : Hushed follows bytes :=
  fun rest before after _ hsplit ↦ h rest before after trivial hsplit

/-- Assumes: what follows the second bytes may follow the first together with the second. -/
theorem Hushed.append (hfirst : Hushed follows first) (hsecond : Hushed follows' second)
    (hjoin : ∀ rest, follows' rest → follows (second ++ rest)) :
    Hushed follows' (first ++ second) := by
  intro rest before after hrest hsplit
  rw [List.append_assoc] at hsplit
  have hlength := hfirst (second ++ rest) before after (hjoin rest hrest) hsplit
  have hprefix : first <+: before :=
    List.prefix_of_prefix_length_le ⟨_, hsplit⟩ (List.prefix_append before _) hlength
  obtain ⟨middle, rfl⟩ := hprefix
  rw [List.append_assoc] at hsplit
  have hremaining := hsecond rest middle after hrest (List.append_cancel_left hsplit)
  rw [List.length_append, List.length_append]
  omega

theorem Settled.append (hfirst : Settled first) (hsecond : Settled second) :
    Settled (first ++ second) :=
  Hushed.append hfirst hsecond fun _ _ ↦ trivial

/-- After hushed bytes an escape byte begins anew. -/
theorem Hushed.append_escape (h : Hushed BeginsAnew bytes) {rest : List UInt8}
    (hrest : Settled (0x1B :: rest)) : Settled (bytes ++ 0x1B :: rest) :=
  h.append hrest fun _ _ _ hbyte ↦ (Option.some.inj hbyte).symm

theorem beginsAnew_of_beginning {torn : List UInt8} (htorn : torn <+: bytes)
    (hbytes : BeginsAnew bytes) : BeginsAnew torn := by
  obtain ⟨lost, rfl⟩ := htorn
  cases torn with
  | nil => exact fun _ hhead ↦ by cases hhead
  | cons byte rest => exact hbytes

theorem beginsAnew_append (hfirst : BeginsAnew first) (hsecond : BeginsAnew second) :
    BeginsAnew (first ++ second) := by
  cases first with
  | nil => exact hsecond
  | cons byte rest => exact hfirst

theorem escape_not_mem_tail : (0x1B : UInt8) ∉ showCursor.tail := by decide

/-- A beginning of settled bytes is hushed before an escape byte: the sequence that shows the cursor
has none but its first. -/
theorem Settled.beginning (h : Settled bytes) {torn : List UInt8} (htorn : torn <+: bytes) :
    Hushed BeginsAnew torn := by
  intro rest before after hrest hsplit
  by_contra hshort
  rw [Nat.not_le] at hshort
  obtain ⟨lost, rfl⟩ := htorn
  have hprefix : before <+: torn :=
    List.prefix_of_prefix_length_le (List.prefix_append before _) ⟨_, hsplit⟩ hshort.le
  obtain ⟨start, rfl⟩ := hprefix
  rw [List.append_assoc] at hsplit
  have hstart : start ++ rest = showCursor ++ after := List.append_cancel_left hsplit
  by_cases hwhole : showCursor.length ≤ start.length
  · -- the whole sequence would stand in the settled bytes
    obtain ⟨end', rfl⟩ : showCursor <+: start :=
      List.prefix_of_prefix_length_le (List.prefix_append _ after) ⟨_, hstart⟩ hwhole
    have hlength := h [] before (end' ++ lost) trivial (by simp)
    simp only [List.length_append] at hlength hshort
    omega
  · -- the rest would begin inside of the sequence, with an escape byte
    obtain ⟨tail, htail⟩ : start <+: showCursor :=
      List.prefix_of_prefix_length_le ⟨_, hstart⟩ (List.prefix_append _ after)
        (Nat.le_of_not_le hwhole)
    rw [← htail, List.append_assoc] at hstart
    have hrest' : rest = tail ++ after := List.append_cancel_left hstart
    cases start with
    | nil => simp at hshort
    | cons escape start =>
      have hend : showCursor.tail = start ++ tail := by rw [← htail]; rfl
      cases tail with
      | nil =>
        rw [List.append_nil] at htail
        exact hwhole (by rw [htail])
      | cons byte tail =>
        have hbyte : byte = 0x1B := hrest byte (by rw [hrest']; rfl)
        refine escape_not_mem_tail ?_
        rw [hend, ← hbyte]
        exact List.mem_append_right _ List.mem_cons_self

/-! ### Control sequences -/

/-- A byte at which the sequence does not begin. -/
theorem Settled.cons (h : Settled bytes) {byte : UInt8}
    (hother : ∀ rest after, byte :: (bytes ++ rest) ≠ showCursor ++ after) :
    Settled (byte :: bytes) := by
  intro rest before after _ hsplit
  cases before with
  | nil => exact absurd hsplit (hother rest after)
  | cons first before =>
    obtain ⟨-, hsplit⟩ := List.cons.inj hsplit
    exact Nat.succ_le_succ (h rest before after trivial hsplit)

/-- Bytes without an escape byte are settled. -/
theorem settled_of_no_escape (h : ∀ byte ∈ bytes, byte ≠ 0x1B) : Settled bytes := by
  induction bytes with
  | nil => exact hushed_nil
  | cons byte rest ih =>
    refine (ih fun other hmem ↦ h other (List.mem_cons_of_mem _ hmem)).cons ?_
    intro others after hsplit
    exact h byte List.mem_cons_self (List.cons.inj hsplit).1

/-- The printable characters of ASCII. -/
def isPrintable (c : Char) : Bool := 0x20 ≤ c.toNat && c.toNat < 128

/-- The byte of a printable character tells the character. -/
theorem toNat_toUInt8_of_isPrintable {c : Char} (hprintable : isPrintable c = true) :
    c.toUInt8.toNat = c.toNat ∧ 0x20 ≤ c.toNat := by
  simp only [isPrintable, Bool.and_eq_true, decide_eq_true_eq] at hprintable
  exact ⟨toNat_toUInt8 hprintable.2, hprintable.1⟩

/-- A control sequence is settled if its body is not that of the sequence that shows the cursor. -/
theorem settled_controlSequence {body : List Char} (hprintable : body.all isPrintable = true)
    (hother : ∀ rest after, body.map Char.toUInt8 ++ rest ≠ [0x3F, 0x32, 0x35, 0x68] ++ after) :
    Settled (controlSequence body) := by
  have hbody : Settled (0x5B :: body.map Char.toUInt8) := by
    refine settled_of_no_escape ?_
    intro byte hmem hescape
    rcases List.mem_cons.mp hmem with rfl | hmem
    · exact absurd hescape (by decide)
    · obtain ⟨c, hc, rfl⟩ := List.mem_map.mp hmem
      obtain ⟨hcode, hlow⟩ := toNat_toUInt8_of_isPrintable (List.all_eq_true.mp hprintable c hc)
      rw [hescape] at hcode
      rw [← hcode] at hlow
      exact absurd hlow (by decide)
  refine hbody.cons ?_
  intro rest after hsplit
  obtain ⟨-, hsplit⟩ := List.cons.inj hsplit
  obtain ⟨-, hsplit⟩ := List.cons.inj hsplit
  exact hother rest after hsplit

end Hushed

/-- The characters of control sequences without a question mark: digits, letters and semicolons. -/
def isBodyChar (c : Char) : Bool := isPrintable c && c != '?'

/-- A control sequence whose body is not empty and has no question mark is settled. -/
theorem settled_of_isBodyChar {body : List Char} (hbody : body ≠ [])
    (hchars : body.all isBodyChar = true) : Settled (controlSequence body) := by
  have hchar : ∀ c ∈ body, isPrintable c = true ∧ c ≠ '?' := by
    simpa [isBodyChar] using hchars
  refine settled_controlSequence (List.all_eq_true.mpr fun c hc ↦ (hchar c hc).1) ?_
  intro rest after hsplit
  cases body with
  | nil => exact hbody rfl
  | cons first body =>
    obtain ⟨hprintable, hmark⟩ := hchar first List.mem_cons_self
    have hcode := (toNat_toUInt8_of_isPrintable hprintable).1
    rw [(List.cons.inj hsplit).1] at hcode
    exact hmark (Char.toNat_inj.mp hcode.symm)

@[simp]
theorem all_isBodyChar_parameter (n : Nat) : (parameter n).all isBodyChar = true := by
  refine List.all_eq_true.mpr ?_
  intro c hc
  have hdigit : c.isDigit = true := Nat.isDigit_of_mem_toDigits (by decide) (by decide) hc
  obtain ⟨hlow, hhigh⟩ : 48 ≤ c.toNat ∧ c.toNat ≤ 57 := Char.isDigit_iff_toNat.mp hdigit
  have hmark : c ≠ '?' := by
    rintro rfl
    exact absurd hhigh (by decide)
  simp [isBodyChar, isPrintable, hmark]
  omega

/-- The control sequence of a colour whose code stands before it. -/
theorem settled_trueColor {code : List Char} (hcode : code.all isBodyChar = true) (c : Rgb) :
    Settled (controlSequence (code ++ colorParameters c ++ ['m'])) := by
  have hseparator : isBodyChar ';' = true := by decide
  have hfinal : isBodyChar 'm' = true := by decide
  refine settled_of_isBodyChar (by simp) ?_
  simp only [colorParameters, List.all_append, List.all_cons, List.all_nil, Bool.and_true, hcode,
    hseparator, hfinal, all_isBodyChar_parameter]

/-- The control sequence of a cursor address. -/
theorem settled_addressBody (x y : Nat) : Settled (controlSequence (addressBody x y)) := by
  have hseparator : isBodyChar ';' = true := by decide
  have hfinal : isBodyChar 'H' = true := by decide
  unfold addressBody
  refine settled_of_isBodyChar ?_ ?_
  · split_ifs <;> simp
  · split_ifs <;>
      simp only [List.all_append, List.all_cons, List.all_nil, Bool.and_true, hseparator, hfinal,
        all_isBodyChar_parameter]

/-! ### Marks -/

/-- The encoding of a character other than a control character has no escape byte. -/
theorem escape_not_mem_encodeChar {c : Char} (hlow : 0x20 ≤ c.toNat) :
    ∀ byte ∈ Text.encodeChar c, byte ≠ 0x1B := by
  have hlimit := toNat_lt c
  have hbyte : ∀ n : Nat, n < 256 → 0x20 ≤ n → UInt8.ofNat n ≠ 0x1B := by
    intro n hn hlow heq
    have hcode := congrArg UInt8.toNat heq
    rw [UInt8.toNat_ofNat', Nat.mod_eq_of_lt hn] at hcode
    rw [hcode] at hlow
    exact absurd hlow (by decide)
  unfold Text.encodeChar
  dsimp only
  intro byte hmem
  split_ifs at hmem <;> simp only [List.mem_cons, List.not_mem_nil, or_false] at hmem
  · rw [hmem]
    exact hbyte _ (by omega) hlow
  · rcases hmem with rfl | rfl <;> exact hbyte _ (by omega) (by omega)
  · rcases hmem with rfl | rfl | rfl <;> exact hbyte _ (by omega) (by omega)
  · rcases hmem with rfl | rfl | rfl | rfl <;> exact hbyte _ (by omega) (by omega)

/-- A mark does not show the cursor. -/
theorem Mark.settled {mark : Mark} (hplain : mark.isPlain = true) : Settled mark.bytes := by
  cases mark with
  | hideCursor =>
    simp only [Mark.bytes, String.reduceToList]
    refine settled_controlSequence (by decide) ?_
    intro rest after hsplit
    have hlast : 'l'.toUInt8 = 0x68 := by
      simp only [List.map_cons, List.cons_append, List.cons.injEq] at hsplit
      exact hsplit.2.2.2.1
    exact absurd hlast (by decide)
  | resetStyle =>
    simp only [Mark.bytes, String.reduceToList]
    exact settled_of_isBodyChar (by decide) (by decide)
  | setBold =>
    simp only [Mark.bytes, String.reduceToList]
    exact settled_of_isBodyChar (by decide) (by decide)
  | setForeground color =>
    cases color with
    | standard =>
      simp only [Mark.bytes, String.reduceToList]
      exact settled_of_isBodyChar (by decide) (by decide)
    | rgb c =>
      simp only [Mark.bytes, String.reduceToList]
      exact settled_trueColor (by decide) c
  | setBackground color =>
    cases color with
    | standard =>
      simp only [Mark.bytes, String.reduceToList]
      exact settled_of_isBodyChar (by decide) (by decide)
    | rgb c =>
      simp only [Mark.bytes, String.reduceToList]
      exact settled_trueColor (by decide) c
  | moveTo x y => exact settled_addressBody x y
  | glyph c =>
    have hwidth : glyphWidth c ≠ 0 := by simpa [Mark.isPlain] using hplain
    exact settled_of_no_escape (escape_not_mem_encodeChar (not_control_of_glyphWidth hwidth).1)

/-- Marks do not show the cursor. -/
theorem settled_bytesOfMarks (marks : List Mark) (hplain : ∀ mark ∈ marks, mark.isPlain = true) :
    Settled (bytesOfMarks marks) := by
  induction marks with
  | nil => exact hushed_nil
  | cons mark rest ih =>
    have hfirst := Mark.settled (hplain mark List.mem_cons_self)
    exact hfirst.append (ih fun other hmem ↦ hplain other (List.mem_cons_of_mem _ hmem))

end LiveBoard.Screen
