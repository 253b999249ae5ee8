import LiveBoard.Proofs.Screen.Terminal

/-!
# Terminals obey marks

The bytes of a mark have the effect of the mark. A control sequence has it in whatever the
terminal was reading, because its escape byte abandons that (`feed_bytes_of_isControl`); a glyph
has it between characters and sequences, provided that it has a width and is thus no control
character (`feed_encodeChar`). `feed_bytesOfMarks` is the result for drawings: marks whose glyphs
have widths act one after the other, and leave the terminal ready for text.
-/

set_option autoImplicit false
set_option relaxedAutoImplicit false

namespace LiveBoard.Screen

/-- The terminal ready for text. -/
def Terminal.ready (terminal : Terminal) : Terminal := { terminal with reading := .text }

theorem Terminal.ready_of_reading {terminal : Terminal} (h : terminal.reading = .text) :
    terminal.ready = terminal := by
  cases terminal
  cases h
  rfl

@[simp]
theorem Terminal.reading_ready (terminal : Terminal) : terminal.ready.reading = .text := rfl

/-! ### Control sequences -/

/-- The terminal within a control sequence. -/
def Terminal.within (terminal : Terminal) (marked : Bool) (parameters : List Nat) (last : Nat) :
    Terminal :=
  { terminal with reading := .sequence marked parameters last }

theorem toNat_toUInt8 {c : Char} (hascii : c.toNat < 128) : c.toUInt8.toNat = c.toNat := by
  change c.val.toNat % 256 = c.val.toNat
  exact Nat.mod_eq_of_lt (Nat.lt_trans hascii (by decide))

/-- The introducer of a control sequence abandons what the terminal was reading. -/
theorem Terminal.feed_controlSequence (terminal : Terminal) (body : List Char) :
    terminal.feed (controlSequence body) =
      (terminal.within false [] 0).feed (body.map Char.toUInt8) :=
  rfl

/-- Assumes: an ASCII character other than escape. Within a control sequence its byte is read as the
character. -/
theorem Terminal.receive_within (terminal : Terminal) (marked : Bool) (parameters : List Nat)
    (last : Nat) {c : Char} (hascii : c.toNat < 128) (hescape : c.toNat ≠ 0x1B) :
    (terminal.within marked parameters last).receive c.toUInt8 =
      (terminal.within marked parameters last).receiveCode marked parameters last c := by
  have hbyte := toNat_toUInt8 hascii
  unfold Terminal.receive
  rw [if_neg (by rw [hbyte]; exact hescape), hbyte, Char.ofNat_toNat]
  rfl

/-- Assumes: digits. Within a control sequence they continue the parameter that is being read. -/
theorem Terminal.feed_digits (terminal : Terminal) (marked : Bool) (parameters : List Nat)
    (digits : List Char) (hdigits : ∀ c ∈ digits, c.isDigit = true) (last : Nat) :
    (terminal.within marked parameters last).feed (digits.map Char.toUInt8) =
      terminal.within marked parameters (Nat.ofDigitChars 10 digits last) := by
  induction digits generalizing last with
  | nil => rfl
  | cons c rest ih =>
    have hdigit := hdigits c (by simp)
    have hbounds : 48 ≤ c.toNat ∧ c.toNat ≤ 57 := Char.isDigit_iff_toNat.mp hdigit
    have hstep : (terminal.within marked parameters last).receive c.toUInt8 =
        terminal.within marked parameters (10 * last + (c.toNat - '0'.toNat)) := by
      rw [terminal.receive_within marked parameters last (by omega) (by omega)]
      unfold Terminal.receiveCode
      rw [if_pos hdigit]
      rfl
    rw [List.map_cons, Nat.ofDigitChars_cons]
    change ((terminal.within marked parameters last).receive c.toUInt8).feed _ = _
    rw [hstep]
    exact ih (fun c hc ↦ hdigits c (by simp [hc])) _

theorem Terminal.feed_parameter (terminal : Terminal) (marked : Bool) (parameters : List Nat)
    (n : Nat) :
    (terminal.within marked parameters 0).feed ((parameter n).map Char.toUInt8) =
      terminal.within marked parameters n := by
  have hdigits : ∀ c ∈ parameter n, c.isDigit = true := fun c hc ↦
    Nat.isDigit_of_mem_toDigits (by decide) (by decide) hc
  rw [terminal.feed_digits marked parameters _ hdigits, parameter,
    Nat.ofDigitChars_toDigits (by decide) (by decide)]

/-- The semicolon after a parameter finishes it, and the next one is read. -/
theorem Terminal.feed_separated (terminal : Terminal) (marked : Bool) (parameters : List Nat)
    (n : Nat) (rest : List UInt8) :
    (terminal.within marked parameters 0).feed
        ((parameter n).map Char.toUInt8 ++ ';'.toUInt8 :: rest) =
      (terminal.within marked (parameters ++ [n]) 0).feed rest := by
  rw [Terminal.feed_append, Terminal.feed_parameter]
  rfl

/-- Assumes: the beginning of a sequence with a code, by which a true colour follows. The whole
sequence is executed with the code and the colour. -/
theorem Terminal.feed_trueColor (terminal : Terminal) (code : Nat) {start : List Char} (c : Rgb)
    (hstart : (terminal.within false [] 0).feed (start.map Char.toUInt8) =
      terminal.within false [code, 2] 0) :
    terminal.feed (controlSequence (start ++ colorParameters c ++ ['m'])) =
      terminal.ready.execute false [code, 2, c.red.toNat, c.green.toNat, c.blue.toNat] 'm' := by
  rw [Terminal.feed_controlSequence, List.append_assoc, List.map_append, Terminal.feed_append,
    hstart]
  simp only [colorParameters, List.map_append, List.map_cons, List.append_assoc,
    List.cons_append]
  rw [Terminal.feed_separated, Terminal.feed_separated, Terminal.feed_append,
    Terminal.feed_parameter]
  rfl

@[simp]
theorem colorOf_toNat (c : Rgb) : colorOf c.red.toNat c.green.toNat c.blue.toNat = .rgb c := by
  simp [colorOf]

/-- A cursor address addresses the cursor, also where it leaves out what is one. -/
theorem Terminal.feed_addressBody (terminal : Terminal) (x y : Nat) :
    (terminal.within false [] 0).feed ((addressBody x y).map Char.toUInt8) =
      terminal.ready.address x y := by
  unfold addressBody
  split_ifs with hcorner hedge
  · obtain ⟨rfl, rfl⟩ := hcorner
    rfl
  · subst hedge
    rw [List.map_append, Terminal.feed_append, Terminal.feed_parameter]
    rfl
  · simp only [List.map_append, List.map_cons, List.append_assoc, List.cons_append]
    rw [Terminal.feed_separated, Terminal.feed_append, Terminal.feed_parameter]
    rfl

/-- Whether a mark is sent as a control sequence. -/
def Mark.isControl : Mark → Bool
  | .glyph _ => false
  | _ => true

/-- A control sequence has the effect of its mark, whatever the terminal was reading. -/
theorem Terminal.feed_bytes_of_isControl (terminal : Terminal) {mark : Mark}
    (hcontrol : mark.isControl = true) : terminal.feed mark.bytes = terminal.ready.obey mark := by
  cases mark with
  | hideCursor =>
    simp only [Mark.bytes, String.reduceToList]
    rfl
  | resetStyle =>
    simp only [Mark.bytes, String.reduceToList]
    rfl
  | setBold =>
    simp only [Mark.bytes, String.reduceToList]
    rfl
  | setForeground color =>
    cases color with
    | standard =>
      simp only [Mark.bytes, String.reduceToList]
      rfl
    | rgb c =>
      simp only [Mark.bytes, String.reduceToList]
      rw [terminal.feed_trueColor 38 c rfl]
      simp [Terminal.execute, Attributes.select, Terminal.obey]
  | setBackground color =>
    cases color with
    | standard =>
      simp only [Mark.bytes, String.reduceToList]
      rfl
    | rgb c =>
      simp only [Mark.bytes, String.reduceToList]
      rw [terminal.feed_trueColor 48 c rfl]
      simp [Terminal.execute, Attributes.select, Terminal.obey]
  | moveTo x y => exact terminal.feed_addressBody x y
  | glyph c => cases hcontrol

/-! ### Glyphs -/

/-- The terminal within a character. -/
def Terminal.amid (terminal : Terminal) (missing code : Nat) : Terminal :=
  { terminal with reading := .character missing code }

/-- A further byte of a character that is not the last one. -/
theorem Terminal.receive_amid (terminal : Terminal) {missing code bits : Nat} (hbits : bits < 64)
    (hmissing : 1 < missing) :
    (terminal.amid missing code).receive (.ofNat (0x80 + bits)) =
      terminal.amid (missing - 1) (code * 64 + bits) := by
  have hbyte : (UInt8.ofNat (0x80 + bits)).toNat = 0x80 + bits := by
    rw [UInt8.toNat_ofNat']
    omega
  unfold Terminal.receive
  rw [hbyte, if_neg (by omega)]
  change (terminal.amid missing code).receiveRest missing code (0x80 + bits) = _
  unfold Terminal.receiveRest
  rw [if_pos (by omega), if_neg (by omega), Nat.add_sub_cancel_left]
  rfl

/-- The last byte of a character prints it. -/
theorem Terminal.receive_amid_last (terminal : Terminal) {code bits : Nat} (hbits : bits < 64) :
    (terminal.amid 1 code).receive (.ofNat (0x80 + bits)) =
      terminal.ready.print (Char.ofNat (code * 64 + bits)) := by
  have hbyte : (UInt8.ofNat (0x80 + bits)).toNat = 0x80 + bits := by
    rw [UInt8.toNat_ofNat']
    omega
  unfold Terminal.receive
  rw [hbyte, if_neg (by omega)]
  change (terminal.amid 1 code).receiveRest 1 code (0x80 + bits) = _
  unfold Terminal.receiveRest
  rw [if_pos (by omega), if_pos (by omega), Nat.add_sub_cancel_left]
  rfl

/-- The first byte of a character of several bytes. -/
theorem Terminal.receive_lead (terminal : Terminal) (hready : terminal.reading = .text)
    (byte missing base : Nat)
    (hlead : missing = 1 ∧ base = 0xC0 ∧ 0xC0 ≤ byte ∧ byte < 0xE0 ∨
      missing = 2 ∧ base = 0xE0 ∧ 0xE0 ≤ byte ∧ byte < 0xF0 ∨
      missing = 3 ∧ base = 0xF0 ∧ 0xF0 ≤ byte ∧ byte < 0xF8) :
    terminal.receive (.ofNat byte) = terminal.amid missing (byte - base) := by
  have hbyte : (UInt8.ofNat byte).toNat = byte := by
    rw [UInt8.toNat_ofNat']
    omega
  unfold Terminal.receive
  rw [hbyte, if_neg (by omega), hready]
  change terminal.receiveFirst byte = _
  unfold Terminal.receiveFirst
  rcases hlead with ⟨rfl, rfl, hlow, hhigh⟩ | ⟨rfl, rfl, hlow, hhigh⟩ | ⟨rfl, rfl, hlow, hhigh⟩
  · rw [if_neg (by omega), if_neg (by omega), if_neg (by omega), if_pos hhigh]
    rfl
  · rw [if_neg (by omega), if_neg (by omega), if_neg (by omega), if_neg (by omega), if_pos hhigh]
    rfl
  · rw [if_neg (by omega), if_neg (by omega), if_neg (by omega), if_neg (by omega),
      if_neg (by omega), if_pos hhigh]
    rfl

theorem toNat_lt (c : Char) : c.toNat < 0x110000 := by
  rcases c.valid with hlow | ⟨-, hhigh⟩
  · exact Nat.lt_trans hlow (by decide)
  · exact hhigh

/-- Control characters have no width. -/
theorem not_control_of_glyphWidth {c : Char} (hwidth : glyphWidth c ≠ 0) :
    0x20 ≤ c.toNat ∧ (c.toNat < 0x7F ∨ 0x9F < c.toNat) := by
  have hoff : ∀ range ∈ widthless, ¬ (range.1 ≤ c.toNat ∧ c.toNat ≤ range.2) ∨
      0x20 ≤ c.toNat ∧ c.toNat < 0x7F := by
    intro range hrange
    by_contra hin
    rw [not_or, not_not] at hin
    refine hwidth ?_
    unfold glyphWidth
    rw [if_neg hin.2, if_pos]
    exact List.any_eq_true.mpr ⟨range, hrange, by simpa using hin.1⟩
  have hlow := hoff (0x0, 0x1F) List.mem_cons_self
  have hdelete := hoff (0x7F, 0x9F) (List.mem_cons_of_mem _ List.mem_cons_self)
  dsimp only at hlow hdelete
  omega

/-- Assumes: a terminal ready for text and a character with a width. Its encoding prints it. -/
theorem Terminal.feed_encodeChar (terminal : Terminal) (hready : terminal.reading = .text)
    {c : Char} (hwidth : glyphWidth c ≠ 0) :
    terminal.feed (Text.encodeChar c) = terminal.print c := by
  obtain ⟨hcontrol, hdelete⟩ := not_control_of_glyphWidth hwidth
  have hlimit := toNat_lt c
  have hdone : terminal.ready = terminal := Terminal.ready_of_reading hready
  unfold Text.encodeChar
  dsimp only
  split_ifs with hone htwo hthree
  · have hbyte : (UInt8.ofNat c.toNat).toNat = c.toNat := by
      rw [UInt8.toNat_ofNat']
      omega
    change terminal.receive _ = _
    unfold Terminal.receive
    rw [hbyte, if_neg (by omega), hready]
    change terminal.receiveFirst c.toNat = _
    unfold Terminal.receiveFirst
    rw [if_neg (by omega), if_pos hone, Char.ofNat_toNat]
  · have hlead := terminal.receive_lead hready (0xC0 + c.toNat / 64) 1 0xC0 (by omega)
    change (terminal.receive _).receive _ = _
    rw [hlead, Terminal.receive_amid_last _ (by omega), hdone]
    congr 1
    rw [show (0xC0 + c.toNat / 64 - 0xC0) * 64 + c.toNat % 64 = c.toNat by omega, Char.ofNat_toNat]
  · have hlead := terminal.receive_lead hready (0xE0 + c.toNat / 4096) 2 0xE0 (by omega)
    change ((terminal.receive _).receive _).receive _ = _
    rw [hlead, Terminal.receive_amid _ (by omega) (by omega),
      Terminal.receive_amid_last _ (by omega), hdone]
    congr 1
    rw [show ((0xE0 + c.toNat / 4096 - 0xE0) * 64 + c.toNat / 64 % 64) * 64 + c.toNat % 64 =
      c.toNat by omega, Char.ofNat_toNat]
  · have hlead := terminal.receive_lead hready (0xF0 + c.toNat / 262144) 3 0xF0
      (by omega)
    change (((terminal.receive _).receive _).receive _).receive _ = _
    rw [hlead, Terminal.receive_amid _ (by omega) (by omega),
      Terminal.receive_amid _ (by omega) (by omega), Terminal.receive_amid_last _ (by omega), hdone]
    congr 1
    rw [show (((0xF0 + c.toNat / 262144 - 0xF0) * 64 + c.toNat / 4096 % 64) * 64 +
      c.toNat / 64 % 64) * 64 + c.toNat % 64 = c.toNat by omega, Char.ofNat_toNat]

/-! ### Drawings -/

/-- Whether a mark is a control sequence or a glyph with a width. -/
def Mark.isPlain : Mark → Bool
  | .glyph c => glyphWidth c != 0
  | _ => true

@[simp]
theorem Terminal.print_reading (terminal : Terminal) (c : Char) :
    (terminal.print c).reading = terminal.reading := by
  unfold Terminal.print Terminal.wrap Terminal.write
  split_ifs <;> rfl

@[simp]
theorem Terminal.obey_reading (terminal : Terminal) (mark : Mark) :
    (terminal.obey mark).reading = terminal.reading := by
  cases mark with
  | glyph c => exact terminal.print_reading c
  | _ => rfl

@[simp]
theorem Terminal.obeyAll_reading (terminal : Terminal) (marks : List Mark) :
    (terminal.obeyAll marks).reading = terminal.reading := by
  induction marks generalizing terminal with
  | nil => rfl
  | cons mark rest ih => exact (ih (terminal.obey mark)).trans (terminal.obey_reading mark)

theorem Terminal.feed_bytes_of_isPlain (terminal : Terminal) (hready : terminal.reading = .text)
    {mark : Mark} (hplain : mark.isPlain = true) :
    terminal.feed mark.bytes = terminal.obey mark := by
  by_cases hcontrol : mark.isControl = true
  · rw [terminal.feed_bytes_of_isControl hcontrol, Terminal.ready_of_reading hready]
  · cases mark with
    | glyph c => exact terminal.feed_encodeChar hready (by simpa [Mark.isPlain] using hplain)
    | _ => exact absurd rfl hcontrol

/-- Assumes: a terminal ready for text, and marks whose glyphs have widths. Their bytes have the
effects of the marks, one after the other. -/
theorem Terminal.feed_bytesOfMarks (terminal : Terminal) (hready : terminal.reading = .text)
    (marks : List Mark) (hplain : ∀ mark ∈ marks, mark.isPlain = true) :
    terminal.feed (bytesOfMarks marks) = terminal.obeyAll marks := by
  induction marks generalizing terminal with
  | nil => rfl
  | cons mark rest ih =>
    have hfirst := terminal.feed_bytes_of_isPlain hready (hplain mark (by simp))
    have hrest := ih (terminal.obey mark) (by rw [Terminal.obey_reading, hready])
      fun other hother ↦ hplain other (by simp [hother])
    change terminal.feed (mark.bytes ++ bytesOfMarks rest) = _
    rw [Terminal.feed_append, hfirst, hrest]
    rfl

/-- Marks of which the first is a control sequence have their effects in any state of reading. -/
theorem Terminal.feed_bytesOfMarks_cons (terminal : Terminal) {first : Mark}
    (hcontrol : first.isControl = true) (rest : List Mark)
    (hplain : ∀ mark ∈ rest, mark.isPlain = true) :
    terminal.feed (bytesOfMarks (first :: rest)) = terminal.ready.obeyAll (first :: rest) := by
  have hready : (terminal.ready.obey first).reading = .text := by
    rw [Terminal.obey_reading, Terminal.reading_ready]
  have hrest := (terminal.ready.obey first).feed_bytesOfMarks hready rest hplain
  change terminal.feed (first.bytes ++ bytesOfMarks rest) = _
  rw [Terminal.feed_append, terminal.feed_bytes_of_isControl hcontrol, hrest]
  rfl

end LiveBoard.Screen
