import LiveBoard.Proofs.Screen.Writing
import LiveBoard.Proofs.Screen.FrameDrawing
import LiveBoard.Proofs.Text.Utf8

/-!
# What is sent to the terminal

Whatever is written into frames, drawing them sends nothing but cursor addresses within the frame,
selections of colours and weight, and glyphs. A `Piece` is one of these with the text it is sent as,
`Frame.Written` are the frames that writing makes, and `Frame.Written.sends` is the result: the
bytes of a difference, from any frame and with any pen, are a sequence of pieces, and those of a
repaint are one after the sequence that hides the cursor. The terminal reads back the text of the
pieces, in which a control character is an escape and starts a piece (`Sends`).

It rests on the cells: a character without a width is never put into one (`Cell.Made.isDrawn`), and
the control characters have none. The null character in continuations is never sent.
-/

set_option autoImplicit false
set_option relaxedAutoImplicit false

namespace LiveBoard.Screen

/-! ### Written frames -/

/-- A cell as characters and styles make it. -/
inductive Cell.Made : Cell → Prop
  /-- The cell of a character. -/
  | ofChar (c : Char) : Made (.ofChar c)
  /-- The right half of a wide glyph. -/
  | continuation (style : Style) : Made (.continuation style)
  /-- A cell in another style. -/
  | withStyle {cell : Cell} (hcell : Made cell) (style : Style) : Made (cell.withStyle style)

/-- A frame of a size as writing makes it. -/
inductive Frame.Written (width height : Nat) : Frame → Prop
  /-- A new frame. -/
  | new {frame : Frame} (hframe : Frame.ofSize? width height = some frame) :
    Written width height frame
  /-- A text is written. -/
  | put {frame : Frame} (hframe : Written width height frame) (x y : Nat) (text : List Char)
    (style : Style) : Written width height (frame.put x y text style)
  /-- A span is blanked. -/
  | fill {frame : Frame} (hframe : Written width height frame) (x y count : Nat) (style : Style) :
    Written width height (frame.fill x y count style)
  /-- The frame is cleared. -/
  | cleared {frame : Frame} (hframe : Written width height frame) :
    Written width height frame.cleared
  /-- A cell is set. -/
  | set {frame : Frame} (hframe : Written width height frame) (x y : Nat) {cell : Cell}
    (hcell : cell.Made) : Written width height (frame.set x y cell)

/-- A cell that is no continuation was made from a character with a width. -/
theorem Cell.Made.isDrawn {cell : Cell} (h : cell.Made) (hwhole : cell.isContinuation = false) :
    cell.IsDrawn := by
  induction h with
  | ofChar c =>
    refine ⟨c, .plain, ?_⟩
    unfold Cell.styled Cell.ofChar
    split_ifs <;> rfl
  | continuation style => cases hwhole
  | withStyle _ style ih =>
    obtain ⟨c, _, rfl⟩ := ih hwhole
    exact ⟨c, style, rfl⟩

/-- A frame of a size of which the cells that are no continuations were made from characters. -/
structure Frame.LegibleOfSize (frame : Frame) (width height : Nat) : Prop where
  /-- The cells that are no continuations were made from characters. -/
  legible : frame.Legible
  /-- The width. -/
  width : frame.width = width
  /-- The height. -/
  height : frame.height = height

section Written

variable {width height : Nat} {frame : Frame} {cell : Cell}

theorem Frame.LegibleOfSize.blank (width height : Nat) :
    (Frame.blank width height).LegibleOfSize width height := by
  refine ⟨?_, rfl, rfl⟩
  intro cell hcell _
  obtain ⟨-, rfl⟩ : width * height ≠ 0 ∧ cell = .blank := by
    simpa [Frame.blank] using hcell
  exact Cell.blank_isDrawn .plain

/-- Setting a cell puts in that cell and no other. -/
theorem Frame.LegibleOfSize.set (h : frame.LegibleOfSize width height) (x y : Nat)
    (hcell : cell.isContinuation = false → cell.IsDrawn) :
    (frame.set x y cell).LegibleOfSize width height := by
  unfold Frame.set
  split
  · refine ⟨?_, h.width, h.height⟩
    intro other hother
    rw [Array.mem_toList_iff] at hother
    rcases Array.mem_or_eq_of_mem_setIfInBounds hother with hold | rfl
    · exact h.legible other (Array.mem_toList_iff.mpr hold)
    · exact hcell
  · exact h

theorem Frame.LegibleOfSize.placeAll {cells : List Cell} (h : frame.LegibleOfSize width height)
    (x y : Nat) (hcells : ∀ cell ∈ cells, cell.IsDrawn) :
    (frame.placeAll x y cells).LegibleOfSize width height := by
  induction cells generalizing frame x with
  | nil => exact h
  | cons cell rest ih =>
    have hfirst : (frame.place x y cell).LegibleOfSize width height := by
      have hleft := h.set x y fun _ ↦ hcells cell List.mem_cons_self
      unfold Frame.place
      split_ifs
      · exact hleft.set (x + 1) y fun hwhole ↦ by cases hwhole
      · exact hleft
    exact ih hfirst (x + cell.width) fun other hother ↦ hcells other (List.mem_cons_of_mem _ hother)

theorem Frame.LegibleOfSize.fill (h : frame.LegibleOfSize width height) (x y count : Nat)
    (style : Style) : (frame.fill x y count style).LegibleOfSize width height := by
  unfold Frame.fill
  generalize List.range' x (min (x + count) frame.width - x) = span
  induction span generalizing frame with
  | nil => exact h
  | cons column rest ih => exact ih (h.set column y fun _ ↦ Cell.blank_isDrawn style)

/-- Writing leaves cells that were made from characters. -/
theorem Frame.Written.legibleOfSize (h : frame.Written width height) :
    frame.LegibleOfSize width height := by
  induction h with
  | new hframe =>
    unfold Frame.ofSize? at hframe
    split_ifs at hframe
    cases hframe
    exact .blank width height
  | put _ x y text style ih => exact ih.placeAll x y fun cell hcell ↦ isDrawn_of_mem_fitting hcell
  | fill _ x y count style ih => exact ih.fill x y count style
  | @cleared frame _ ih =>
    unfold Frame.cleared
    rw [ih.width, ih.height]
    exact .blank width height
  | set _ x y hcell ih => exact ih.set x y hcell.isDrawn

theorem Frame.Written.width_pos (h : frame.Written width height) : 0 < width := by
  induction h with
  | new hframe =>
    unfold Frame.ofSize? at hframe
    split_ifs at hframe with hzero
    omega
  | _ => assumption

end Written

/-! ### Pieces of output -/

/-- What a terminal is told by a control sequence. -/
inductive Command
  /-- To hide the cursor. -/
  | hideCursor
  /-- To move the cursor to the first column of the first row. -/
  | home
  /-- To move the cursor to the first column of a row, counted from one. -/
  | line (row : Nat)
  /-- To move the cursor to a row and a column, counted from one. -/
  | place (row column : Nat)
  /-- To return to its own colours without modifiers. -/
  | reset
  /-- To make glyphs bold. -/
  | bold
  /-- To return to its own colour of glyphs. -/
  | ownForeground
  /-- To return to its own colour behind glyphs. -/
  | ownBackground
  /-- To set the colour of glyphs by its red, green and blue parts. -/
  | foreground (red green blue : Nat)
  /-- To set the colour behind glyphs by its red, green and blue parts. -/
  | background (red green blue : Nat)

/-- One piece of what a terminal is sent. -/
inductive Piece
  /-- A control sequence. -/
  | control (command : Command)
  /-- A character to print. -/
  | glyph (c : Char)

/-- The escape character. -/
def escape : Char := Char.ofNat 0x1B

/-- A number in decimal digits. -/
def decimal (n : Nat) : List Char := Nat.toDigits 10 n

/-- What follows the escape character and the bracket in the form of a command. -/
def Command.body : Command → List Char
  | .hideCursor => ['?', '2', '5', 'l']
  | .home => ['H']
  | .line row => decimal row ++ ['H']
  | .place row column => decimal row ++ [';'] ++ decimal column ++ ['H']
  | .reset => ['0', 'm']
  | .bold => ['1', 'm']
  | .ownForeground => ['3', '9', 'm']
  | .ownBackground => ['4', '9', 'm']
  | .foreground red green blue =>
    ['3', '8', ';', '2', ';'] ++ decimal red ++ [';'] ++ decimal green ++ [';'] ++ decimal blue ++
      ['m']
  | .background red green blue =>
    ['4', '8', ';', '2', ';'] ++ decimal red ++ [';'] ++ decimal green ++ [';'] ++ decimal blue ++
      ['m']

/-- The text that a piece is sent as. -/
def Piece.text : Piece → List Char
  | .control command => escape :: '[' :: command.body
  | .glyph c => [c]

/-- The text that pieces are sent as. -/
def textOf (pieces : List Piece) : List Char := pieces.flatMap Piece.text

/-- The command serves to draw a frame of a size: rows and columns lie in it, and the parts of
colours are bytes. -/
def Command.Within (width height : Nat) : Command → Prop
  | .hideCursor => False
  | .line row => 1 ≤ row ∧ row ≤ height
  | .place row column => 1 ≤ row ∧ row ≤ height ∧ 1 ≤ column ∧ column ≤ width
  | .foreground red green blue => red ≤ 255 ∧ green ≤ 255 ∧ blue ≤ 255
  | .background red green blue => red ≤ 255 ∧ green ≤ 255 ∧ blue ≤ 255
  | _ => True

/-- The piece serves to draw a frame of a size: a glyph takes one or two columns. -/
def Piece.Within (width height : Nat) : Piece → Prop
  | .control command => command.Within width height
  | .glyph c => glyphWidth c = 1 ∨ glyphWidth c = 2

/-- Whether a character is one of the control characters: the first of all and of the second half of
the one-byte codes, and the delete character. -/
def isControlCode (c : Char) : Prop := c.toNat < 0x20 ∨ 0x7F ≤ c.toNat ∧ c.toNat ≤ 0x9F

/-- Bytes are pieces in the forms of their texts. The text is read back from the bytes, and a
control character in it is an escape that starts the form of a command. -/
structure Sends (bytes : List UInt8) (pieces : List Piece) : Prop where
  /-- The bytes are those of the text. -/
  bytes_eq : bytes = Text.encodeText (textOf pieces)
  /-- The text is read back. -/
  read : Text.decodeText? bytes = some (textOf pieces)
  /-- Control characters start commands. -/
  controls : ∀ (before : List Char) (c : Char) (after : List Char),
    textOf pieces = before ++ c :: after → isControlCode c →
      c = escape ∧ ∃ (first : List Piece) (command : Command) (rest : List Piece),
        pieces = first ++ .control command :: rest ∧ before = textOf first

section Pieces

variable {width height : Nat}

/-- The characters of ASCII that can be printed. -/
def isPrinted (c : Char) : Bool := 0x20 ≤ c.toNat && c.toNat < 0x7F

@[grind =]
theorem isPrinted_iff {c : Char} : isPrinted c = true ↔ 0x20 ≤ c.toNat ∧ c.toNat < 0x7F := by
  simp [isPrinted]

@[simp]
theorem all_isPrinted_decimal (n : Nat) : (decimal n).all isPrinted = true := by
  refine List.all_eq_true.mpr ?_
  intro c hc
  have hdigit : c.isDigit = true := Nat.isDigit_of_mem_toDigits (by decide) (by decide) hc
  obtain ⟨hlow, hhigh⟩ : 48 ≤ c.toNat ∧ c.toNat ≤ 57 := Char.isDigit_iff_toNat.mp hdigit
  exact isPrinted_iff.mpr ⟨by omega, by omega⟩

/-- In the form of a command only the escape character is no printed one. -/
@[simp]
theorem Command.all_isPrinted_body (command : Command) : command.body.all isPrinted = true := by
  cases command with
  | line row => simp [Command.body, isPrinted]
  | place row column => simp [Command.body, isPrinted]
  | foreground red green blue => simp [Command.body, isPrinted]
  | background red green blue => simp [Command.body, isPrinted]
  | _ => decide

/-- After the escape character the form of a command has printed characters only. -/
theorem Command.isPrinted_of_mem {command : Command} {c : Char} (h : c ∈ '[' :: command.body) :
    0x20 ≤ c.toNat ∧ c.toNat < 0x7F := by
  refine isPrinted_iff.mp ?_
  rcases List.mem_cons.mp h with rfl | hbody
  · decide
  · exact List.all_eq_true.mp command.all_isPrinted_body c hbody

/-- The form of a command is a control sequence. -/
theorem Command.encodeText_text (command : Command) :
    Text.encodeText (Piece.control command).text = controlSequence command.body := by
  refine (Text.encodeText_of_ascii ?_).trans rfl
  intro c hc
  rcases List.mem_cons.mp hc with rfl | hc
  · decide
  · exact Nat.lt_trans (Command.isPrinted_of_mem hc).2 (by decide)

/-- A character with a width is no control character. -/
theorem not_isControlCode {c : Char} (hwidth : glyphWidth c ≠ 0) : ¬ isControlCode c := by
  obtain ⟨hlow, hhigh⟩ := not_control_of_glyphWidth hwidth
  rintro (hfirst | hsecond) <;> omega

/-- A control character in the form of a piece is the escape that starts it. -/
theorem Piece.control_of_text {piece : Piece} (hglyph : ∀ c, piece = .glyph c → glyphWidth c ≠ 0)
    {before : List Char} {c : Char} {after : List Char} (htext : piece.text = before ++ c :: after)
    (hcontrol : isControlCode c) :
    c = escape ∧ before = [] ∧ ∃ command, piece = .control command := by
  cases piece with
  | glyph g =>
    have hmem : c ∈ [g] := by
      rw [show [g] = before ++ c :: after from htext]
      simp
    rw [List.mem_singleton.mp hmem] at hcontrol
    exact absurd hcontrol (not_isControlCode (hglyph g rfl))
  | control command =>
    change escape :: '[' :: command.body = before ++ c :: after at htext
    cases before with
    | nil => exact ⟨(List.cons.inj htext).1.symm, rfl, command, rfl⟩
    | cons first before =>
      have hmem : c ∈ '[' :: command.body := by
        rw [(List.cons.inj htext).2]
        simp
      obtain ⟨hlow, hhigh⟩ := Command.isPrinted_of_mem hmem
      rcases hcontrol with hfirst | hsecond <;> omega

/-- A control character in the text of pieces starts the form of a command. -/
theorem controls_of_glyphs {pieces : List Piece}
    (h : ∀ piece ∈ pieces, ∀ c, piece = .glyph c → glyphWidth c ≠ 0)
    {before : List Char} {c : Char} {after : List Char}
    (htext : textOf pieces = before ++ c :: after) (hcontrol : isControlCode c) :
    c = escape ∧ ∃ (first : List Piece) (command : Command) (rest : List Piece),
      pieces = first ++ .control command :: rest ∧ before = textOf first := by
  induction pieces generalizing before with
  | nil => simp [textOf] at htext
  | cons piece pieces ih =>
    have hglyph := h piece List.mem_cons_self
    change piece.text ++ textOf pieces = before ++ c :: after at htext
    -- The character stands in the first piece or in the others.
    rcases List.append_eq_append_iff.mp htext with ⟨more, hbefore, hrest⟩ | ⟨more, hpiece, hrest⟩
    · obtain ⟨hescape, first, command, rest, hpieces, hmore⟩ :=
        ih (fun other hother ↦ h other (List.mem_cons_of_mem _ hother)) hrest
      refine ⟨hescape, piece :: first, command, rest, by rw [hpieces]; rfl, ?_⟩
      rw [hbefore, hmore]
      rfl
    · cases more with
      | nil =>
        have hnone : textOf pieces = [] ++ c :: after := hrest.symm
        obtain ⟨hescape, first, command, rest, hpieces, hmore⟩ :=
          ih (fun other hother ↦ h other (List.mem_cons_of_mem _ hother)) hnone
        refine ⟨hescape, piece :: first, command, rest, by rw [hpieces]; rfl, ?_⟩
        rw [List.append_nil] at hpiece
        change before = piece.text ++ textOf first
        rw [← hmore, List.append_nil, hpiece]
      | cons other more =>
        obtain ⟨rfl, -⟩ := List.cons.inj hrest
        obtain ⟨hescape, rfl, command, rfl⟩ := Piece.control_of_text hglyph hpiece hcontrol
        exact ⟨hescape, [], command, pieces, rfl, rfl⟩

/-! ### Marks as pieces -/

/-- The command that sets a colour of glyphs. -/
def Color.foregroundCommand : Color → Command
  | .standard => .ownForeground
  | .rgb c => .foreground c.red.toNat c.green.toNat c.blue.toNat

/-- The command that sets a colour behind glyphs. -/
def Color.backgroundCommand : Color → Command
  | .standard => .ownBackground
  | .rgb c => .background c.red.toNat c.green.toNat c.blue.toNat

/-- The command that moves the cursor to a column and a row, counted from zero. -/
def addressCommand (x y : Nat) : Command :=
  if x = 0 ∧ y = 0 then .home else if x = 0 then .line (y + 1) else .place (y + 1) (x + 1)

/-- The piece that a mark is sent as. -/
def Mark.piece : Mark → Piece
  | .hideCursor => .control .hideCursor
  | .resetStyle => .control .reset
  | .setBold => .control .bold
  | .setForeground color => .control color.foregroundCommand
  | .setBackground color => .control color.backgroundCommand
  | .moveTo x y => .control (addressCommand x y)
  | .glyph c => .glyph c

@[simp]
theorem body_addressCommand (x y : Nat) : (addressCommand x y).body = addressBody x y := by
  unfold addressCommand addressBody
  split_ifs
  · rfl
  · rfl
  · simp [Command.body, parameter, decimal]

/-- A mark is sent in the form of its piece. -/
theorem Mark.bytes_eq (mark : Mark) : mark.bytes = Text.encodeText mark.piece.text := by
  cases mark with
  | hideCursor =>
    simp only [Mark.bytes, String.reduceToList]
    exact (Command.encodeText_text .hideCursor).symm
  | resetStyle =>
    simp only [Mark.bytes, String.reduceToList]
    exact (Command.encodeText_text .reset).symm
  | setBold =>
    simp only [Mark.bytes, String.reduceToList]
    exact (Command.encodeText_text .bold).symm
  | setForeground color =>
    refine Eq.trans ?_ (Command.encodeText_text color.foregroundCommand).symm
    cases color <;>
      simp [Mark.bytes, Color.foregroundCommand, Command.body, colorParameters, parameter, decimal]
  | setBackground color =>
    refine Eq.trans ?_ (Command.encodeText_text color.backgroundCommand).symm
    cases color <;>
      simp [Mark.bytes, Color.backgroundCommand, Command.body, colorParameters, parameter, decimal]
  | moveTo x y =>
    refine Eq.trans ?_ (Command.encodeText_text (addressCommand x y)).symm
    rw [body_addressCommand]
    rfl
  | glyph c => exact (List.append_nil _).symm

/-- The piece of a mark that fits serves to draw the frame. -/
theorem Mark.Fits.within {mark : Mark} (h : mark.Fits width height) :
    mark.piece.Within width height := by
  have hbyte : ∀ part : UInt8, part.toNat ≤ 255 := fun part ↦ Nat.le_of_lt_succ part.toNat_lt
  cases mark with
  | hideCursor => exact h
  | resetStyle => trivial
  | setBold => trivial
  | setForeground color =>
    cases color with
    | standard => trivial
    | rgb c => exact ⟨hbyte _, hbyte _, hbyte _⟩
  | setBackground color =>
    cases color with
    | standard => trivial
    | rgb c => exact ⟨hbyte _, hbyte _, hbyte _⟩
  | moveTo x y =>
    obtain ⟨hx, hy⟩ : x < width ∧ y < height := h
    change (addressCommand x y).Within width height
    unfold addressCommand
    split_ifs
    · trivial
    · exact ⟨Nat.succ_pos y, hy⟩
    · exact ⟨Nat.succ_pos y, hy, Nat.succ_pos x, hx⟩
  | glyph c =>
    have hlimit := glyphWidth_le_two c
    change glyphWidth c ≠ 0 at h
    exact show glyphWidth c = 1 ∨ glyphWidth c = 2 by omega

theorem bytesOfMarks_eq (marks : List Mark) :
    bytesOfMarks marks = Text.encodeText (textOf (marks.map Mark.piece)) := by
  induction marks with
  | nil => rfl
  | cons mark rest ih =>
    change mark.bytes ++ bytesOfMarks rest =
      Text.encodeText (mark.piece.text ++ textOf (rest.map Mark.piece))
    rw [Text.encodeText_append, mark.bytes_eq, ih]

/-- Marks whose glyphs have widths are sent as their pieces. -/
theorem sends_bytesOfMarks {marks : List Mark} (hplain : ∀ mark ∈ marks, mark.isPlain = true) :
    Sends (bytesOfMarks marks) (marks.map Mark.piece) := by
  refine ⟨bytesOfMarks_eq marks, ?_, fun before c after ↦ controls_of_glyphs ?_⟩
  · rw [bytesOfMarks_eq]
    exact Text.decodeText?_encodeText _
  · intro piece hpiece c hglyph
    obtain ⟨mark, hmark, rfl⟩ := List.mem_map.mp hpiece
    have hwidth := hplain mark hmark
    cases mark with
    | glyph g =>
      cases hglyph
      simpa [Mark.isPlain] using hwidth
    | _ => cases hglyph

end Pieces

/-! ### Drawings -/

section Drawings

variable {width height : Nat} {next : Frame}

/-- Marks that fit are sent as pieces that serve to draw the frame. -/
theorem within_of_fits {marks : List Mark} (hfits : ∀ mark ∈ marks, mark.Fits width height) :
    ∀ piece ∈ marks.map Mark.piece, piece.Within width height := by
  intro piece hpiece
  obtain ⟨mark, hmark, rfl⟩ := List.mem_map.mp hpiece
  exact (hfits mark hmark).within

/-- Assumes: a frame as writing makes it, in any texts and styles. Drawn as the difference to any
other frame and with any pen, it is sent as cursor addresses within it, changes of style and glyphs
with a width. Repainted, it is sent as such pieces after the sequence that hides the cursor. -/
theorem Frame.Written.sends (hnext : next.Written width height) (current : Frame) (pen : Pen) :
    (∃ pieces, (∀ piece ∈ pieces, piece.Within width height) ∧
      Sends (difference current next pen).bytes pieces) ∧
    ∃ pieces, (∀ piece ∈ pieces, piece.Within width height) ∧
      Sends (repaint next).bytes (.control .hideCursor :: pieces) := by
  have hwidth := hnext.width_pos
  obtain ⟨hlegible, rfl, rfl⟩ := hnext.legibleOfSize
  constructor
  · have hadds : (Drawing.start pen).Adds next.width next.height (difference current next pen) :=
      Drawing.adds_difference hlegible pen
    have hfits := hadds.fits fun mark hmark ↦ by cases hmark
    exact ⟨_, within_of_fits hfits, sends_bytesOfMarks fun mark hmark ↦ (hfits mark hmark).isPlain⟩
  · obtain ⟨marks, hmarks, hfits⟩ := Drawing.adds_repaint hlegible hwidth
    have hreset : ∀ mark ∈ .resetStyle :: marks, mark.Fits next.width next.height :=
      List.forall_mem_cons.mpr ⟨trivial, hfits⟩
    refine ⟨_, within_of_fits hreset, ?_⟩
    unfold Drawing.bytes
    rw [hmarks]
    have hplain : ∀ mark ∈ .hideCursor :: .resetStyle :: marks, mark.isPlain = true :=
      List.forall_mem_cons.mpr ⟨rfl, fun mark hmark ↦ (hreset mark hmark).isPlain⟩
    exact sends_bytesOfMarks hplain

/-- A text with control characters is sent without them. -/
theorem Frame.Written.sends_control_characters :
    let next := (Frame.blank 4 1).put 0 0 [escape, '\n', '日'] Style.plain.bold
    ∃ pieces, (∀ piece ∈ pieces, piece.Within 4 1) ∧
      Sends (difference (.blank 4 1) next .unknown).bytes pieces := by
  have hblank : (Frame.blank 4 1).Written 4 1 := .new rfl
  exact (Frame.Written.sends (hblank.put 0 0 [escape, '\n', '日'] Style.plain.bold) (.blank 4 1)
    .unknown).1

end Drawings

end LiveBoard.Screen
