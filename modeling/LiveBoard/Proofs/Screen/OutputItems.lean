import LiveBoard.Proofs.Screen.OutputGrammar

/-!
# Reading output

What was sent to a terminal is read as a list of items: characters, and control sequences, each from
its introducer to the first letter after it (`readOutput`). What an item is can be told from its
characters alone: a cursor address ends in `H`, and a selection of a colour ends in `m` and starts
with one of the numbers that select one (`Item.isAddress`, `Item.isColor`).

Marks whose glyphs have widths are read one item each (`readOutput_bytesOfMarks`), and the kinds of
the items are the kinds of the marks (`Mark.isGlyph_item`, `Mark.isAddress_item`,
`Mark.isColor_item`).
-/

set_option autoImplicit false
set_option relaxedAutoImplicit false

namespace LiveBoard.Screen

/-! ### Items -/

/-- One item of what was sent to a terminal. -/
inductive Item
  /-- A control sequence: what follows its introducer. -/
  | sequence (body : List Char)
  /-- A character outside of control sequences. -/
  | glyph (c : Char)
  deriving DecidableEq, Repr

/-- Where the reading of a text stands. -/
inductive Scan
  /-- Outside of control sequences. -/
  | text
  /-- After the escape character. -/
  | escaped
  /-- In a control sequence, of which some characters were read. -/
  | body (read : List Char)

/-- The items of a text. There are none where a control sequence is not finished, or an escape
character starts no control sequence. -/
def readItems : Scan → List Char → Option (List Item)
  | .text, [] => some []
  | .text, c :: rest =>
    if c = escape then readItems .escaped rest
    else (readItems .text rest).map (.glyph c :: ·)
  | .escaped, c :: rest => if c = '[' then readItems (.body []) rest else none
  | .body read, c :: rest =>
    if c.isAlpha then (readItems .text rest).map (.sequence (read ++ [c]) :: ·)
    else readItems (.body (read ++ [c])) rest
  | .escaped, [] => none
  | .body _, [] => none

/-- The items of what was sent. -/
def readOutput (bytes : List UInt8) : Option (List Item) :=
  (Text.decodeText? bytes).bind (readItems .text)

/-- The character of an item outside of control sequences. -/
def Item.glyph? : Item → Option Char
  | .sequence _ => none
  | .glyph c => some c

/-- Whether an item is a character outside of control sequences. -/
def Item.isGlyph (item : Item) : Bool := item.glyph?.isSome

/-- Whether an item is a cursor address. -/
def Item.isAddress : Item → Bool
  | .sequence body => body.getLast? == some 'H'
  | .glyph _ => false

/-- Whether an item selects a colour: its first number is 38 or 39 for that of glyphs, and 48 or 49
for that behind them. -/
def Item.isColor : Item → Bool
  | .sequence body =>
    body.getLast? == some 'm' &&
      [['3', '8'], ['3', '9'], ['4', '8'], ['4', '9']].contains (body.takeWhile Char.isDigit)
  | .glyph _ => false

/-! ### Reading pieces -/

/-- The item that a piece is read as. -/
def Piece.item : Piece → Item
  | .control command => .sequence command.body
  | .glyph c => .glyph c

section Pieces

theorem isAlpha_eq_false_of_isDigit {c : Char} (h : c.isDigit = true) : c.isAlpha = false := by
  obtain ⟨-, hdigit⟩ : 48 ≤ c.toNat ∧ c.toNat ≤ 57 := Char.isDigit_iff_toNat.mp h
  rw [Bool.eq_false_iff]
  intro hletter
  have hcases : (c.isUpper || c.isLower) = true := hletter
  rcases Bool.or_eq_true_iff.mp hcases with hupper | hlower
  · have hbounds : 'A'.val ≤ c.val ∧ c.val ≤ 'Z'.val := of_decide_eq_true hupper
    have hcapital : 65 ≤ c.toNat := UInt32.le_iff_toNat_le.mp hbounds.1
    omega
  · have hbounds : (decide ('a'.val ≤ c.val) && decide (c.val ≤ 'z'.val)) = true := hlower
    have hfirst : 'a'.val ≤ c.val := of_decide_eq_true (Bool.and_eq_true_iff.mp hbounds).1
    have hsmall : 97 ≤ c.toNat := UInt32.le_iff_toNat_le.mp hfirst
    omega

theorem isAlpha_of_mem_decimal (n : Nat) : ∀ c ∈ decimal n, c.isAlpha = false :=
  fun _ hc ↦ isAlpha_eq_false_of_isDigit (Nat.isDigit_of_mem_toDigits (by decide) (by decide) hc)

theorem isAlpha_of_all {text : List Char} (h : text.all (fun c ↦ !c.isAlpha) = true) :
    ∀ c ∈ text, c.isAlpha = false := by
  simpa using h

/-- The letter that a command ends in. -/
def Command.letter : Command → Char
  | .hideCursor => 'l'
  | .home | .line _ | .place _ _ => 'H'
  | _ => 'm'

@[simp]
theorem Command.isAlpha_letter (command : Command) : command.letter.isAlpha = true := by
  cases command <;> rfl

/-- The form of a command has no other letter. -/
theorem Command.body_eq (command : Command) :
    ∃ front, command.body = front ++ [command.letter] ∧ ∀ c ∈ front, c.isAlpha = false := by
  cases command with
  | line row => exact ⟨decimal row, rfl, isAlpha_of_mem_decimal row⟩
  | place row column =>
    refine ⟨decimal row ++ [';'] ++ decimal column, rfl, ?_⟩
    simp only [List.forall_mem_append, List.forall_mem_singleton]
    exact ⟨⟨isAlpha_of_mem_decimal row, by decide⟩, isAlpha_of_mem_decimal column⟩
  | foreground red green blue =>
    refine ⟨['3', '8', ';', '2', ';'] ++ decimal red ++ [';'] ++ decimal green ++ [';'] ++
      decimal blue, rfl, ?_⟩
    simp only [List.forall_mem_append, List.forall_mem_singleton]
    exact ⟨⟨⟨⟨⟨isAlpha_of_all rfl, isAlpha_of_mem_decimal red⟩, by decide⟩,
      isAlpha_of_mem_decimal green⟩, by decide⟩, isAlpha_of_mem_decimal blue⟩
  | background red green blue =>
    refine ⟨['4', '8', ';', '2', ';'] ++ decimal red ++ [';'] ++ decimal green ++ [';'] ++
      decimal blue, rfl, ?_⟩
    simp only [List.forall_mem_append, List.forall_mem_singleton]
    exact ⟨⟨⟨⟨⟨isAlpha_of_all rfl, isAlpha_of_mem_decimal red⟩, by decide⟩,
      isAlpha_of_mem_decimal green⟩, by decide⟩, isAlpha_of_mem_decimal blue⟩
  | hideCursor => exact ⟨['?', '2', '5'], rfl, isAlpha_of_all rfl⟩
  | home => exact ⟨[], rfl, isAlpha_of_all rfl⟩
  | reset => exact ⟨['0'], rfl, isAlpha_of_all rfl⟩
  | bold => exact ⟨['1'], rfl, isAlpha_of_all rfl⟩
  | ownForeground => exact ⟨['3', '9'], rfl, isAlpha_of_all rfl⟩
  | ownBackground => exact ⟨['4', '9'], rfl, isAlpha_of_all rfl⟩

@[simp]
theorem Command.getLast?_body (command : Command) :
    command.body.getLast? = some command.letter := by
  obtain ⟨front, hbody, -⟩ := command.body_eq
  rw [hbody, List.getLast?_concat]

/-- A control sequence is read up to the first letter. -/
theorem readItems_body {front : List Char} (hfront : ∀ c ∈ front, c.isAlpha = false) {last : Char}
    (hlast : last.isAlpha = true) (read rest : List Char) :
    readItems (.body read) (front ++ last :: rest) =
      (readItems .text rest).map (.sequence (read ++ (front ++ [last])) :: ·) := by
  induction front generalizing read with
  | nil => exact if_pos hlast
  | cons c front ih =>
    obtain ⟨hfirst, hothers⟩ := List.forall_mem_cons.mp hfront
    rw [List.cons_append, readItems, if_neg (by rw [hfirst]; exact Bool.false_ne_true),
      ih hothers, List.append_assoc]
    rfl

/-- A piece is read as one item. -/
theorem Piece.readItems_text {piece : Piece} (hglyph : ∀ c, piece = .glyph c → c ≠ escape)
    (rest : List Char) :
    readItems .text (piece.text ++ rest) = (readItems .text rest).map (piece.item :: ·) := by
  cases piece with
  | glyph c => exact if_neg (hglyph c rfl)
  | control command =>
    obtain ⟨front, hbody, hfront⟩ := command.body_eq
    have hread := readItems_body hfront command.isAlpha_letter [] rest
    change readItems .text (escape :: '[' :: (command.body ++ rest)) =
      (readItems .text rest).map (.sequence command.body :: ·)
    rw [hbody, List.append_assoc]
    exact hread

theorem readItems_textOf {pieces : List Piece}
    (hglyphs : ∀ piece ∈ pieces, ∀ c, piece = .glyph c → c ≠ escape) :
    readItems .text (textOf pieces) = some (pieces.map Piece.item) := by
  induction pieces with
  | nil => rfl
  | cons piece rest ih =>
    obtain ⟨hfirst, hothers⟩ := List.forall_mem_cons.mp hglyphs
    change readItems .text (piece.text ++ textOf rest) = _
    rw [Piece.readItems_text hfirst, ih hothers]
    rfl

end Pieces

/-! ### Reading marks -/

/-- The item that a mark is read as. -/
def Mark.item (mark : Mark) : Item := mark.piece.item

/-- Whether a mark is a cursor address. -/
def Mark.isAddress : Mark → Bool
  | .moveTo _ _ => true
  | _ => false

/-- Whether a mark selects a colour. -/
def Mark.isColor : Mark → Bool
  | .setForeground _ => true
  | .setBackground _ => true
  | _ => false

/-- The character of a mark that prints one. -/
def Mark.glyph? : Mark → Option Char
  | .glyph c => some c
  | _ => none

/-- Whether a mark prints a character. -/
def Mark.isGlyph (mark : Mark) : Bool := mark.glyph?.isSome

section Marks

@[simp]
theorem Mark.glyph?_item (mark : Mark) : mark.item.glyph? = mark.glyph? := by
  cases mark <;> rfl

@[simp]
theorem Mark.isGlyph_item (mark : Mark) : mark.item.isGlyph = mark.isGlyph :=
  congrArg Option.isSome mark.glyph?_item

@[simp]
theorem letter_addressCommand (x y : Nat) : (addressCommand x y).letter = 'H' := by
  unfold addressCommand
  split_ifs <;> rfl

@[simp]
theorem Mark.isAddress_item (mark : Mark) : mark.item.isAddress = mark.isAddress := by
  have hlast : ∀ command : Command,
      (Item.sequence command.body).isAddress = (command.letter == 'H') := by
    intro command
    rw [Item.isAddress, command.getLast?_body]
    rfl
  cases mark with
  | moveTo x y => exact (hlast _).trans (by rw [letter_addressCommand]; rfl)
  | setForeground color => cases color <;> exact hlast _
  | setBackground color => cases color <;> exact hlast _
  | _ => rfl

@[simp]
theorem Mark.isColor_item (mark : Mark) : mark.item.isColor = mark.isColor := by
  have hlast : ∀ command : Command, (Item.sequence command.body).isColor =
      (command.letter == 'm' && [['3', '8'], ['3', '9'], ['4', '8'], ['4', '9']].contains
        (command.body.takeWhile Char.isDigit)) := by
    intro command
    rw [Item.isColor, command.getLast?_body]
    rfl
  cases mark with
  | moveTo x y => exact (hlast _).trans (by rw [letter_addressCommand]; rfl)
  | setForeground color => cases color <;> exact hlast _
  | setBackground color => cases color <;> exact hlast _
  | _ => rfl

/-- Assumes: marks whose glyphs have widths. They are read as one item each. -/
theorem readOutput_bytesOfMarks {marks : List Mark}
    (hplain : ∀ mark ∈ marks, mark.isPlain = true) :
    readOutput (bytesOfMarks marks) = some (marks.map Mark.item) := by
  rw [readOutput, (sends_bytesOfMarks hplain).read, Option.bind_some, readItems_textOf,
    List.map_map]
  · rfl
  · intro piece hpiece c hglyph
    obtain ⟨mark, hmark, rfl⟩ := List.mem_map.mp hpiece
    have hwidth := hplain mark hmark
    cases mark with
    | glyph g =>
      cases hglyph
      rintro rfl
      exact absurd hwidth (by decide)
    | _ => cases hglyph

end Marks

end LiveBoard.Screen
