import LiveBoard.Screen.Cell
import LiveBoard.Screen.Mark
import Mathlib.Logic.Function.Basic
import Mathlib.Tactic.SplitIfs

/-!
# A terminal

The receiving side of a drawing. `Terminal.receive` is the effect of one byte: text is printed at
the cursor, and control sequences address the cursor (`H`), select colours and weight (`m` with 0,
1, 39, 49, `38;2;r;g;b` and `48;2;r;g;b`) or hide and show the cursor (`?25l` and `?25h`).
Whatever stood unfinished, a control sequence or a character, is abandoned at the next escape
byte.

A wide glyph takes two positions of a line. Overwriting one of them leaves no half glyph behind:
the other becomes blank (`Line.vacate`). What a terminal makes of the colours of such a blank is
left open, as is its size; both belong to the `Device`, which no byte changes (`feed_device`). A
glyph that does not fit into the line goes to the next one, and the screen scrolls below the last.

`Terminal.obey` is the effect of a whole mark. That the bytes of marks have this effect is shown
in `Proofs.Screen.Obedience`.
-/

set_option autoImplicit false
set_option relaxedAutoImplicit false

namespace LiveBoard.Screen

/-! ### What a screen shows -/

/-- The colours and the weight in which a character is shown. -/
structure Attributes where
  /-- The colour of the glyph. -/
  foreground : Color
  /-- The colour behind the glyph. -/
  background : Color
  /-- Whether the glyph is bold. -/
  bold : Bool
  deriving DecidableEq, Repr

/-- The attributes in force after a reset. -/
def Attributes.standard : Attributes := ⟨.standard, .standard, false⟩

/-- The attributes that a style asks for: of its modifiers only bold is shown. -/
def Style.attributes (style : Style) : Attributes :=
  ⟨style.foreground, style.background, style.modifiers.isBold⟩

/-- What one position of a screen shows. -/
structure Look where
  /-- The character. -/
  glyph : Char
  /-- The number of columns of the glyph that begins here, zero in the right half of one. -/
  width : Nat
  /-- Its colours and weight. -/
  attributes : Attributes
  deriving DecidableEq, Repr

/-- How a cell of a frame looks. -/
def Cell.look (cell : Cell) : Look := ⟨cell.glyph, cell.width, cell.style.attributes⟩

/-- The right half of a wide glyph. -/
def Look.rightHalf (look : Look) : Look := ⟨Char.ofNat 0, 0, look.attributes⟩

/-- A blank in given attributes. -/
def Look.blank (attributes : Attributes) : Look := ⟨' ', 1, attributes⟩

/-! ### Lines -/

/-- One line of a screen, by columns. -/
abbrev Line := Nat → Look

/-- Whether a wide glyph stands at a column and the one after it. -/
def Line.holdsWide (line : Line) (column : Nat) : Prop :=
  (line column).width = 2 ∧ (line (column + 1)).width = 0

instance (line : Line) (column : Nat) : Decidable (line.holdsWide column) :=
  inferInstanceAs (Decidable (_ ∧ _))

/-- No wide glyph begins directly before a column. -/
def Line.breaksAt (line : Line) (x : Nat) : Prop :=
  ∀ column, column + 1 = x → (line column).width ≠ 2

/-- The line in which the position at a column is about to be overwritten: where it holds a half of
a wide glyph, the other half becomes blank. -/
def Line.vacate (remnant : Attributes → Attributes) (line : Line) (x : Nat) : Line := fun column ↦
  if column + 1 = x ∧ line.holdsWide column ∨ column = x + 1 ∧ line.holdsWide x then
    .blank (remnant (line column).attributes)
  else line column

/-- The line with a glyph printed at a column, and its right half in the next if it is wide. -/
def Line.print (remnant : Attributes → Attributes) (line : Line) (x : Nat) (look : Look) : Line :=
  let vacated := line.vacate remnant x
  if look.width = 2 then
    Function.update (Function.update (vacated.vacate remnant (x + 1)) (x + 1) look.rightHalf) x look
  else Function.update vacated x look

section Lines

variable {remnant : Attributes → Attributes} {line : Line} {x column : Nat} {look : Look}

/-- Positions that are no neighbouring half of a wide glyph keep what they show. -/
theorem Line.vacate_apply (hleft : column + 1 = x → (line column).width ≠ 2)
    (hright : column = x + 1 → (line column).width ≠ 0) :
    line.vacate remnant x column = line column := by
  unfold Line.vacate
  refine if_neg ?_
  rintro (⟨hnext, hwide⟩ | ⟨hnext, hwide⟩)
  · exact hleft hnext hwide.1
  · exact hright hnext (hnext ▸ hwide.2)

@[simp]
theorem Line.print_self : line.print remnant x look x = look := by
  unfold Line.print
  split_ifs <;> simp

theorem Line.print_rightHalf (hwide : look.width = 2) :
    line.print remnant x look (x + 1) = look.rightHalf := by
  simp [Line.print, hwide, Function.update_of_ne]

/-- Printing changes nothing to the left of a glyph, unless a wide glyph begins directly before. -/
theorem Line.print_before (hbreak : column + 1 = x → (line column).width ≠ 2)
    (hcolumn : column < x) : line.print remnant x look column = line column := by
  have hvacated : line.vacate remnant x column = line column :=
    Line.vacate_apply hbreak fun hnext ↦ by omega
  have hself : column ≠ x := by omega
  have hnext : column ≠ x + 1 := by omega
  unfold Line.print
  split_ifs
  · rw [Function.update_of_ne hself, Function.update_of_ne hnext,
      Line.vacate_apply (fun h ↦ by omega) (fun h ↦ by omega), hvacated]
  · rw [Function.update_of_ne hself, hvacated]

/-- Printing changes nothing to the right of a glyph, unless a right half stands directly after
it. -/
theorem Line.print_after (hwidth : look.width = 1 ∨ look.width = 2)
    (hcolumn : x + look.width ≤ column)
    (hwhole : x + look.width = column → (line column).width ≠ 0) :
    line.print remnant x look column = line column := by
  have hself : column ≠ x := by omega
  unfold Line.print
  rcases hwidth with hnarrow | hwide
  · rw [if_neg (by omega), Function.update_of_ne hself]
    exact Line.vacate_apply (fun h ↦ by omega) fun h ↦ hwhole (by omega)
  · have hnext : column ≠ x + 1 := by omega
    have hvacated : line.vacate remnant x column = line column :=
      Line.vacate_apply (fun h ↦ by omega) fun h ↦ by omega
    rw [if_pos hwide, Function.update_of_ne hself, Function.update_of_ne hnext,
      Line.vacate_apply (fun h ↦ by omega) fun h ↦ ?_, hvacated]
    rw [hvacated]
    exact hwhole (by omega)

end Lines

/-! ### The state of a terminal -/

/-- What terminals differ in. -/
structure Device where
  /-- The number of columns. -/
  columns : Nat
  /-- The number of rows. -/
  rows : Nat
  /-- The attributes of the blank that is left of an overwritten wide glyph, given those in force
  and those of the glyph. -/
  remnant : Attributes → Attributes → Attributes

/-- How far a terminal is in reading its input. -/
inductive Reading
  /-- Between characters and sequences. -/
  | text
  /-- Within a character of which some bytes are missing, given what the others say. -/
  | character (missing code : Nat)
  /-- After an escape byte. -/
  | escape
  /-- Within a control sequence, given whether it has a question mark, its finished parameters and
  the one being read. -/
  | sequence (marked : Bool) (parameters : List Nat) (last : Nat)
  deriving DecidableEq, Repr

/-- The state of a terminal. -/
structure Terminal where
  /-- What kind of terminal it is. -/
  device : Device
  /-- The lines of the screen, by rows. -/
  lines : Nat → Line
  /-- The column of the cursor, the number of columns where the last glyph reached the edge. -/
  column : Nat
  /-- The row of the cursor. -/
  row : Nat
  /-- The attributes in force. -/
  attributes : Attributes
  /-- Whether the cursor is shown. -/
  cursorShown : Bool
  /-- How far it is in reading. -/
  reading : Reading

/-! ### Printing -/

/-- The terminal whose cursor goes to the start of the next line, below the last of which the screen
scrolls. -/
def Terminal.wrap (terminal : Terminal) : Terminal :=
  if terminal.row + 1 < terminal.device.rows then
    { terminal with column := 0, row := terminal.row + 1 }
  else
    { terminal with
      column := 0
      lines := fun row ↦
        if row + 1 < terminal.device.rows then terminal.lines (row + 1)
        else fun _ ↦ .blank terminal.attributes }

/-- The terminal that shows a glyph at its cursor and moves the cursor over it. -/
def Terminal.write (terminal : Terminal) (look : Look) : Terminal :=
  { terminal with
    lines := Function.update terminal.lines terminal.row
      (.print (terminal.device.remnant terminal.attributes) (terminal.lines terminal.row)
        terminal.column look)
    column := terminal.column + look.width }

theorem Terminal.write_line (terminal : Terminal) (look : Look) :
    (terminal.write look).lines terminal.row =
      .print (terminal.device.remnant terminal.attributes) (terminal.lines terminal.row)
        terminal.column look :=
  Function.update_self ..

theorem Terminal.write_line_of_ne (terminal : Terminal) (look : Look) {row : Nat}
    (hrow : row ≠ terminal.row) : (terminal.write look).lines row = terminal.lines row :=
  Function.update_of_ne hrow ..

/-- Prints a character. One without a width of its own shows nothing. -/
def Terminal.print (terminal : Terminal) (c : Char) : Terminal :=
  if glyphWidth c = 0 then terminal
  else
    let placed :=
      if terminal.device.columns < terminal.column + glyphWidth c then terminal.wrap else terminal
    placed.write ⟨c, glyphWidth c, terminal.attributes⟩

/-! ### Control sequences -/

/-- Addresses the cursor, as near to the given place as the screen allows. -/
def Terminal.address (terminal : Terminal) (x y : Nat) : Terminal :=
  { terminal with
    column := min x (terminal.device.columns - 1)
    row := min y (terminal.device.rows - 1) }

/-- The colour of three parameters. -/
def colorOf (red green blue : Nat) : Color := .rgb ⟨.ofNat red, .ofNat green, .ofNat blue⟩

/-- The attributes after a selection by parameters, from left to right. -/
def Attributes.select : Attributes → List Nat → Attributes
  | attributes, [] => attributes
  | attributes, 38 :: 2 :: red :: green :: blue :: rest =>
    select { attributes with foreground := colorOf red green blue } rest
  | attributes, 48 :: 2 :: red :: green :: blue :: rest =>
    select { attributes with background := colorOf red green blue } rest
  | attributes, code :: rest =>
    if code = 0 then select .standard rest
    else if code = 1 then select { attributes with bold := true } rest
    else if code = 39 then select { attributes with foreground := .standard } rest
    else if code = 49 then select { attributes with background := .standard } rest
    else select attributes rest

/-- The effect of a control sequence with a final character; others than the ones above have none.
Rows and columns are counted from one, and absent ones are one. -/
def Terminal.execute (terminal : Terminal) (marked : Bool) (parameters : List Nat) (final : Char) :
    Terminal :=
  if marked then
    if parameters = [25] ∧ final = 'l' then { terminal with cursorShown := false }
    else if parameters = [25] ∧ final = 'h' then { terminal with cursorShown := true }
    else terminal
  else if final = 'H' then
    terminal.address (parameters.getD 1 0 - 1) (parameters.getD 0 0 - 1)
  else if final = 'm' then
    { terminal with attributes := terminal.attributes.select parameters }
  else terminal

/-! ### Receiving bytes -/

/-- A byte that begins a character, or a control character, which has no effect. -/
def Terminal.receiveFirst (terminal : Terminal) (byte : Nat) : Terminal :=
  if byte < 0x20 ∨ byte = 0x7F then terminal
  else if byte < 0x80 then terminal.print (Char.ofNat byte)
  else if byte < 0xC0 then terminal
  else if byte < 0xE0 then { terminal with reading := .character 1 (byte - 0xC0) }
  else if byte < 0xF0 then { terminal with reading := .character 2 (byte - 0xE0) }
  else if byte < 0xF8 then { terminal with reading := .character 3 (byte - 0xF0) }
  else terminal

/-- A byte within a character. One that does not continue it begins another one. -/
def Terminal.receiveRest (terminal : Terminal) (missing code byte : Nat) : Terminal :=
  if 0x80 ≤ byte ∧ byte < 0xC0 then
    let longer := code * 64 + (byte - 0x80)
    if missing ≤ 1 then { terminal with reading := .text }.print (Char.ofNat longer)
    else { terminal with reading := .character (missing - 1) longer }
  else { terminal with reading := .text }.receiveFirst byte

/-- A character within a control sequence. -/
def Terminal.receiveCode (terminal : Terminal) (marked : Bool) (parameters : List Nat) (last : Nat)
    (c : Char) : Terminal :=
  if c.isDigit then
    { terminal with reading := .sequence marked parameters (10 * last + (c.toNat - '0'.toNat)) }
  else if c = ';' then { terminal with reading := .sequence marked (parameters ++ [last]) 0 }
  else if c = '?' then { terminal with reading := .sequence true parameters last }
  else if 0x40 ≤ c.toNat ∧ c.toNat < 0x7F then
    { terminal with reading := .text }.execute marked (parameters ++ [last]) c
  else terminal

/-- The effect of one byte. -/
def Terminal.receive (terminal : Terminal) (byte : UInt8) : Terminal :=
  if byte.toNat = 0x1B then { terminal with reading := .escape }
  else
    match terminal.reading with
    | .text => terminal.receiveFirst byte.toNat
    | .character missing code => terminal.receiveRest missing code byte.toNat
    | .escape =>
      if byte.toNat = 0x5B then { terminal with reading := .sequence false [] 0 }
      else { terminal with reading := .text }
    | .sequence marked parameters last =>
      terminal.receiveCode marked parameters last (Char.ofNat byte.toNat)

/-- The effect of bytes. -/
def Terminal.feed (terminal : Terminal) (bytes : List UInt8) : Terminal :=
  bytes.foldl Terminal.receive terminal

/-! ### Obeying marks -/

/-- The effect of a mark. -/
def Terminal.obey (terminal : Terminal) : Mark → Terminal
  | .hideCursor => { terminal with cursorShown := false }
  | .resetStyle => { terminal with attributes := .standard }
  | .setBold => { terminal with attributes := { terminal.attributes with bold := true } }
  | .setForeground color =>
    { terminal with attributes := { terminal.attributes with foreground := color } }
  | .setBackground color =>
    { terminal with attributes := { terminal.attributes with background := color } }
  | .moveTo x y => terminal.address x y
  | .glyph c => terminal.print c

/-- The effect of marks. -/
def Terminal.obeyAll (terminal : Terminal) (marks : List Mark) : Terminal :=
  marks.foldl Terminal.obey terminal

/-! ### The device -/

@[simp]
theorem Terminal.print_device (terminal : Terminal) (c : Char) :
    (terminal.print c).device = terminal.device := by
  unfold Terminal.print Terminal.wrap Terminal.write
  split_ifs <;> rfl

theorem Terminal.receiveFirst_device (terminal : Terminal) (byte : Nat) :
    (terminal.receiveFirst byte).device = terminal.device := by
  unfold Terminal.receiveFirst
  split_ifs <;> first | rfl | exact terminal.print_device _

theorem Terminal.receiveRest_device (terminal : Terminal) (missing code byte : Nat) :
    (terminal.receiveRest missing code byte).device = terminal.device := by
  unfold Terminal.receiveRest
  split_ifs
  · exact Terminal.print_device _ _
  · rfl
  · exact Terminal.receiveFirst_device _ _

theorem Terminal.receiveCode_device (terminal : Terminal) (marked : Bool) (parameters : List Nat)
    (last : Nat) (c : Char) :
    (terminal.receiveCode marked parameters last c).device = terminal.device := by
  unfold Terminal.receiveCode Terminal.execute Terminal.address
  split_ifs <;> rfl

@[simp]
theorem Terminal.receive_device (terminal : Terminal) (byte : UInt8) :
    (terminal.receive byte).device = terminal.device := by
  unfold Terminal.receive
  by_cases hescape : byte.toNat = 0x1B
  · rw [if_pos hescape]
  · rw [if_neg hescape]
    cases terminal.reading with
    | text => exact terminal.receiveFirst_device _
    | character missing code => exact terminal.receiveRest_device _ _ _
    | escape =>
      dsimp only
      split_ifs <;> rfl
    | sequence marked parameters last => exact terminal.receiveCode_device _ _ _ _

/-- No bytes make another kind of terminal. -/
@[simp]
theorem Terminal.feed_device (terminal : Terminal) (bytes : List UInt8) :
    (terminal.feed bytes).device = terminal.device := by
  induction bytes generalizing terminal with
  | nil => rfl
  | cons byte rest ih => exact (ih (terminal.receive byte)).trans (terminal.receive_device byte)

@[simp]
theorem Terminal.obey_device (terminal : Terminal) (mark : Mark) :
    (terminal.obey mark).device = terminal.device := by
  cases mark with
  | glyph c => exact terminal.print_device c
  | _ => rfl

/-- No marks make another kind of terminal. -/
@[simp]
theorem Terminal.obeyAll_device (terminal : Terminal) (marks : List Mark) :
    (terminal.obeyAll marks).device = terminal.device := by
  induction marks generalizing terminal with
  | nil => rfl
  | cons mark rest ih => exact (ih (terminal.obey mark)).trans (terminal.obey_device mark)

@[simp]
theorem Terminal.feed_append (terminal : Terminal) (first second : List UInt8) :
    terminal.feed (first ++ second) = (terminal.feed first).feed second :=
  List.foldl_append

end LiveBoard.Screen
