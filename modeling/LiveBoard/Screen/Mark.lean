import LiveBoard.Screen.Style
import LiveBoard.Text.Utf8

/-!
# Marks

What a drawing sends to the terminal is a sequence of marks: cursor addresses, changes of style and
glyphs. `Mark.bytes` is the form in which a mark is sent: a control sequence or the encoding of one
character.
-/

set_option autoImplicit false
set_option relaxedAutoImplicit false

namespace LiveBoard.Screen

/-- One thing sent to the terminal. -/
inductive Mark
  /-- Hides the cursor. -/
  | hideCursor
  /-- Returns to the terminal's own colours without modifiers. -/
  | resetStyle
  /-- Makes glyphs bold. -/
  | setBold
  /-- Sets the colour of glyphs. -/
  | setForeground (color : Color)
  /-- Sets the colour behind glyphs. -/
  | setBackground (color : Color)
  /-- Moves the cursor to a column and a row, counted from zero. -/
  | moveTo (x y : Nat)
  /-- Prints a character at the cursor. -/
  | glyph (c : Char)
  deriving DecidableEq, Repr

/-- A control sequence: its introducer and a body of ASCII characters. -/
def controlSequence (body : List Char) : List UInt8 := 0x1B :: 0x5B :: body.map Char.toUInt8

/-- The digits of a number in a control sequence. -/
def parameter (n : Nat) : List Char := Nat.toDigits 10 n

/-- The parameters that name a colour. -/
def colorParameters (c : Rgb) : List Char :=
  parameter c.red.toNat ++ ';' :: parameter c.green.toNat ++ ';' :: parameter c.blue.toNat

/-- The body of a cursor address. Rows and columns are counted from one there, and what is one may
be left out. -/
def addressBody (x y : Nat) : List Char :=
  if x = 0 ∧ y = 0 then ['H']
  else if x = 0 then parameter (y + 1) ++ ['H']
  else parameter (y + 1) ++ ';' :: parameter (x + 1) ++ ['H']

/-- The form in which a mark is sent. -/
def Mark.bytes : Mark → List UInt8
  | .hideCursor => controlSequence "?25l".toList
  | .resetStyle => controlSequence "0m".toList
  | .setBold => controlSequence "1m".toList
  | .setForeground .standard => controlSequence "39m".toList
  | .setForeground (.rgb c) => controlSequence ("38;2;".toList ++ colorParameters c ++ ['m'])
  | .setBackground .standard => controlSequence "49m".toList
  | .setBackground (.rgb c) => controlSequence ("48;2;".toList ++ colorParameters c ++ ['m'])
  | .moveTo x y => controlSequence (addressBody x y)
  | .glyph c => Text.encodeChar c

/-- The form in which marks are sent. -/
def bytesOfMarks (marks : List Mark) : List UInt8 := marks.flatMap Mark.bytes

end LiveBoard.Screen
