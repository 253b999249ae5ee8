import LiveBoard.Screen.GlyphWidth
import LiveBoard.Screen.Style

/-!
# Cells

A cell is one character position of a frame. A glyph two columns wide stands in its left cell and is
followed by a continuation cell of no width. `Cell.ofChar` makes every other cell: a character that
cannot fill a cell leaves it blank.
-/

set_option autoImplicit false
set_option relaxedAutoImplicit false

namespace LiveBoard.Screen

/-- One character position. -/
structure Cell where
  /-- The character shown. -/
  glyph : Char
  /-- The number of columns of the glyph, zero in a continuation. -/
  width : Nat
  /-- How the cell is drawn. -/
  style : Style
  deriving DecidableEq, Repr

/-- The plain blank. -/
def Cell.blank : Cell := ⟨' ', 1, .plain⟩

/-- The plain cell of a character. -/
def Cell.ofChar (c : Char) : Cell :=
  if glyphWidth c = 0 then .blank else ⟨c, glyphWidth c, .plain⟩

/-- The right half of a wide glyph. -/
def Cell.continuation (style : Style) : Cell := ⟨Char.ofNat 0, 0, style⟩

/-- A cell in another style. -/
def Cell.withStyle (cell : Cell) (style : Style) : Cell := { cell with style := style }

/-- Whether a cell is the right half of a wide glyph. -/
def Cell.isContinuation (cell : Cell) : Bool := cell.width == 0

/-- The cell of a character in a style. -/
def Cell.styled (c : Char) (style : Style) : Cell := (Cell.ofChar c).withStyle style

end LiveBoard.Screen
