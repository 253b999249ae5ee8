import LiveBoard.Screen.Frame
import LiveBoard.Screen.Mark

/-!
# Drawing frames

A `Pen` is what is known about the terminal: where its cursor stands and which colours and modifiers
are in force. `repaint` draws a whole frame, and `difference` draws only the cells in which a frame
differs from the one that is shown; it moves the cursor and changes the style only where the pen
does not already have what the next cell needs. Taking a modifier away takes a reset of the style,
after which the colours are unknown.
-/

set_option autoImplicit false
set_option relaxedAutoImplicit false

namespace LiveBoard.Screen

/-- What is known about the terminal. -/
structure Pen where
  /-- The column and row of the cursor. -/
  cursor : Option (Nat × Nat)
  /-- The colour of glyphs. -/
  foreground : Option Color
  /-- The colour behind glyphs. -/
  background : Option Color
  /-- The modifiers. -/
  modifiers : Option Modifiers
  deriving DecidableEq, Repr

/-- Nothing is known. -/
def Pen.unknown : Pen := ⟨none, none, none, none⟩

/-- A drawing in progress. -/
structure Drawing where
  /-- The marks made so far. -/
  marks : Array Mark
  /-- What is known about the terminal after them. -/
  pen : Pen
  /-- The number of cells drawn because they differed. -/
  cells : Nat
  /-- The number of cursor addresses. -/
  moves : Nat
  /-- The number of colour changes. -/
  colors : Nat

/-- The drawing without marks. -/
def Drawing.start (pen : Pen) : Drawing := ⟨#[], pen, 0, 0, 0⟩

/-- The form in which a drawing is sent. -/
def Drawing.bytes (drawing : Drawing) : List UInt8 := bytesOfMarks drawing.marks.toList

/-- Adds a mark. -/
def Drawing.mark (drawing : Drawing) (mark : Mark) : Drawing :=
  { drawing with marks := drawing.marks.push mark }

/-- Moves the cursor to a column and row, unless it is known to stand there. -/
def Drawing.moveTo (drawing : Drawing) (x y : Nat) : Drawing :=
  if drawing.pen.cursor = some (x, y) then drawing
  else
    { drawing.mark (.moveTo x y) with
      pen := { drawing.pen with cursor := some (x, y) }
      moves := drawing.moves + 1 }

/-- Resets the style where a modifier in force is not wanted. -/
def Drawing.dropModifiers (drawing : Drawing) (wanted : Modifiers) : Drawing :=
  if ((drawing.pen.modifiers.getD .empty).difference wanted).isEmpty then drawing
  else
    { drawing.mark .resetStyle with
      pen := { drawing.pen with foreground := none, background := none, modifiers := none } }

/-- Sets the colour of glyphs, unless it is known to be in force. -/
def Drawing.setForeground (drawing : Drawing) (color : Color) : Drawing :=
  if drawing.pen.foreground = some color then drawing
  else
    { drawing.mark (.setForeground color) with
      pen := { drawing.pen with foreground := some color }
      colors := drawing.colors + 1 }

/-- Sets the colour behind glyphs, unless it is known to be in force. -/
def Drawing.setBackground (drawing : Drawing) (color : Color) : Drawing :=
  if drawing.pen.background = some color then drawing
  else
    { drawing.mark (.setBackground color) with
      pen := { drawing.pen with background := some color }
      colors := drawing.colors + 1 }

/-- Adds the modifiers that are not in force; of these only bold has a mark. -/
def Drawing.addModifiers (drawing : Drawing) (wanted : Modifiers) : Drawing :=
  let added := wanted.difference (drawing.pen.modifiers.getD .empty)
  let marked := if added.isBold then drawing.mark .setBold else drawing
  { marked with pen := { drawing.pen with modifiers := some wanted } }

/-- Brings a style into force. -/
def Drawing.dress (drawing : Drawing) (style : Style) : Drawing :=
  (((drawing.dropModifiers style.modifiers).setForeground style.foreground).setBackground
    style.background).addModifiers style.modifiers

/-- Prints the glyph of a cell in the style of the cell. -/
def Drawing.print (drawing : Drawing) (cell : Cell) : Drawing :=
  (drawing.dress cell.style).mark (.glyph cell.glyph)

/-! ### The difference of two frames -/

/-- Moves the known cursor over a cell that was printed. Columns stop at the largest one. -/
def Drawing.advance (drawing : Drawing) (cell : Cell) : Drawing :=
  { drawing with
    pen :=
      { drawing.pen with
        cursor := drawing.pen.cursor.map fun (x, y) ↦
          (min (x + max cell.width 1) columnLimit, y) } }

/-- Draws a cell that differs at a column and row. -/
def Drawing.change (drawing : Drawing) (x y : Nat) (cell : Cell) : Drawing :=
  (({ drawing with cells := drawing.cells + 1 }.moveTo x y).print cell).advance cell

/-- Draws one cell of a frame `width` columns wide, given as the cell that is shown, the cell to
show and its place. Equal cells are skipped, and continuations, which their wide glyph draws. -/
def Drawing.compare (width : Nat) (drawing : Drawing) (entry : (Cell × Cell) × Nat) : Drawing :=
  let ((shown, wanted), index) := entry
  if shown = wanted ∨ wanted.isContinuation then drawing
  else drawing.change (index % width) (index / width) wanted

/-- Draws the cells in which `next` differs from `current`. -/
def difference (current next : Frame) (pen : Pen) : Drawing :=
  ((current.cells.toList.zip next.cells.toList).zipIdx).foldl (Drawing.compare next.width)
    (.start pen)

/-! ### Whole frames -/

/-- Draws one cell of a row; continuations are drawn by their wide glyph. -/
def Drawing.repaintCell (drawing : Drawing) (cell : Cell) : Drawing :=
  if cell.isContinuation then drawing else drawing.print cell

/-- Draws a row of a frame from its first column on. -/
def Drawing.repaintRow (frame : Frame) (drawing : Drawing) (y : Nat) : Drawing :=
  let drawn := (frame.rowCells y).foldl Drawing.repaintCell (drawing.mark (.moveTo 0 y))
  { drawn with pen := { drawn.pen with cursor := some (frame.width, y) } }

/-- Draws a whole frame on a terminal of which nothing is known. -/
def repaint (frame : Frame) : Drawing :=
  (List.range frame.height).foldl (Drawing.repaintRow frame)
    (((Drawing.start .unknown).mark .hideCursor).mark .resetStyle)

end LiveBoard.Screen
