import LiveBoard.Screen.Cell
import LiveBoard.Text.WhiteSpace

/-!
# Frames

A frame is a grid of cells, stored row after row. Writing outside it does nothing. A text is written
from a column on for as long as its characters fit into the row, each wide one followed by its
continuation.

Columns are counted in sixteen bits, so a row has at most `columnLimit` columns. In a row of exactly
that many the test whether a character fits cannot fail, and a text may run past the last column;
`Frame.overruns` says when that happens, and `Frame.put?` refuses it.
-/

set_option autoImplicit false
set_option relaxedAutoImplicit false

namespace LiveBoard.Screen

/-- The largest column number. -/
def columnLimit : Nat := 65535

/-- A grid of cells. -/
structure Frame where
  /-- The number of columns. -/
  width : Nat
  /-- The number of rows. -/
  height : Nat
  /-- The cells, row after row. -/
  cells : Array Cell
  /-- There is a cell for every row and column. -/
  size_eq : cells.size = width * height

/-- The frame of blanks of a size. -/
def Frame.blank (width height : Nat) : Frame :=
  ⟨width, height, .replicate (width * height) .blank, by simp⟩

/-- The frame of blanks of a size without a zero side. -/
def Frame.ofSize? (width height : Nat) : Option Frame :=
  if width = 0 ∨ height = 0 then none else some (.blank width height)

/-- The place of a row and column among the cells. -/
def Frame.indexOf? (frame : Frame) (x y : Nat) : Option Nat :=
  if x < frame.width ∧ y < frame.height then some (y * frame.width + x) else none

/-- Whether a row and column lie in the frame. -/
def Frame.contains (frame : Frame) (x y : Nat) : Bool := (frame.indexOf? x y).isSome

/-- The cell at a row and column. -/
def Frame.get? (frame : Frame) (x y : Nat) : Option Cell :=
  (frame.indexOf? x y).bind fun index ↦ frame.cells[index]?

/-- The frame with another cell at a row and column. -/
def Frame.set (frame : Frame) (x y : Nat) (cell : Cell) : Frame :=
  match frame.indexOf? x y with
  | some index =>
    { frame with
      cells := frame.cells.setIfInBounds index cell
      size_eq := by simp [frame.size_eq] }
  | none => frame

/-- The frame with every cell blank. -/
def Frame.cleared (frame : Frame) : Frame := .blank frame.width frame.height

/-- The frame with a span of a row blanked in a style. -/
def Frame.fill (frame : Frame) (x y width : Nat) (style : Style) : Frame :=
  (List.range' x (min (x + width) frame.width - x)).foldl
    (fun frame column ↦ frame.set column y (Cell.blank.withStyle style)) frame

/-! ### Writing text -/

/-- The cells of the characters of a text that fit into a row of `width` columns from a column
on. -/
def fitting (width column : Nat) (style : Style) : List Char → List Cell
  | [] => []
  | c :: rest =>
    let cell := Cell.styled c style
    if width < min (column + cell.width) columnLimit then []
    else cell :: fitting width (column + cell.width) style rest

/-- The number of columns of a run of cells. -/
def columns : List Cell → Nat
  | [] => 0
  | cell :: rest => cell.width + columns rest

/-- The frame with one cell written, and its continuation if it is wide. -/
def Frame.place (frame : Frame) (x y : Nat) (cell : Cell) : Frame :=
  if cell.width = 2 then (frame.set x y cell).set (x + 1) y (.continuation cell.style)
  else frame.set x y cell

/-- The frame with a run of cells written from a column on. -/
def Frame.placeAll (frame : Frame) (x y : Nat) : List Cell → Frame
  | [] => frame
  | cell :: rest => (frame.place x y cell).placeAll (x + cell.width) y rest

/-- The cells that a text writes from a column on. -/
def Frame.fittingText (frame : Frame) (x : Nat) (text : List Char) (style : Style) : List Cell :=
  fitting frame.width x style text

/-- The frame with a text written from a column on. -/
def Frame.put (frame : Frame) (x y : Nat) (text : List Char) (style : Style) : Frame :=
  frame.placeAll x y (frame.fittingText x text style)

/-- The number of columns that a text takes from a column on. -/
def Frame.used (frame : Frame) (x : Nat) (text : List Char) (style : Style) : Nat :=
  columns (frame.fittingText x text style)

/-- Whether a text runs past the largest column number. -/
def Frame.overruns (frame : Frame) (x : Nat) (text : List Char) (style : Style) : Bool :=
  columnLimit < x + frame.used x text style

/-- The frame with a text written from a column on, and the number of columns it takes. -/
def Frame.put? (frame : Frame) (x y : Nat) (text : List Char) (style : Style) :
    Option (Frame × Nat) :=
  if frame.overruns x text style then none
  else some (frame.put x y text style, frame.used x text style)

/-! ### Reading rows -/

/-- The cells of a row. -/
def Frame.rowCells (frame : Frame) (y : Nat) : List Cell :=
  (frame.cells.extract (y * frame.width) ((y + 1) * frame.width)).toList

/-- The characters of a row without the white space at its end. -/
def Frame.rowText (frame : Frame) (y : Nat) : List Char :=
  if y < frame.height then
    Text.trimEnd (((frame.rowCells y).filter fun cell ↦ !cell.isContinuation).map Cell.glyph)
  else []

/-- The texts of all rows. -/
def Frame.rowTexts (frame : Frame) : List (List Char) :=
  (List.range frame.height).map frame.rowText

/-- A frame as log lines show it, by its size alone. -/
def Frame.describe (frame : Frame) : String :=
  "Buffer \x7b width: " ++ toString frame.width ++ ", height: " ++ toString frame.height ++
    ", .. \x7d"

/-! ### Strokes -/

/-- One thing to draw into a frame. -/
inductive Stroke
  /-- A text from a column on. -/
  | text (x y : Nat) (text : List Char) (style : Style)
  /-- A span of blanks. -/
  | span (x y width : Nat) (style : Style)
  deriving Repr

/-- The frame with one thing drawn. -/
def Frame.draw (frame : Frame) : Stroke → Frame
  | .text x y text style => frame.put x y text style
  | .span x y width style => frame.fill x y width style

/-- The frame with things drawn one after the other. -/
def Frame.drawAll (frame : Frame) (strokes : List Stroke) : Frame := strokes.foldl Frame.draw frame

/-- Whether a stroke runs past the largest column number. -/
def Frame.strokeOverruns (frame : Frame) : Stroke → Bool
  | .text x _ text style => frame.overruns x text style
  | .span .. => false

/-- The frame with things drawn one after the other, none where one of them runs past the largest
column number. -/
def Frame.drawAll? (frame : Frame) (strokes : List Stroke) : Option Frame :=
  if strokes.any frame.strokeOverruns then none else some (frame.drawAll strokes)

end LiveBoard.Screen
