/-!
# The occupancy grid

A board has eight rows of eight squares. Row 0 is rank 8 and column 0 is file A. A square is
occupied or empty, and reading outside the board finds no piece.
-/

set_option autoImplicit false
set_option relaxedAutoImplicit false

namespace LiveBoard.Board

/-- The number of rows, and of columns. -/
def boardSize : Nat := 8

/-- Which squares are occupied, row by row. -/
structure Grid where
  /-- The rows, rank 8 first. -/
  rows : Vector (Vector Bool boardSize) boardSize
  deriving DecidableEq, Repr

/-- The grid without pieces. -/
def Grid.empty : Grid := ⟨.replicate boardSize (.replicate boardSize false)⟩

/-- Whether the square at a row and a column holds a piece. -/
def Grid.isOccupied (grid : Grid) (row column : Nat) : Bool :=
  ((grid.rows[row]?).bind fun squares ↦ squares[column]?).getD false

/-- The number of occupied squares. -/
def Grid.occupiedCount (grid : Grid) : Nat :=
  (grid.rows.toList.flatMap Vector.toList).count true

end LiveBoard.Board
