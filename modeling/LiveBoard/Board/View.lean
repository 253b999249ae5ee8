import LiveBoard.Board.State
import LiveBoard.Screen.Frame

/-!
# The view of a board

A view is what is displayed: a title with the timestamp, the file letters and eight labelled ranks
of shaded squares. `View.strokes` lays it out from the top left corner of a frame: the title above
the board and centred over it, the letters below it, and a rank in each row from there on, a square
three columns wide with its piece in the middle. What does not fit into the frame is cut off.
-/

set_option autoImplicit false
set_option relaxedAutoImplicit false

namespace LiveBoard.Board

open Screen

/-- The shade of a square. -/
inductive Shade
  | light
  | dark
  deriving DecidableEq, Repr

/-- The shade of the square at a row and a column: light where their sum is even. -/
def Shade.ofPlace (row column : Nat) : Shade := if (row + column) % 2 = 0 then .light else .dark

/-- The colour of a shade. -/
def Shade.color : Shade → Rgb
  | .light => .ofHex 0xF0D9B5
  | .dark => .ofHex 0xB58863

/-- A square as it is displayed. -/
structure Square where
  /-- Whether a piece stands here. -/
  occupied : Bool
  /-- The shade. -/
  shade : Shade
  deriving DecidableEq, Repr

/-- A rank as it is displayed. -/
structure Rank where
  /-- The label. -/
  label : Char
  /-- The squares, file A first. -/
  squares : Vector Square boardSize
  deriving DecidableEq, Repr

/-- What is displayed. -/
structure View where
  /-- The title. -/
  title : List Char
  /-- The file letters. -/
  files : Vector Char boardSize
  /-- The ranks, top first. -/
  ranks : Vector Rank boardSize
  deriving DecidableEq, Repr

/-- The file letters. -/
def fileLabels : Vector Char boardSize := #v['A', 'B', 'C', 'D', 'E', 'F', 'G', 'H']

/-- The label of a row: row 0 is rank 8. -/
def rankLabel (row : Nat) : Char := Nat.digitChar (boardSize - row)

/-- The title of a timestamp. -/
def titleOf (timestamp : Json.Number) : List Char :=
  "Chess Board (timestamp: ".toList ++ timestamp.text ++ [')']

/-- The view of a state. -/
def State.view (state : State) : View where
  title := titleOf state.timestamp
  files := fileLabels
  ranks := .ofFn fun row ↦
    { label := rankLabel row
      squares := .ofFn fun column ↦ ⟨state.grid.isOccupied row column, .ofPlace row column⟩ }

/-! ### Layout -/

/-- The width of a frame, that of a title whose timestamp has twenty-three characters. -/
def frameWidth : Nat := 48

/-- The height of a frame: the title, the letters and the ranks. -/
def frameHeight : Nat := 2 + boardSize

/-- The columns in front of the board, which hold the rank labels. -/
def gutterWidth : Nat := 3

/-- The columns of a square. -/
def squareWidth : Nat := 3

/-- The columns of the rank labels and the board. -/
def boardWidth : Nat := gutterWidth + squareWidth * boardSize

/-- The first column of the square in a column of the board. -/
def squareColumn (column : Nat) : Nat := gutterWidth + squareWidth * column

/-- The first column of a title, so that it is centred over the board. -/
def titleColumn (title : List Char) : Nat := (boardWidth - min title.length columnLimit) / 2

/-- The style of titles and labels. -/
def labelStyle : Style := Style.plain.bold

/-- The glyph of a piece. -/
def pieceGlyph : Char := '♟'

/-- The style of a piece on a square of a shade. -/
def pieceStyle (shade : Shade) : Style :=
  (Style.plain.withForeground .black).bold.withBackground shade.color

/-- The strokes of the square in a column of the board. -/
def Square.strokes (square : Square) (column y : Nat) : List Stroke :=
  let x := squareColumn column
  let ground := Stroke.span x y squareWidth (Style.plain.withBackground square.shade.color)
  if square.occupied then
    [ground, .text (x + 1) y [pieceGlyph] (pieceStyle square.shade)]
  else [ground]

/-- The strokes of the rank in a row of the board. -/
def Rank.strokes (rank : Rank) (row : Nat) : List Stroke :=
  .text 1 (row + 2) [rank.label] labelStyle ::
    rank.squares.toList.zipIdx.flatMap fun (square, column) ↦ square.strokes column (row + 2)

/-- The strokes of the file letters. -/
def fileStrokes (files : Vector Char boardSize) : List Stroke :=
  files.toList.zipIdx.map fun (file, column) ↦
    .text (squareColumn column + 1) 1 [file] labelStyle

/-- The strokes of a view, in the order in which they are drawn. -/
def View.strokes (view : View) : List Stroke :=
  .text (titleColumn view.title) 0 view.title labelStyle ::
    fileStrokes view.files ++
    view.ranks.toList.zipIdx.flatMap fun (rank, row) ↦ rank.strokes row

/-- The frame with a view painted into it. -/
def View.paint (view : View) (frame : Frame) : Frame := frame.drawAll view.strokes

/-- The frame with a view painted into it, none where its title runs past the largest column
number. -/
def View.paint? (view : View) (frame : Frame) : Option Frame := frame.drawAll? view.strokes

/-- The painting of a view on a blank frame of the usual size. -/
def View.painting (view : View) : Frame := view.paint (.blank frameWidth frameHeight)

end LiveBoard.Board
