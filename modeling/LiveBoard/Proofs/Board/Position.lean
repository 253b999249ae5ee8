import LiveBoard.Proofs.Board.LastKnownGood
import LiveBoard.Proofs.Board.Painting
import LiveBoard.Proofs.Json.NumberRange
import LiveBoard.Proofs.Screen.Ink

/-!
# The painted frame is the position

`State.cellAt?` says which cell a position has at a place: the title over the board, the letters and
the digits beside it, and shaded squares with their pieces; all other places are not the position's.
The strokes of a view put exactly these cells down (`State.inkOf?_view`). A timestamp that was read
is short and plain, so painting never runs past the largest column, and a frame of any size and
content shows the position where it has places for it (`State.painted_position`).
-/

set_option autoImplicit false
set_option relaxedAutoImplicit false

namespace LiveBoard.Board

open Screen

/-! ### The cells of a position -/

/-- Bold in the terminal's own colours. -/
def boldStyle : Style := ⟨.standard, .standard, .bold⟩

/-- The cell of a square, its first column counted as zero: a bold black piece in the middle of an
occupied one, and blanks on its shade. -/
def squareCell (occupied : Bool) (shade : Shade) (column : Nat) : Cell :=
  if occupied ∧ column = 1 then ⟨'♟', 1, ⟨.rgb .black, .rgb shade.color, .bold⟩⟩
  else ⟨' ', 1, ⟨.standard, .rgb shade.color, .empty⟩⟩

/-- The cell that a position has at a place. -/
def State.cellAt? (state : State) (x y : Nat) : Option Cell :=
  let title := state.view.title
  let start := (27 - title.length) / 2
  if y = 0 then
    if start ≤ x then title[x - start]?.map fun c ↦ ⟨c, 1, boldStyle⟩ else none
  else if y = 1 then
    if 4 ≤ x ∧ x % 3 = 1 then
      ['A', 'B', 'C', 'D', 'E', 'F', 'G', 'H'][(x - 4) / 3]?.map fun c ↦ ⟨c, 1, boldStyle⟩
    else none
  else if y < 10 then
    let row := y - 2
    if x = 1 then some ⟨Nat.digitChar (8 - row), 1, boldStyle⟩
    else if 3 ≤ x ∧ x < 27 then
      let column := (x - 3) / 3
      some (squareCell (state.grid.isOccupied row column)
        (if (row + column) % 2 = 0 then .light else .dark) (x % 3))
    else none
  else none

/-! ### The ink of a view -/

section Ink

variable {x y : Nat}

/-- A single character is put at one place. -/
theorem ink?_single (left row : Nat) (c : Char) (style : Style) :
    (Stroke.text left row [c] style).ink? x y =
      if y = row ∧ x = left then some ⟨c, 1, style⟩ else none := by
  by_cases hplace : y = row ∧ left ≤ x
  · by_cases hleft : x = left
    · simp [Stroke.ink?, hplace.1, hleft]
    · have hbeyond : [c][x - left]? = none := List.getElem?_eq_none (by simp; omega)
      simp [Stroke.ink?, hplace, hleft, hbeyond]
  · rw [Stroke.ink?, if_neg hplace, if_neg]
    omega

/-- Strokes of other rows put nothing at a place. -/
theorem inkOf?_of_row_ne {strokes : List Stroke} (h : ∀ stroke ∈ strokes, strokeRow stroke ≠ y) :
    inkOf? x y strokes = none := by
  induction strokes with
  | nil => rfl
  | cons stroke rest ih =>
    have hrow := h stroke List.mem_cons_self
    have hink : stroke.ink? x y = none := by
      cases stroke with
      | text left row chars style => exact if_neg fun hplace ↦ hrow hplace.1.symm
      | span left row width style => exact if_neg fun hplace ↦ hrow hplace.1.symm
    rw [inkOf?, ih fun other hother ↦ h other (List.mem_cons_of_mem stroke hother), hink]
    rfl

/-- A square puts its cells into its three columns. -/
theorem inkOf?_square (square : Square) (column : Nat) :
    inkOf? x y (square.strokes column y) =
      if 3 + 3 * column ≤ x ∧ x < 3 + 3 * (column + 1) then
        some (squareCell square.occupied square.shade (x % 3))
      else none := by
  have hground : (Stroke.span (squareColumn column) y squareWidth
      (Style.plain.withBackground square.shade.color)).ink? x y =
      if 3 + 3 * column ≤ x ∧ x < 3 + 3 * (column + 1) then
        some (squareCell false square.shade (x % 3)) else none := by
    simp only [Stroke.ink?, squareColumn, gutterWidth, squareWidth, true_and, Nat.mul_add,
      Nat.mul_one, Nat.add_assoc]
    rfl
  have hpiece : (Stroke.text (squareColumn column + 1) y [pieceGlyph]
      (pieceStyle square.shade)).ink? x y =
      if x = 3 + 3 * column + 1 then some (squareCell true square.shade 1) else none := by
    rw [ink?_single]
    simp only [squareColumn, gutterWidth, squareWidth, true_and]
    rfl
  unfold Square.strokes
  dsimp only
  cases hoccupied : square.occupied with
  | false => simp only [Bool.false_eq_true, ↓reduceIte, inkOf?_singleton, hground]
  | true =>
    simp only [↓reduceIte, inkOf?, hground, hpiece, Option.none_or]
    by_cases hmiddle : x = 3 + 3 * column + 1
    · have hin : 3 + 3 * column ≤ x ∧ x < 3 + 3 * (column + 1) := by omega
      have hthird : x % 3 = 1 := by omega
      rw [if_pos hmiddle, if_pos hin, if_pos hin, hthird]
      rfl
    · rw [if_neg hmiddle, Option.none_or]
      by_cases hin : 3 + 3 * column ≤ x ∧ x < 3 + 3 * (column + 1)
      · have hthird : x % 3 ≠ 1 := by omega
        simp [hin, hthird, squareCell]
      · rw [if_neg hin, if_neg hin]

/-- The squares of a rank put their cells into the columns of the board. -/
theorem inkOf?_squares (squares : Vector Square boardSize) :
    inkOf? x y (squares.toList.zipIdx.flatMap fun item ↦ item.1.strokes item.2 y) =
      if 3 ≤ x then
        squares[(x - 3) / 3]?.map fun square ↦ squareCell square.occupied square.shade (x % 3)
      else none := by
  have hothers : ∀ (square : Square) (column : Nat), column ≠ (x - 3) / 3 →
      inkOf? x y (square.strokes column y) = none := by
    intro square column hcolumn
    rw [inkOf?_square, if_neg]
    omega
  rw [inkOf?_zipIdx (fun item : Square × Nat ↦ item.1.strokes item.2 y) _ hothers,
    Vector.getElem?_toList]
  simp only [inkOf?_square]
  by_cases hin : 3 ≤ x
  · have hcolumn : 3 + 3 * ((x - 3) / 3) ≤ x ∧ x < 3 + 3 * ((x - 3) / 3 + 1) := by omega
    simp only [if_pos hin, if_pos hcolumn]
    cases squares[(x - 3) / 3]? <;> rfl
  · have hcolumn : ¬ (3 + 3 * ((x - 3) / 3) ≤ x ∧ x < 3 + 3 * ((x - 3) / 3 + 1)) := by omega
    simp only [if_neg hin, if_neg hcolumn, Option.bind_fun_none]

theorem Rank.strokes_eq (rank : Rank) (row : Nat) :
    rank.strokes row = .text 1 (row + 2) [rank.label] labelStyle ::
      rank.squares.toList.zipIdx.flatMap fun item ↦ item.1.strokes item.2 (row + 2) :=
  rfl

/-- A rank puts its digit and its squares into its row. -/
theorem inkOf?_rank (rank : Rank) {row : Nat} (hrow : row + 2 = y) :
    inkOf? x y (rank.strokes row) =
      if x = 1 then some ⟨rank.label, 1, labelStyle⟩
      else if 3 ≤ x then
        rank.squares[(x - 3) / 3]?.map fun square ↦ squareCell square.occupied square.shade (x % 3)
      else none := by
  rw [Rank.strokes_eq, inkOf?, hrow, inkOf?_squares, ink?_single]
  by_cases hlabel : x = 1
  · have hleft : ¬ 3 ≤ x := by omega
    rw [if_neg hleft, if_pos ⟨rfl, hlabel⟩, if_pos hlabel, Option.none_or]
  · have hplace : ¬ (y = y ∧ x = 1) := fun h ↦ hlabel h.2
    rw [if_neg hplace, if_neg hlabel, Option.or_none]

/-- The ranks of a view put their strokes into the rows below the letters. -/
theorem inkOf?_ranks (ranks : Vector Rank boardSize) :
    inkOf? x y (ranks.toList.zipIdx.flatMap fun item ↦ item.1.strokes item.2) =
      if 2 ≤ y then ranks[y - 2]?.bind fun rank ↦ inkOf? x y (rank.strokes (y - 2))
      else none := by
  have hothers : ∀ (rank : Rank) (row : Nat), row + 2 ≠ y →
      inkOf? x y (rank.strokes row) = none := by
    intro rank row hrow
    apply inkOf?_of_row_ne
    intro stroke hstroke
    rw [strokeRow_rank rank row stroke hstroke]
    exact hrow
  rw [inkOf?_zipIdx (fun item : Rank × Nat ↦ item.1.strokes item.2) (y - 2)
    (fun rank row hrow ↦ hothers rank row (by omega)), Vector.getElem?_toList]
  by_cases hin : 2 ≤ y
  · rw [if_pos hin]
  · have hrow : y - 2 + 2 ≠ y := by omega
    simp only [if_neg hin, hothers _ _ hrow, Option.bind_fun_none]

/-- The letters are put above their columns. -/
theorem inkOf?_files (files : Vector Char boardSize) :
    inkOf? x y (fileStrokes files) =
      if y = 1 ∧ 4 ≤ x ∧ x % 3 = 1 then
        files[(x - 4) / 3]?.map fun c ↦ ⟨c, 1, labelStyle⟩
      else none := by
  have hstrokes : fileStrokes files = (files.toList.zipIdx 0).flatMap
      fun item ↦ [.text (squareColumn item.2 + 1) 1 [item.1] labelStyle] :=
    List.map_eq_flatMap
  have hink : ∀ (file : Char) (column : Nat),
      inkOf? x y [.text (squareColumn column + 1) 1 [file] labelStyle] =
        if y = 1 ∧ x = 3 + 3 * column + 1 then some ⟨file, 1, labelStyle⟩ else none := by
    intro file column
    rw [inkOf?_singleton, ink?_single]
    rfl
  have hothers : ∀ (file : Char) (column : Nat), column ≠ (x - 4) / 3 →
      inkOf? x y [.text (squareColumn column + 1) 1 [file] labelStyle] = none := by
    intro file column hcolumn
    rw [hink, if_neg]
    omega
  rw [hstrokes]
  refine (inkOf?_zipIdx (fun item ↦ [.text (squareColumn item.2 + 1) 1 [item.1] labelStyle]) _
    hothers files.toList).trans ?_
  simp only [hink, Vector.getElem?_toList]
  by_cases hplace : y = 1 ∧ 4 ≤ x ∧ x % 3 = 1
  · have hcolumn : y = 1 ∧ x = 3 + 3 * ((x - 4) / 3) + 1 := by omega
    simp only [if_pos hplace, if_pos hcolumn]
    cases files[(x - 4) / 3]? <;> rfl
  · have hcolumn : ¬ (y = 1 ∧ x = 3 + 3 * ((x - 4) / 3) + 1) := by omega
    simp only [if_neg hplace, if_neg hcolumn, Option.bind_fun_none]

theorem titleColumn_eq (title : List Char) : titleColumn title = (27 - title.length) / 2 := by
  simp only [titleColumn, boardWidth, gutterWidth, squareWidth, boardSize, columnLimit]
  omega

theorem labelStyle_eq : labelStyle = boldStyle := rfl

/-- A rank of a view has the cells of its row. -/
theorem State.inkOf?_row (state : State) {row : Nat} (hrow : row < boardSize)
    (hplace : row + 2 = y) :
    inkOf? x y (state.view.ranks[row].strokes row) =
      if x = 1 then some ⟨Nat.digitChar (8 - row), 1, boldStyle⟩
      else if 3 ≤ x ∧ x < 27 then
        some (squareCell (state.grid.isOccupied row ((x - 3) / 3)) (.ofPlace row ((x - 3) / 3))
          (x % 3))
      else none := by
  rw [inkOf?_rank _ hplace]
  by_cases hlabel : x = 1
  · rw [if_pos hlabel, if_pos hlabel]
    simp [State.view, rankLabel, boardSize, labelStyle_eq]
  · rw [if_neg hlabel, if_neg hlabel]
    by_cases hleft : 3 ≤ x
    · rw [if_pos hleft]
      by_cases hright : x < 27
      · have hcolumn : (x - 3) / 3 < boardSize := by
          simp only [boardSize]
          omega
        rw [if_pos ⟨hleft, hright⟩, Vector.getElem?_eq_getElem hcolumn]
        simp [State.view]
      · have hcolumn : boardSize ≤ (x - 3) / 3 := by
          simp only [boardSize]
          omega
        rw [if_neg fun h ↦ hright h.2, Vector.getElem?_eq_none hcolumn]
        rfl
    · rw [if_neg hleft, if_neg fun h ↦ hleft h.1]

/-- The strokes of a view put the cells of its position down, and no others. -/
theorem State.inkOf?_view (state : State) : inkOf? x y state.view.strokes = state.cellAt? x y := by
  rw [View.strokes, inkOf?_append, inkOf?_ranks, inkOf?, inkOf?_files, labelStyle_eq, Stroke.ink?,
    titleColumn_eq]
  unfold State.cellAt?
  dsimp only
  by_cases htitle : y = 0
  · simp [htitle]
  · by_cases hfiles : y = 1
    · have hletters : ∀ k : Nat, state.view.files[k]? =
          ['A', 'B', 'C', 'D', 'E', 'F', 'G', 'H'][k]? := fun k ↦ (Vector.getElem?_toList ..).symm
      simp [hfiles, hletters]
    · have hbelow : 2 ≤ y := by omega
      have hfile : ¬ (y = 1 ∧ 4 ≤ x ∧ x % 3 = 1) := fun h ↦ hfiles h.1
      have hstart : ¬ (y = 0 ∧ (27 - state.view.title.length) / 2 ≤ x) := fun h ↦ htitle h.1
      rw [if_pos hbelow, if_neg hfile, if_neg hstart, if_neg htitle, if_neg hfiles,
        Option.or_none, Option.or_none]
      by_cases hranks : y < 10
      · have hrow : y - 2 < boardSize := by
          simp only [boardSize]
          omega
        rw [if_pos hranks, Vector.getElem?_eq_getElem hrow, Option.bind_some,
          state.inkOf?_row hrow (Nat.sub_add_cancel hbelow)]
        rfl
      · have hrow : boardSize ≤ y - 2 := by
          simp only [boardSize]
          omega
        rw [if_neg hranks, Vector.getElem?_eq_none hrow]
        rfl

end Ink

/-! ### Views fit -/

theorem glyphWidth_of_isNumberChar {c : Char} (h : Numeric.isNumberChar c = true) :
    glyphWidth c = 1 := by
  have hprinted := Numeric.toNat_of_isNumberChar h
  rw [glyphWidth, if_pos (by omega)]

theorem fits_single {left : Nat} {c : Char} (hleft : left ≤ 27) (hc : glyphWidth c = 1)
    (row : Nat) (style : Style) : (Stroke.text left row [c] style).Fits := by
  refine ⟨by simpa using hc, ?_⟩
  simp only [List.length_singleton, columnLimit]
  omega

@[simp]
theorem length_titleOf (timestamp : Json.Number) :
    (titleOf timestamp).length = timestamp.text.length + 25 := by
  have hwords : "Chess Board (timestamp: ".toList.length = 24 := by decide +kernel
  unfold titleOf
  generalize "Chess Board (timestamp: ".toList = words at hwords ⊢
  rw [List.length_append, List.length_append, hwords, List.length_singleton]
  omega

/-- The title of a number in range has at most forty-nine characters, of one column each. -/
theorem titleOf_fits {timestamp : Json.Number} (h : timestamp.InRange) :
    (titleOf timestamp).length ≤ 49 ∧ ∀ c ∈ titleOf timestamp, glyphWidth c = 1 := by
  constructor
  · have htext := Json.Number.length_text_le h
    rw [length_titleOf]
    omega
  · have hwords : ("Chess Board (timestamp: ".toList.all fun c ↦ glyphWidth c == 1) = true := by
      decide +kernel
    unfold titleOf
    generalize "Chess Board (timestamp: ".toList = words at hwords ⊢
    rw [List.forall_mem_append, List.forall_mem_append, List.forall_mem_singleton]
    refine ⟨⟨by simpa using hwords, fun c hc ↦ ?_⟩, by decide⟩
    exact glyphWidth_of_isNumberChar (timestamp.isNumberChar_text c hc)

theorem fits_square (square : Square) {column : Nat} (hcolumn : column < boardSize) (y : Nat) :
    ∀ stroke ∈ square.strokes column y, stroke.Fits := by
  have hpiece : (Stroke.text (squareColumn column + 1) y [pieceGlyph]
      (pieceStyle square.shade)).Fits := by
    apply fits_single
    · simp only [squareColumn, gutterWidth, squareWidth]
      simp only [boardSize] at hcolumn
      omega
    · decide +kernel
  unfold Square.strokes
  dsimp only
  split_ifs
  · rw [List.forall_mem_cons, List.forall_mem_singleton]
    exact ⟨trivial, hpiece⟩
  · rw [List.forall_mem_singleton]
    trivial

theorem fits_rank {rank : Rank} (hlabel : glyphWidth rank.label = 1) (row : Nat) :
    ∀ stroke ∈ rank.strokes row, stroke.Fits := by
  intro stroke hstroke
  obtain rfl | hstroke := List.mem_cons.mp hstroke
  · exact fits_single (by decide) hlabel _ _
  · obtain ⟨⟨square, column⟩, hmem, hstroke⟩ := List.mem_flatMap.mp hstroke
    have hcolumn : column < boardSize := by
      have hbound := List.snd_lt_of_mem_zipIdx hmem
      simpa using hbound
    exact fits_square square hcolumn _ stroke hstroke

theorem fits_files : ∀ stroke ∈ fileStrokes fileLabels, stroke.Fits := by
  have hletters : ∀ c ∈ fileLabels.toList, glyphWidth c = 1 := by
    have hall : (fileLabels.toList.all fun c ↦ glyphWidth c == 1) = true := by decide
    simpa only [List.all_eq_true, beq_iff_eq] using hall
  intro stroke hstroke
  obtain ⟨⟨file, column⟩, hmem, rfl⟩ := List.mem_map.mp hstroke
  have hbound := List.snd_lt_of_mem_zipIdx hmem
  have hcolumn : column < boardSize := by simpa using hbound
  simp only [boardSize] at hcolumn
  refine fits_single ?_ (hletters file (List.fst_mem_of_mem_zipIdx hmem)) _ _
  simp only [squareColumn, gutterWidth, squareWidth]
  omega

/-- The view of a timestamp in range fits into every frame. -/
theorem State.fits_view {state : State} (h : state.timestamp.InRange) :
    ∀ stroke ∈ state.view.strokes, stroke.Fits := by
  obtain ⟨hlength, htitle⟩ := titleOf_fits h
  have hlabels : ∀ row : Fin boardSize, glyphWidth (rankLabel row) = 1 := by decide
  intro stroke hstroke
  obtain hhead | hrank := List.mem_append.mp hstroke
  · obtain rfl | hfile := List.mem_cons.mp hhead
    · refine ⟨htitle, ?_⟩
      rw [titleColumn_eq]
      simp only [State.view, columnLimit]
      omega
    · exact fits_files stroke hfile
  · obtain ⟨⟨rank, row⟩, hmem, hstroke⟩ := List.mem_flatMap.mp hrank
    refine fits_rank ?_ row stroke hstroke
    have hrank := List.fst_mem_of_mem_zipIdx hmem
    simp only [State.view, Vector.mem_toList_iff, Vector.mem_ofFn] at hrank
    obtain ⟨index, rfl⟩ := hrank
    exact hlabels index

/-! ### Timestamps that were read -/

theorem inRange_of_timestampIn {payload : List UInt8} {number : Json.Number}
    (h : timestampIn payload = some number) : number.InRange := by
  obtain ⟨update, hupdate, hnumber⟩ := Option.bind_eq_some_iff.mp h
  have hdecode : Update.decode payload = .ok update := by
    cases hresult : Update.decode payload <;> rw [hresult] at hupdate <;> cases hupdate
    rfl
  obtain ⟨members, board, hobject, hmessage, -⟩ :=
    (Update.decode_eq_ok_iff payload update).mp hdecode
  have hmember := hmessage.timestamp
  rw [hnumber] at hmember
  generalize hfound : Json.lastMember? "timestamp".toList members = member at hmember
  cases hmember
  exact Json.inRange_of_lastMember? hobject hfound

theorem State.inRange_receive {state : State} (h : state.timestamp.InRange)
    (payload : List UInt8) : (state.receive payload).timestamp.InRange := by
  rw [State.receive_timestamp]
  cases htimestamp : timestampIn payload with
  | none => exact h
  | some number => exact inRange_of_timestampIn htimestamp

theorem State.inRange_initial : State.initial.timestamp.InRange := Nat.zero_le _

/-- The timestamp shown is in range after any payloads. -/
theorem State.inRange_foldl (payloads : List (List UInt8)) :
    (payloads.foldl State.receive .initial).timestamp.InRange := by
  suffices h : ∀ state : State, state.timestamp.InRange →
      (payloads.foldl State.receive state).timestamp.InRange from h _ State.inRange_initial
  induction payloads with
  | nil => exact fun state hstate ↦ hstate
  | cons payload rest ih =>
    intro state hstate
    exact ih _ (State.inRange_receive hstate payload)

/-! ### The painted frame -/

/-- Painting puts the cells of a position into the places that the frame has. -/
theorem State.get?_paint {state : State} (h : state.timestamp.InRange) {frame : Frame} {x y : Nat}
    (hx : x < frame.width) (hy : y < frame.height) :
    (state.view.paint frame).get? x y = (state.cellAt? x y).or (frame.get? x y) := by
  rw [View.paint, Frame.get?_drawAll hx hy (State.fits_view h), State.inkOf?_view]

/-- The middle of a square shows its piece. -/
theorem State.cellAt?_middle (state : State) {row column : Nat} (hrow : row < boardSize)
    (hcolumn : column < boardSize) :
    state.cellAt? (4 + 3 * column) (2 + row) =
      some (squareCell (state.grid.isOccupied row column) (.ofPlace row column) 1) := by
  simp only [boardSize] at hrow hcolumn
  have hplace : 3 ≤ 4 + 3 * column ∧ 4 + 3 * column < 27 := by omega
  have hthird : (4 + 3 * column) % 3 = 1 := by omega
  have hindex : (4 + 3 * column - 3) / 3 = column := by omega
  have hbelow : 2 + row - 2 = row := by omega
  unfold State.cellAt?
  dsimp only
  rw [if_neg (by omega), if_neg (by omega), if_pos (by omega), if_neg (by omega), if_pos hplace,
    hthird, hindex, hbelow]
  rfl

@[simp]
theorem glyph_squareCell (occupied : Bool) (shade : Shade) :
    (squareCell occupied shade 1).glyph = pieceGlyph ↔ occupied = true := by
  have hblank : ' ' ≠ pieceGlyph := by decide
  cases occupied with
  | false => simpa [squareCell] using hblank
  | true => simp [squareCell, pieceGlyph]

/-- Whichever payloads were received, the position is painted into a frame of any size and content:
each place of the frame holds the cell that the position has there, or else what it held before. So
painting a frame is painting a larger one and cutting it to size, and a frame of 27 columns and 10
rows tells of every square whether a piece stands on it. -/
theorem State.painted_position (payloads : List (List UInt8)) (frame : Frame) :
    let state := payloads.foldl State.receive .initial
    ∃ painted, state.view.paint? frame = some painted ∧
      painted.width = frame.width ∧ painted.height = frame.height ∧
      (∀ x y, x < frame.width → y < frame.height →
        painted.get? x y = (state.cellAt? x y).or (frame.get? x y)) ∧
      (∀ larger : Frame, frame.width ≤ larger.width → frame.height ≤ larger.height →
        (∀ x y, x < frame.width → y < frame.height → larger.get? x y = frame.get? x y) →
        ∃ wide, state.view.paint? larger = some wide ∧
          ∀ x y, x < frame.width → y < frame.height → painted.get? x y = wide.get? x y) ∧
      (27 ≤ frame.width → 10 ≤ frame.height → ∀ row column, row < boardSize → column < boardSize →
        ((painted.get? (4 + 3 * column) (2 + row)).map Cell.glyph = some pieceGlyph ↔
          state.grid.isOccupied row column = true)) := by
  intro state
  have hrange : state.timestamp.InRange := State.inRange_foldl payloads
  have hpaint : ∀ target : Frame, state.view.paint? target = some (state.view.paint target) :=
    fun target ↦ target.drawAll?_of_fits (State.fits_view hrange)
  obtain ⟨hwidth, hheight⟩ := frame.size_drawAll state.view.strokes
  refine ⟨state.view.paint frame, hpaint frame, hwidth, hheight,
    fun x y ↦ State.get?_paint hrange, ?_, ?_⟩
  · intro larger hwider hhigher hsame
    refine ⟨state.view.paint larger, hpaint larger, fun x y hx hy ↦ ?_⟩
    rw [State.get?_paint hrange hx hy,
      State.get?_paint hrange (hx.trans_le hwider) (hy.trans_le hhigher), hsame x y hx hy]
  · intro hwide hhigh row column hrow hcolumn
    have hcell := state.cellAt?_middle hrow hcolumn
    simp only [boardSize] at hrow hcolumn
    rw [State.get?_paint hrange (by omega) (by omega), hcell, Option.some_or, Option.map_some,
      Option.some_inj]
    exact glyph_squareCell _ _

/-- The empty board on a blank frame that just holds it. -/
theorem State.painted_position_blank :
    ∃ painted, State.initial.view.paint? (.blank 27 10) = some painted ∧
      painted.get? 4 2 = some ⟨' ', 1, ⟨.standard, .rgb ⟨0xF0, 0xD9, 0xB5⟩, .empty⟩⟩ ∧
      (painted.get? 25 9).map Cell.glyph ≠ some pieceGlyph := by
  obtain ⟨painted, hpainted, -, -, hcells, -, hread⟩ :=
    State.painted_position [] (.blank 27 10)
  refine ⟨painted, hpainted, ?_, ?_⟩
  · rw [hcells 4 2 (by decide) (by decide)]
    rfl
  · have hlast := hread (by decide) (by decide) 7 7 (by decide) (by decide)
    rw [ne_eq, hlast]
    decide

end LiveBoard.Board
