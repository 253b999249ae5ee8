import LiveBoard.Board.View
import LiveBoard.Proofs.Screen.Writing

/-!
# Paintings of views

A view is painted row by row, and each row from the left: the title, the file letters, and in
every rank its label and its squares. Every stroke is written where its row is still open, so
whatever characters the title and the labels are, no wide glyph is torn, and the painting on a
blank frame is well paired (`View.pairedOfSize_paint`).
-/

set_option autoImplicit false
set_option relaxedAutoImplicit false

namespace LiveBoard.Board

open Screen

/-! ### Strokes of a row -/

section Strokes

variable {frame : Frame} {x y : Nat}

@[simp]
theorem drawAll_append (frame : Frame) (first second : List Stroke) :
    frame.drawAll (first ++ second) = (frame.drawAll first).drawAll second :=
  List.foldl_append

@[simp]
theorem drawAll_cons (frame : Frame) (stroke : Stroke) (rest : List Stroke) :
    frame.drawAll (stroke :: rest) = (frame.draw stroke).drawAll rest := rfl

/-- A single character takes at most two columns of an open row. -/
theorem writes_label (hlimit : frame.width < columnLimit) (hpaired : frame.WellPaired)
    (hopen : frame.OpenFrom x y) (label : Char) (style : Style) :
    frame.Writes (frame.drawAll [.text x y [label] style]) y x (x + 2) := by
  have hwrites := Frame.writes_put hlimit hpaired hopen [label] style
  have hused : frame.used x [label] style ≤ 2 := columns_fitting_le frame.width x style [label]
  exact hwrites.widen (Nat.le_refl x) (by omega)

/-- Assumes: strokes for each item of a list, from one column to the next of a growing sequence of
columns. The strokes of all items are written one after the other. -/
theorem writes_zipIdx {α : Type} (place : Nat → Nat) (strokes : α × Nat → List Stroke)
    (hplace : ∀ k, place k ≤ place (k + 1))
    (hstep : ∀ (frame : Frame) (item : α) (k : Nat), frame.width < columnLimit →
      frame.WellPaired → frame.OpenFrom (place k) y →
      frame.Writes (frame.drawAll (strokes (item, k))) y (place k) (place (k + 1)))
    (hlimit : frame.width < columnLimit) (items : List α) (start : Nat)
    (hpaired : frame.WellPaired) (hopen : frame.OpenFrom (place start) y) :
    frame.Writes (frame.drawAll ((items.zipIdx start).flatMap strokes)) y (place start)
      (place (start + items.length)) := by
  induction items generalizing frame start with
  | nil => exact .refl hpaired hopen (Nat.le_refl _)
  | cons item rest ih =>
    have hfirst := hstep frame item start hlimit hpaired hopen
    have hrest := ih (by rw [hfirst.width]; exact hlimit) (start + 1) hfirst.paired hfirst.opened
    rw [List.zipIdx_cons, List.flatMap_cons, drawAll_append, List.length_cons,
      Nat.add_comm rest.length, ← Nat.add_assoc]
    exact hfirst.trans hrest (hplace start)

/-- A square takes its three columns. -/
theorem writes_square (hlimit : frame.width < columnLimit) (hpaired : frame.WellPaired)
    (square : Square) (column : Nat) (hopen : frame.OpenFrom (squareColumn column) y) :
    frame.Writes (frame.drawAll (square.strokes column y)) y (squareColumn column)
      (squareColumn (column + 1)) := by
  have hnext : squareColumn (column + 1) = squareColumn column + 3 := by
    simp only [squareColumn, squareWidth]
    omega
  have hground := Frame.writes_fill hpaired hopen squareWidth
    (Style.plain.withBackground square.shade.color)
  unfold Square.strokes
  dsimp only
  split
  · have hpiece := writes_label (by rw [hground.width]; exact hlimit) hground.paired
      (hground.opened.mono (Nat.le_succ _)) pieceGlyph (pieceStyle square.shade)
    rw [drawAll_cons]
    exact hground.trans (hpiece.widen (Nat.le_succ _) (by omega)) (Nat.le_refl _)
  · exact hground.widen (Nat.le_refl _) (by omega)

/-- A rank takes its row from its label on. -/
theorem writes_rank (hlimit : frame.width < columnLimit) (hpaired : frame.WellPaired) (rank : Rank)
    (row : Nat) (hopen : frame.OpenFrom 0 (row + 2)) :
    frame.Writes (frame.drawAll (rank.strokes row)) (row + 2) 0
      (squareColumn rank.squares.toList.length) := by
  have hlabel := (writes_label hlimit hpaired (hopen.mono (Nat.zero_le 1)) rank.label
    labelStyle).widen (Nat.zero_le 1) (Nat.le_refl 3)
  have hsquares := writes_zipIdx (y := row + 2) squareColumn
    (fun item ↦ item.1.strokes item.2 (row + 2))
    (fun k ↦ by simp only [squareColumn, squareWidth]; omega)
    (fun frame square k hlimit hpaired hopen ↦ writes_square hlimit hpaired square k hopen)
    (by rw [hlabel.width]; exact hlimit) rank.squares.toList 0 hlabel.paired hlabel.opened
  rw [Nat.zero_add] at hsquares
  exact hlabel.trans hsquares (Nat.zero_le _)

end Strokes

/-! ### Rows from the top -/

/-- A frame goes on from `before` to `after` by painting; it is well paired then, and rows from
`y` on are open. -/
structure Paints (before after : Frame) (y : Nat) : Prop where
  width : after.width = before.width
  height : after.height = before.height
  paired : after.WellPaired
  opened : ∀ row, y ≤ row → after.OpenFrom 0 row

section Rows

variable {before middle after frame : Frame} {y : Nat}

theorem Paints.trans {next : Nat} (hfirst : Paints before middle y)
    (hsecond : Paints middle after next) : Paints before after next where
  width := hsecond.width.trans hfirst.width
  height := hsecond.height.trans hfirst.height
  paired := hsecond.paired
  opened := hsecond.opened

/-- Writing into a row leaves the rows below it open. -/
theorem paints_of_writes {x stop : Nat} (hopen : ∀ row, y ≤ row → before.OpenFrom 0 row)
    (h : before.Writes after y x stop) : Paints before after (y + 1) where
  width := h.width
  height := h.height
  paired := h.paired
  opened row hrow := h.openFrom (by omega) (hopen row (by omega))

/-- The ranks are painted from the top. -/
theorem paints_ranks (hlimit : frame.width < columnLimit) (ranks : List Rank) (start : Nat)
    (hpaired : frame.WellPaired) (hopen : ∀ row, start + 2 ≤ row → frame.OpenFrom 0 row) :
    Paints frame (frame.drawAll ((ranks.zipIdx start).flatMap fun (rank, row) ↦ rank.strokes row))
      (start + ranks.length + 2) := by
  induction ranks generalizing frame start with
  | nil => exact ⟨rfl, rfl, hpaired, hopen⟩
  | cons rank rest ih =>
    have hrank := paints_of_writes hopen
      (writes_rank hlimit hpaired rank start (hopen _ (Nat.le_refl _)))
    have hrest := ih (by rw [hrank.width]; exact hlimit) (start + 1) hrank.paired
      fun row hrow ↦ hrank.opened row (by omega)
    rw [List.zipIdx_cons, List.flatMap_cons, drawAll_append, List.length_cons,
      Nat.add_comm rest.length, ← Nat.add_assoc]
    exact hrank.trans hrest

/-- The letters are painted into their row. -/
theorem writes_files (hlimit : frame.width < columnLimit) (hpaired : frame.WellPaired)
    (files : Vector Char boardSize) (hopen : frame.OpenFrom 0 1) :
    frame.Writes (frame.drawAll (fileStrokes files)) 1 4
      (squareColumn files.toList.length + 1) := by
  have hletters := writes_zipIdx (y := 1) (fun k ↦ squareColumn k + 1)
    (fun item ↦ [.text (squareColumn item.2 + 1) 1 [item.1] labelStyle])
    (fun k ↦ by simp only [squareColumn, squareWidth]; omega)
    (fun frame file k hlimit hpaired hopen ↦ (writes_label hlimit hpaired hopen file
      labelStyle).widen (Nat.le_refl _) (by simp only [squareColumn, squareWidth]; omega))
    hlimit files.toList 0 hpaired (hopen.mono (Nat.zero_le _))
  have hstrokes : fileStrokes files = (files.toList.zipIdx 0).flatMap
      fun item ↦ [.text (squareColumn item.2 + 1) 1 [item.1] labelStyle] :=
    List.map_eq_flatMap
  rw [hstrokes]
  rw [Nat.zero_add] at hletters
  exact hletters

/-- Assumes: a size whose columns can all be told from the limit. The painting of a view on a blank
frame is well paired, whatever characters the view has. -/
theorem View.pairedOfSize_paint (view : View) {width height : Nat} (hlimit : width < columnLimit) :
    (view.paint (.blank width height)).PairedOfSize width height := by
  have hblank := Frame.wellPaired_blank width height
  have htitle : Paints (.blank width height)
      ((Frame.blank width height).drawAll [.text (titleColumn view.title) 0 view.title labelStyle])
      1 :=
    paints_of_writes (fun row _ ↦ Frame.openFrom_blank width height 0 row)
      (Frame.writes_put hlimit hblank (Frame.openFrom_blank width height _ 0) view.title labelStyle)
  have hfiles := paints_of_writes htitle.opened
    (writes_files (by rw [htitle.width]; exact hlimit) htitle.paired view.files
      (htitle.opened 1 (Nat.le_refl 1)))
  have hranks := paints_ranks (by rw [hfiles.width, htitle.width]; exact hlimit) view.ranks.toList 0
    hfiles.paired hfiles.opened
  have hpainted := (htitle.trans hfiles).trans hranks
  unfold View.paint View.strokes
  rw [drawAll_append, drawAll_cons]
  exact ⟨hpainted.paired, hpainted.width, hpainted.height⟩

end Rows

/-! ### Rows apart -/

/-- The row of a stroke. -/
def strokeRow : Stroke → Nat
  | .text _ y _ _ => y
  | .span _ y _ _ => y

section Apart

variable {frame : Frame} {x y column row : Nat}

theorem get?_set_of_ne (hrow : row ≠ y) (cell : Cell) :
    (frame.set x y cell).get? column row = frame.get? column row := by
  by_cases hin : x < frame.width ∧ y < frame.height
  · rw [Frame.get?_set hin.1 hin.2, if_neg fun h ↦ hrow h.2]
  · rw [Frame.set_of_not_lt hin]

theorem get?_placeAll_of_ne (hrow : row ≠ y) (cells : List Cell) :
    (frame.placeAll x y cells).get? column row = frame.get? column row := by
  induction cells generalizing frame x with
  | nil => rfl
  | cons cell rest ih =>
    have hplaced : (frame.place x y cell).get? column row = frame.get? column row := by
      unfold Frame.place
      split
      · rw [get?_set_of_ne hrow, get?_set_of_ne hrow]
      · exact get?_set_of_ne hrow cell
    exact ih.trans hplaced

theorem get?_fill_of_ne (hrow : row ≠ y) (width : Nat) (style : Style) :
    (frame.fill x y width style).get? column row = frame.get? column row := by
  unfold Frame.fill
  generalize List.range' x _ = columns
  induction columns generalizing frame with
  | nil => rfl
  | cons first rest ih => exact ih.trans (get?_set_of_ne hrow _)

/-- Strokes change no row but their own. -/
theorem get?_drawAll_of_ne {strokes : List Stroke}
    (h : ∀ stroke ∈ strokes, strokeRow stroke ≠ row) :
    (frame.drawAll strokes).get? column row = frame.get? column row := by
  induction strokes generalizing frame with
  | nil => rfl
  | cons stroke rest ih =>
    have hstroke := h stroke List.mem_cons_self
    have hfirst : (frame.draw stroke).get? column row = frame.get? column row := by
      cases stroke with
      | text x y text style => exact get?_placeAll_of_ne hstroke.symm _
      | span x y width style => exact get?_fill_of_ne hstroke.symm width style
    rw [drawAll_cons, ih fun other hmem ↦ h other (List.mem_cons_of_mem _ hmem), hfirst]

end Apart

theorem strokeRow_file {files : Vector Char boardSize} :
    ∀ stroke ∈ fileStrokes files, strokeRow stroke = 1 := by
  intro stroke hstroke
  obtain ⟨item, -, rfl⟩ := List.mem_map.mp hstroke
  rfl

theorem strokeRow_rank (rank : Rank) (row : Nat) :
    ∀ stroke ∈ rank.strokes row, strokeRow stroke = row + 2 := by
  intro stroke hmem
  rcases List.mem_cons.mp hmem with rfl | hmem
  · rfl
  · obtain ⟨⟨square, column⟩, -, hstroke⟩ := List.mem_flatMap.mp hmem
    unfold Square.strokes at hstroke
    dsimp only at hstroke
    split at hstroke
    · rcases List.mem_cons.mp hstroke with rfl | hstroke
      · rfl
      · rw [List.mem_singleton.mp hstroke]
        rfl
    · rw [List.mem_singleton.mp hstroke]
      rfl

/-- The first row of a painting shows the title and nothing else. -/
theorem View.get?_painting_title (view : View) (column : Nat) :
    view.painting.get? column 0 =
      ((Frame.blank frameWidth frameHeight).put (titleColumn view.title) 0 view.title
        labelStyle).get? column 0 := by
  unfold View.painting View.paint View.strokes
  rw [List.cons_append, drawAll_cons]
  refine get?_drawAll_of_ne ?_
  intro stroke hmem
  rcases List.mem_append.mp hmem with hfile | hrank
  · rw [strokeRow_file stroke hfile]
    exact Nat.one_ne_zero
  · obtain ⟨⟨rank, index⟩, -, hstroke⟩ := List.mem_flatMap.mp hrank
    rw [strokeRow_rank rank index stroke hstroke]
    exact Nat.succ_ne_zero _

end LiveBoard.Board
