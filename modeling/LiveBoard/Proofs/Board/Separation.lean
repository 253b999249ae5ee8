import LiveBoard.Proofs.Board.Painting
import LiveBoard.Proofs.Screen.Overwriting

/-!
# Strokes kept apart

The strokes of a view are laid out so that none tears a glyph of an earlier one: those of two rows
never meet, a row is filled from the left, and a label of one character ends before the next stroke
of its row begins, even if it is two columns wide. Only a piece is drawn over an earlier stroke, its
square, whose blanks are all narrow. So whatever the title and the labels are, a view is painted
with every glyph whole (`View.paint_whole`).
-/

set_option autoImplicit false
set_option relaxedAutoImplicit false

namespace LiveBoard.Screen

/-! ### Glyphs that stay whole -/

/-- Drawing `later` tears no glyph that `earlier` has written. -/
def Stroke.KeptBy (width : Nat) (earlier later : Stroke) : Prop :=
  ∀ x y cell, earlier.cellAt? width x y = some cell → cell.isContinuation = false →
    ¬ (later.stretch width).Tears ⟨y, x, x + cell.width⟩

/-- A stroke writes into columns from `first` up to the one before `stop`. -/
structure Stroke.Within (width first stop : Nat) (stroke : Stroke) : Prop where
  first : first ≤ (stroke.stretch width).first
  stop : (stroke.stretch width).stop ≤ stop

section Kept

variable {width first stop x y : Nat} {stroke earlier later : Stroke} {cell : Cell}

/-- A glyph stands in the columns of its stroke. -/
theorem Stroke.stop_of_cellAt? (h : stroke.cellAt? width x y = some cell)
    (hwhole : cell.isContinuation = false) : x + cell.width ≤ (stroke.stretch width).stop := by
  have hcovers := Stroke.isSome_cellAt?.mp (Option.isSome_of_eq_some h)
  obtain ⟨-, k, -, hcell⟩ := Stroke.cellAt?_eq_some_iff.mp h
  rcases ((stroke.glyphRow_cells width).linkedRow.drawn k cell hcell hwhole).width.2 with
    hnarrow | hwide
  · rw [hnarrow]
    exact hcovers.2.2
  · have hnext := Option.isSome_of_eq_some (Stroke.cellAt?_of_wide h hwide)
    rw [hwide]
    exact (Stroke.isSome_cellAt?.mp hnext).2.2

/-- A narrow glyph cannot be torn. -/
theorem Stretch.not_tears_narrow (written : Stretch) (x y : Nat) :
    ¬ written.Tears ⟨y, x, x + 1⟩ := by
  rintro ⟨⟨column, row, ⟨hrow, hfirst, hstop⟩, hover⟩,
    other, line, ⟨hline, hstart, hend⟩, hkept⟩
  obtain rfl : line = row := hline.trans hrow.symm
  obtain rfl : other = column := by
    dsimp only at hfirst hstop hstart hend
    omega
  exact hkept hover

/-- A glyph in a row that is not written is not torn, nor is one left of what is written. -/
theorem Stretch.not_tears_of_apart {written glyph : Stretch}
    (h : glyph.row ≠ written.row ∨ glyph.stop ≤ written.first) : ¬ written.Tears glyph := by
  rintro ⟨⟨column, row, ⟨hrow, -, hstop⟩, hline, hstart, -⟩, -⟩
  omega

/-- A stroke keeps what was written into other rows, and what was written left of it. -/
theorem Stroke.keptBy_of_apart (h : (earlier.stretch width).row ≠ (later.stretch width).row ∨
    (earlier.stretch width).stop ≤ (later.stretch width).first) : earlier.KeptBy width later := by
  intro x y cell hcell hwhole
  obtain ⟨rfl, -⟩ := Stroke.cellAt?_eq_some_iff.mp hcell
  exact Stretch.not_tears_of_apart
    (h.imp_right (Nat.le_trans (Stroke.stop_of_cellAt? hcell hwhole)))

theorem Stroke.Within.keptBy {start last : Nat} (hearlier : earlier.Within width first stop)
    (hlater : later.Within width start last) (h : stop ≤ start) :
    earlier.KeptBy width later :=
  Stroke.keptBy_of_apart (.inr (Nat.le_trans hearlier.stop (Nat.le_trans h hlater.first)))

/-- The blanks of a span are kept by any stroke. -/
theorem Stroke.keptBy_of_span (left y count : Nat) (style : Style) (later : Stroke) :
    (Stroke.span left y count style).KeptBy width later := by
  intro x y cell hcell hwhole
  obtain ⟨-, k, -, hput⟩ := Stroke.cellAt?_eq_some_iff.mp hcell
  obtain ⟨blank, hblank, hspan⟩ := List.mem_flatMap.mp (List.mem_of_getElem? hput)
  obtain rfl : blank = Cell.blank.withStyle style := List.eq_of_mem_replicate hblank
  obtain rfl : cell = Cell.blank.withStyle style := List.mem_singleton.mp hspan
  exact Stretch.not_tears_narrow _ x y

theorem Stroke.Within.widen {start last : Nat} (h : stroke.Within width first stop)
    (hfirst : start ≤ first) (hstop : stop ≤ last) : stroke.Within width start last :=
  ⟨Nat.le_trans hfirst h.first, Nat.le_trans h.stop hstop⟩

/-- A single character takes at most two columns. -/
theorem Stroke.within_label (width x y : Nat) (label : Char) (style : Style) :
    (Stroke.text x y [label] style).Within width x (x + 2) where
  first := Nat.le_refl x
  stop := Nat.add_le_add_left (columns_fitting_le width x style [label]) x

theorem Stroke.within_span (width x y count : Nat) (style : Style) :
    (Stroke.span x y count style).Within width x (x + count) where
  first := Nat.le_refl x
  stop := by
    change x + columns (List.replicate _ _) ≤ x + count
    rw [columns_replicate_blank]
    omega

end Kept

end LiveBoard.Screen

namespace LiveBoard.Board

open Screen

/-! ### The layout of a view -/

section Layout

variable {width : Nat}

theorem pairwise_zipIdx {α : Type} (items : List α) (start : Nat) :
    (items.zipIdx start).Pairwise fun earlier later ↦ earlier.2 < later.2 := by
  induction items generalizing start with
  | nil => exact .nil
  | cons item rest ih =>
    rw [List.zipIdx_cons, List.pairwise_cons]
    exact ⟨fun later hlater ↦ List.le_snd_of_mem_zipIdx hlater, ih (start + 1)⟩

/-- Strokes for each item of a list are kept when those of one item are and when those of an item
are kept by those of the items behind it. -/
theorem pairwise_keptBy_zipIdx {α : Type} {strokes : α × Nat → List Stroke}
    (heach : ∀ item, (strokes item).Pairwise (Stroke.KeptBy width))
    (hapart : ∀ earlier later : α × Nat, earlier.2 < later.2 →
      ∀ stroke ∈ strokes earlier, ∀ other ∈ strokes later, stroke.KeptBy width other)
    (items : List α) :
    (items.zipIdx.flatMap strokes).Pairwise (Stroke.KeptBy width) :=
  List.pairwise_flatMap.mpr
    ⟨fun item _ ↦ heach item, (pairwise_zipIdx items 0).imp fun hlt ↦ hapart _ _ hlt⟩

theorem squareColumn_le {column other : Nat} (h : column < other) :
    squareColumn column + squareWidth ≤ squareColumn other := by
  simp only [squareColumn, squareWidth]
  omega

/-- A square takes its three columns. -/
theorem Square.within_strokes (square : Square) (width column y : Nat) :
    ∀ stroke ∈ square.strokes column y,
      stroke.Within width (squareColumn column) (squareColumn column + squareWidth) := by
  have hground := Stroke.within_span width (squareColumn column) y squareWidth
    (Style.plain.withBackground square.shade.color)
  have hpiece := (Stroke.within_label width (squareColumn column + 1) y pieceGlyph
    (pieceStyle square.shade)).widen (Nat.le_succ _) (Nat.le_refl (squareColumn column + 3))
  intro stroke hstroke
  unfold Square.strokes at hstroke
  dsimp only at hstroke
  split at hstroke
  · rcases List.mem_cons.mp hstroke with rfl | hstroke
    · exact hground
    · rw [List.mem_singleton.mp hstroke]
      exact hpiece
  · rw [List.mem_singleton.mp hstroke]
    exact hground

/-- The blanks of a square are narrow, so the piece on it tears nothing. -/
theorem Square.pairwise_strokes (square : Square) (column y : Nat) :
    (square.strokes column y).Pairwise (Stroke.KeptBy width) := by
  unfold Square.strokes
  dsimp only
  split
  · rw [List.pairwise_pair]
    exact Stroke.keptBy_of_span _ _ _ _ _
  · exact List.pairwise_singleton _ _

/-- The label of a rank ends before its squares, and each square before the next. -/
theorem Rank.pairwise_strokes (rank : Rank) (row : Nat) :
    (rank.strokes row).Pairwise (Stroke.KeptBy width) := by
  refine List.pairwise_cons.mpr ⟨?_, ?_⟩
  · intro later hlater
    obtain ⟨⟨square, column⟩, -, hstroke⟩ := List.mem_flatMap.mp hlater
    refine (Stroke.within_label width 1 (row + 2) rank.label labelStyle).keptBy
      (square.within_strokes width column (row + 2) later hstroke) ?_
    exact Nat.le_add_right gutterWidth _
  · refine pairwise_keptBy_zipIdx (fun item ↦ item.1.pairwise_strokes item.2 (row + 2)) ?_ _
    intro earlier later hlt stroke hstroke other hother
    exact (earlier.1.within_strokes width earlier.2 _ stroke hstroke).keptBy
      (later.1.within_strokes width later.2 _ other hother) (squareColumn_le hlt)

/-- Each file letter ends before the next. -/
theorem pairwise_fileStrokes (files : Vector Char boardSize) :
    (fileStrokes files).Pairwise (Stroke.KeptBy width) := by
  refine List.pairwise_map.mpr ((pairwise_zipIdx _ 0).imp fun {earlier later} hlt ↦ ?_)
  refine (Stroke.within_label width (squareColumn earlier.2 + 1) 1 earlier.1 labelStyle).keptBy
    (Stroke.within_label width (squareColumn later.2 + 1) 1 later.1 labelStyle) ?_
  have hnext := squareColumn_le hlt
  simp only [squareWidth] at hnext
  omega

theorem keptBy_of_strokeRow_ne {earlier later : Stroke} (h : strokeRow earlier ≠ strokeRow later) :
    earlier.KeptBy width later := by
  have hrow : ∀ stroke : Stroke, (stroke.stretch width).row = strokeRow stroke := by
    intro stroke
    cases stroke <;> rfl
  exact Stroke.keptBy_of_apart (.inl (by rwa [hrow, hrow]))

/-- The title, the letters and each rank have rows of their own. -/
theorem View.pairwise_strokes (view : View) :
    view.strokes.Pairwise (Stroke.KeptBy width) := by
  have hranks : ∀ stroke ∈ view.ranks.toList.zipIdx.flatMap fun item ↦ item.1.strokes item.2,
      2 ≤ strokeRow stroke := by
    intro stroke hstroke
    obtain ⟨⟨rank, row⟩, -, hrank⟩ := List.mem_flatMap.mp hstroke
    rw [strokeRow_rank rank row stroke hrank]
    exact Nat.le_add_left 2 row
  unfold View.strokes
  refine List.pairwise_append.mpr ⟨List.pairwise_cons.mpr ⟨?_, pairwise_fileStrokes view.files⟩,
    pairwise_keptBy_zipIdx (fun item ↦ item.1.pairwise_strokes item.2) ?_ _, ?_⟩
  · intro file hfile
    refine keptBy_of_strokeRow_ne ?_
    rw [strokeRow_file file hfile]
    exact Nat.zero_ne_one
  · intro earlier later hlt stroke hstroke other hother
    refine keptBy_of_strokeRow_ne ?_
    rw [strokeRow_rank _ _ stroke hstroke, strokeRow_rank _ _ other hother]
    omega
  · intro stroke hstroke other hother
    have hbelow := hranks other hother
    refine keptBy_of_strokeRow_ne ?_
    rcases List.mem_cons.mp hstroke with rfl | hfile
    · exact Nat.ne_of_lt (Nat.lt_of_lt_of_le Nat.two_pos hbelow)
    · rw [strokeRow_file stroke hfile]
      exact Nat.ne_of_lt hbelow

/-- Every stroke begins left of the end of the board. -/
theorem View.first_le (view : View) (width : Nat) :
    ∀ stroke ∈ view.strokes, (stroke.stretch width).first ≤ boardWidth := by
  have hboard {column : Nat} (h : column < boardSize) : squareColumn column + 3 ≤ boardWidth := by
    simp only [squareColumn, squareWidth, boardWidth, boardSize] at h ⊢
    omega
  intro stroke hstroke
  rcases List.mem_append.mp hstroke with hhead | hrank
  · rcases List.mem_cons.mp hhead with rfl | hfile
    · exact Nat.le_trans (Nat.div_le_self _ 2) (Nat.sub_le _ _)
    · obtain ⟨⟨file, column⟩, hmem, rfl⟩ := List.mem_map.mp hfile
      have hcolumn := List.snd_lt_of_mem_zipIdx hmem
      rw [Vector.length_toList] at hcolumn
      exact Nat.le_trans (Nat.add_le_add_left (by decide) _) (hboard hcolumn)
  · obtain ⟨⟨rank, row⟩, -, hstroke⟩ := List.mem_flatMap.mp hrank
    rcases List.mem_cons.mp hstroke with rfl | hsquare
    · exact Nat.le_add_left 1 _
    · obtain ⟨⟨square, column⟩, hmem, hstroke⟩ := List.mem_flatMap.mp hsquare
      have hcolumn := List.snd_lt_of_mem_zipIdx hmem
      rw [Vector.length_toList] at hcolumn
      have hwithin := (square.within_strokes width column (row + 2) stroke hstroke).stop
      rw [Stroke.stop_eq] at hwithin
      exact Nat.le_trans (Nat.le_of_add_right_le hwithin) (hboard hcolumn)

end Layout

/-- Assumes: a row whose columns can all be told from the limit. No stroke of a view overruns it. -/
theorem View.paint?_eq (view : View) {frame : Frame} (hlimit : frame.width < columnLimit) :
    view.paint? frame = some (view.paint frame) := by
  refine frame.drawAll?_of_not_overruns fun stroke hstroke ↦ ?_
  have hfirst := view.first_le frame.width stroke hstroke
  have hstop := stroke.stop_le hlimit
  have hboard : boardWidth ≤ columnLimit := by decide
  cases stroke with
  | text left row text style =>
    rw [Frame.strokeOverruns, Frame.overruns, decide_eq_false_iff_not, Nat.not_lt]
    change left ≤ boardWidth at hfirst
    change left + frame.used left text style ≤ max left frame.width at hstop
    omega
  | span left row count style => rfl

/-- Assumes: a frame whose columns can all be told from the limit. Whatever characters a view has,
it is painted into the cleared frame with each wide cell directly followed by a continuation in its
style and each continuation behind a wide cell, and no stroke tears a glyph that an earlier one has
written. -/
theorem View.paint_whole (view : View) {frame : Frame} (hlimit : frame.width < columnLimit) :
    ∃ painted, view.paint? frame.cleared = some painted ∧
      painted.PairedOfSize frame.width frame.height ∧
      view.strokes.Pairwise (Stroke.KeptBy frame.width) :=
  ⟨view.paint frame.cleared, view.paint?_eq hlimit, view.pairedOfSize_paint hlimit,
    view.pairwise_strokes⟩

/-- A view of wide glyphs. -/
def wideView : View where
  title := List.replicate 27 '日'
  files := .replicate boardSize '本'
  ranks := .replicate boardSize ⟨'王', .replicate boardSize ⟨true, .dark⟩⟩

/-- The frame ends inside the title's third glyph, the first letter and the first square. -/
theorem View.paint_whole_narrow :
    (Frame.blank 5 3).width < columnLimit ∧
      ∃ painted, wideView.paint? (Frame.blank 5 3).cleared = some painted ∧
        painted.get? 2 0 = some ⟨'日', 2, labelStyle⟩ ∧
        painted.get? 3 0 = some (.continuation labelStyle) ∧ painted.get? 4 0 = some .blank ∧
        painted.get? 4 1 = some .blank ∧ painted.get? 2 2 = some (.continuation labelStyle) ∧
        painted.WellPaired ∧ wideView.strokes.Pairwise (Stroke.KeptBy 5) := by
  have hlimit : (Frame.blank 5 3).width < columnLimit := by decide
  obtain ⟨painted, hpainted, hpaired, hkept⟩ := wideView.paint_whole hlimit
  obtain rfl : wideView.paint (Frame.blank 5 3).cleared = painted :=
    Option.some_inj.mp ((wideView.paint?_eq hlimit).symm.trans hpainted)
  have hcells : (wideView.paint (Frame.blank 5 3).cleared).get? 2 0 =
        some ⟨'日', 2, labelStyle⟩ ∧
      (wideView.paint (Frame.blank 5 3).cleared).get? 3 0 = some (.continuation labelStyle) ∧
      (wideView.paint (Frame.blank 5 3).cleared).get? 4 0 = some .blank ∧
      (wideView.paint (Frame.blank 5 3).cleared).get? 4 1 = some .blank ∧
      (wideView.paint (Frame.blank 5 3).cleared).get? 2 2 = some (.continuation labelStyle) := by
    decide +kernel
  obtain ⟨hsecond, hhalf, htitle, hletter, hlabel⟩ := hcells
  exact ⟨hlimit, _, hpainted, hsecond, hhalf, htitle, hletter, hlabel, hpaired.paired, hkept⟩

end LiveBoard.Board
