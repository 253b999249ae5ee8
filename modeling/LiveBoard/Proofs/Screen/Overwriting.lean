import LiveBoard.Proofs.Screen.Ink
import Mathlib.Data.List.Induction

/-!
# Writing over glyphs

A stroke writes whole glyphs, one after the other (`Stroke.glyphs`): their cells go into the columns
of its stretch, and no other place of the frame changes (`Frame.get?_draw_eq`).

What stood there before is lost, and of a wide glyph one half may be lost without the other: the
stroke tears it (`Stretch.Tears`). The half that is left stays behind. So a frame in which wide
cells and continuations go together (`Frame.Paired`) stays such a frame through any sequence of
strokes where, and only where, none of them tears a wide glyph (`Frame.stays_paired_iff`).
-/

set_option autoImplicit false
set_option relaxedAutoImplicit false

namespace LiveBoard.Screen

/-! ### Stretches -/

/-- Columns of a row, from `first` up to the one before `stop`. -/
structure Stretch where
  /-- The row. -/
  row : Nat
  /-- The first column. -/
  first : Nat
  /-- The column after the last one. -/
  stop : Nat

/-- The stretch holds the place at a column and a row. -/
def Stretch.Covers (stretch : Stretch) (x y : Nat) : Prop :=
  y = stretch.row ∧ stretch.first ≤ x ∧ x < stretch.stop

instance (stretch : Stretch) (x y : Nat) : Decidable (stretch.Covers x y) :=
  inferInstanceAs (Decidable (_ ∧ _))

/-- What is written into a stretch covers one part of a glyph and leaves another. -/
def Stretch.Tears (written glyph : Stretch) : Prop :=
  (∃ x y, glyph.Covers x y ∧ written.Covers x y) ∧ ∃ x y, glyph.Covers x y ∧ ¬ written.Covers x y

/-- A wide glyph is torn when exactly one of its halves is written over. -/
theorem Stretch.tears_pair_iff {written : Stretch} {x y : Nat} :
    written.Tears ⟨y, x, x + 2⟩ ↔ ¬ (written.Covers x y ↔ written.Covers (x + 1) y) := by
  have hleft : (⟨y, x, x + 2⟩ : Stretch).Covers x y := ⟨rfl, Nat.le_refl x, by dsimp only; omega⟩
  have hright : (⟨y, x, x + 2⟩ : Stretch).Covers (x + 1) y :=
    ⟨rfl, Nat.le_succ x, by dsimp only; omega⟩
  constructor
  · rintro ⟨⟨column, row, hglyph, hover⟩, other, line, hpart, hkept⟩ hboth
    obtain ⟨hrow, hfrom, hto⟩ := hglyph
    obtain ⟨hline, hstart, hend⟩ := hpart
    dsimp only at hrow hfrom hto hline hstart hend
    subst hrow hline
    have hcolumn : column = x ∨ column = x + 1 := by omega
    have hother : other = x ∨ other = x + 1 := by omega
    rcases hcolumn with rfl | rfl <;> rcases hother with rfl | rfl
    · exact hkept hover
    · exact hkept (hboth.mp hover)
    · exact hkept (hboth.mpr hover)
    · exact hkept hover
  · intro hone
    by_cases hover : written.Covers x y
    · exact ⟨⟨x, y, hleft, hover⟩, x + 1, y, hright, fun h ↦ hone ⟨fun _ ↦ h, fun _ ↦ hover⟩⟩
    · have hsecond : written.Covers (x + 1) y := by
        by_contra hneither
        exact hone ⟨fun h ↦ absurd h hover, fun h ↦ absurd h hneither⟩
      exact ⟨⟨x + 1, y, hright, hsecond⟩, x, y, hleft, hover⟩

/-! ### Runs of glyphs -/

section Runs

variable {cells : List Cell}

theorem length_flatMap_span (h : ∀ cell ∈ cells, cell.IsDrawn) :
    (cells.flatMap Cell.span).length = columns cells := by
  induction cells with
  | nil => rfl
  | cons cell rest ih =>
    rw [List.forall_mem_cons] at h
    rw [List.flatMap_cons, List.length_append, ih h.2, h.1.length_span]
    rfl

theorem glyphRow_flatMap_span (h : ∀ cell ∈ cells, cell.IsDrawn) :
    GlyphRow (cells.flatMap Cell.span) := by
  induction cells with
  | nil => exact .nil
  | cons cell rest ih =>
    rw [List.forall_mem_cons] at h
    exact .cons h.1 (ih h.2)

/-- A row of whole glyphs starts with no continuation. -/
theorem GlyphRow.not_continuation (h : GlyphRow cells) {cell : Cell}
    (hcell : cells[0]? = some cell) : cell.isContinuation = false := by
  cases h with
  | nil => cases hcell
  | @cons first rest hdrawn hrest =>
    have hfirst : (first.span ++ rest)[0]? = some first := by
      unfold Cell.span
      split_ifs <;> rfl
    rw [hfirst, Option.some.injEq] at hcell
    rw [← hcell]
    exact hdrawn.isContinuation

/-- A row of whole glyphs is linked. -/
theorem GlyphRow.linkedRow (h : GlyphRow cells) : LinkedRow cells := by
  induction h with
  | nil => exact ⟨nofun, nofun, nofun⟩
  | @cons first rest hdrawn hrest ih =>
    rcases hdrawn.width.2 with hnarrow | hwide
    · rw [Cell.span_of_narrow hnarrow]
      refine ⟨?_, ?_, ?_⟩
      · intro k cell hcell hwidth
        match k, hcell with
        | 0, rfl => omega
        | k + 1, hcell => exact ih.wide k cell hcell hwidth
      · intro k cell hcell hcontinuation
        match k, hcell with
        | 0, hcell =>
          rw [hrest.not_continuation hcell] at hcontinuation
          cases hcontinuation
        | k + 1, hcell => exact ih.continuation k cell hcell hcontinuation
      · intro k cell hcell hwhole
        match k, hcell with
        | 0, rfl => exact hdrawn
        | k + 1, hcell => exact ih.drawn k cell hcell hwhole
    · rw [Cell.span_of_wide hwide]
      refine ⟨?_, ?_, ?_⟩
      · intro k cell hcell hwidth
        match k, hcell with
        | 0, rfl => rfl
        | 1, rfl => cases hwidth
        | k + 2, hcell => exact ih.wide k cell hcell hwidth
      · intro k cell hcell hcontinuation
        match k, hcell with
        | 0, _ => exact ⟨first, rfl, hwide⟩
        | 1, hcell =>
          rw [hrest.not_continuation hcell] at hcontinuation
          cases hcontinuation
        | k + 2, hcell => exact ih.continuation k cell hcell hcontinuation
      · intro k cell hcell hwhole
        match k, hcell with
        | 0, rfl => exact hdrawn
        | 1, rfl => cases hwhole
        | k + 2, hcell => exact ih.drawn k cell hcell hwhole

end Runs

/-! ### What a stroke writes -/

/-- The glyphs that a stroke writes into a row of a frame `width` columns wide. -/
def Stroke.glyphs (width : Nat) : Stroke → List Cell
  | .text left _ chars style => fitting width left style chars
  | .span left _ count style =>
    List.replicate (min (left + count) width - left) (Cell.blank.withStyle style)

/-- The columns of these glyphs. -/
def Stroke.stretch (width : Nat) (stroke : Stroke) : Stretch :=
  match stroke with
  | .text left row _ _ | .span left row _ _ => ⟨row, left, left + columns (stroke.glyphs width)⟩

/-- The cell that a stroke puts at a place. -/
def Stroke.cellAt? (width : Nat) (stroke : Stroke) (x y : Nat) : Option Cell :=
  if (stroke.stretch width).Covers x y then
    ((stroke.glyphs width).flatMap Cell.span)[x - (stroke.stretch width).first]?
  else none

section Strokes

variable {frame : Frame} {width x y : Nat}

@[simp]
theorem columns_replicate_blank (count : Nat) (style : Style) :
    columns (List.replicate count (Cell.blank.withStyle style)) = count := by
  induction count with
  | zero => rfl
  | succ count ih =>
    rw [List.replicate_succ, columns, ih, Nat.add_comm]
    rfl

/-- Assumes: columns that can all be told from the limit. No glyph reaches beyond the row. -/
theorem columns_fitting_le_width (hlimit : width < columnLimit) (column : Nat) (style : Style)
    (text : List Char) :
    column + columns (fitting width column style text) ≤ max column width := by
  induction text generalizing column with
  | nil => exact Nat.le_max_left _ _
  | cons c rest ih =>
    by_cases hfull : width < min (column + (Cell.styled c style).width) columnLimit
    · rw [fitting_cons_of_lt hfull]
      exact Nat.le_max_left _ _
    · have hrest := ih (column + (Cell.styled c style).width)
      rw [fitting_cons_of_not_lt hfull, columns]
      omega

theorem Stroke.stop_eq (stroke : Stroke) : (stroke.stretch width).stop =
    (stroke.stretch width).first + columns (stroke.glyphs width) := by
  cases stroke <;> rfl

theorem Stroke.stop_le (hlimit : width < columnLimit) (stroke : Stroke) :
    (stroke.stretch width).stop ≤ max (stroke.stretch width).first width := by
  cases stroke with
  | text left row text style => exact columns_fitting_le_width hlimit left style text
  | span left row count style =>
    change left + columns (List.replicate _ _) ≤ max left width
    rw [columns_replicate_blank]
    omega

theorem Stroke.isDrawn_of_mem_glyphs {stroke : Stroke} :
    ∀ cell ∈ stroke.glyphs width, cell.IsDrawn := by
  intro cell hcell
  cases stroke with
  | text left row text style => exact isDrawn_of_mem_fitting hcell
  | span left row count style =>
    rw [List.eq_of_mem_replicate hcell]
    exact Cell.blank_isDrawn style

theorem Stroke.length_cells (width : Nat) (stroke : Stroke) :
    ((stroke.glyphs width).flatMap Cell.span).length = columns (stroke.glyphs width) :=
  length_flatMap_span Stroke.isDrawn_of_mem_glyphs

theorem Stroke.glyphRow_cells (width : Nat) (stroke : Stroke) :
    GlyphRow ((stroke.glyphs width).flatMap Cell.span) :=
  glyphRow_flatMap_span Stroke.isDrawn_of_mem_glyphs

/-- A stroke puts cells at the places of its stretch. -/
@[simp]
theorem Stroke.isSome_cellAt? {stroke : Stroke} :
    (stroke.cellAt? width x y).isSome ↔ (stroke.stretch width).Covers x y := by
  unfold Stroke.cellAt?
  split_ifs with hcovers
  · refine iff_of_true ?_ hcovers
    obtain ⟨-, hfrom, hto⟩ := hcovers
    rw [Stroke.stop_eq, ← Stroke.length_cells] at hto
    rw [List.getElem?_eq_getElem (by omega)]
    rfl
  · exact iff_of_false (by simp) hcovers

@[simp]
theorem Stroke.cellAt?_eq_none_iff {stroke : Stroke} :
    stroke.cellAt? width x y = none ↔ ¬ (stroke.stretch width).Covers x y := by
  rw [← Stroke.isSome_cellAt?, Option.not_isSome_iff_eq_none]

/-- A place of the stretch by its number of columns from the start. -/
@[grind =]
theorem Stroke.cellAt?_eq_some_iff {stroke : Stroke} {cell : Cell} :
    stroke.cellAt? width x y = some cell ↔
      y = (stroke.stretch width).row ∧ ∃ k, x = (stroke.stretch width).first + k ∧
        ((stroke.glyphs width).flatMap Cell.span)[k]? = some cell := by
  constructor
  · intro h
    obtain ⟨hrow, hfrom, -⟩ := Stroke.isSome_cellAt?.mp (Option.isSome_of_eq_some h)
    unfold Stroke.cellAt? at h
    split_ifs at h
    exact ⟨hrow, x - (stroke.stretch width).first, by omega, h⟩
  · rintro ⟨rfl, k, rfl, hcell⟩
    obtain ⟨hlt, -⟩ := List.getElem?_eq_some_iff.mp hcell
    rw [Stroke.length_cells] at hlt
    unfold Stroke.cellAt?
    rw [if_pos ⟨rfl, Nat.le_add_right _ _, by rw [Stroke.stop_eq]; omega⟩, Nat.add_sub_cancel_left,
      hcell]

/-- A wide glyph is written with its continuation. -/
theorem Stroke.cellAt?_of_wide {stroke : Stroke} {cell : Cell}
    (h : stroke.cellAt? width x y = some cell) (hwide : cell.width = 2) :
    stroke.cellAt? width (x + 1) y = some (.continuation cell.style) := by
  obtain ⟨hrow, k, rfl, hcell⟩ := Stroke.cellAt?_eq_some_iff.mp h
  have hnext := (stroke.glyphRow_cells width).linkedRow.wide k cell hcell hwide
  exact Stroke.cellAt?_eq_some_iff.mpr ⟨hrow, k + 1, rfl, hnext⟩

/-- A continuation is written behind its wide glyph. -/
theorem Stroke.cellAt?_of_continuation {stroke : Stroke} {cell : Cell}
    (h : stroke.cellAt? width x y = some cell) (hcontinuation : cell.isContinuation = true) :
    ∃ left, 0 < x ∧ stroke.cellAt? width (x - 1) y = some left ∧ left.width = 2 := by
  obtain ⟨hrow, k, rfl, hcell⟩ := Stroke.cellAt?_eq_some_iff.mp h
  have hwhole := stroke.glyphRow_cells width
  cases k with
  | zero =>
    rw [hwhole.not_continuation hcell] at hcontinuation
    cases hcontinuation
  | succ k =>
    obtain ⟨left, hleft, hwide⟩ := hwhole.linkedRow.continuation k cell hcell hcontinuation
    exact ⟨left, Nat.succ_pos _, Stroke.cellAt?_eq_some_iff.mpr ⟨hrow, k, rfl, hleft⟩, hwide⟩

/-- Drawing a stroke is writing its glyphs one after the other. -/
theorem Frame.draw_eq_placeAll (frame : Frame) (stroke : Stroke) :
    frame.draw stroke = frame.placeAll (stroke.stretch frame.width).first
      (stroke.stretch frame.width).row (stroke.glyphs frame.width) := by
  cases stroke with
  | text left row text style => rfl
  | span left row count style =>
    change frame.fill left row count style = frame.placeAll left row (List.replicate _ _)
    unfold Frame.fill
    generalize min (left + count) frame.width - left = length
    induction length generalizing frame left with
    | zero => rfl
    | succ length ih => exact ih (frame.set left row (Cell.blank.withStyle style)) (left + 1)

theorem Frame.placeAll_of_not_lt (hy : ¬ y < frame.height) (x : Nat) (cells : List Cell) :
    frame.placeAll x y cells = frame := by
  induction cells generalizing x with
  | nil => rfl
  | cons cell rest ih => rw [Frame.placeAll, Frame.place_of_not_lt hy, ih]

/-- Assumes: glyphs that fit into the row from a column on. Writing them one after the other puts
their cells into their places and changes no others. -/
theorem Frame.get?_placeAll {cells : List Cell} (hdrawn : ∀ cell ∈ cells, cell.IsDrawn)
    (hfits : x + columns cells ≤ max x frame.width) (hy : y < frame.height) (column row : Nat) :
    (frame.placeAll x y cells).get? column row =
      if row = y ∧ x ≤ column ∧ column < x + columns cells then
        (cells.flatMap Cell.span)[column - x]?
      else frame.get? column row := by
  induction cells generalizing frame x with
  | nil =>
    rw [if_neg]
    · rfl
    · rintro ⟨-, hfrom, hto⟩
      exact Nat.not_lt_of_le hfrom hto
  | cons cell rest ih =>
    rw [List.forall_mem_cons] at hdrawn
    have hwidth := hdrawn.1.width.2
    rw [columns] at hfits ⊢
    have hroom : x + cell.width ≤ frame.width := by omega
    have hspan := hdrawn.1.length_span
    rw [Frame.placeAll, ih hdrawn.2 (by rw [Frame.width_place]; omega)
      (by rw [Frame.height_place]; exact hy), Frame.get?_place hdrawn.1 hroom hy,
      List.flatMap_cons]
    by_cases hrow : row = y ∧ x ≤ column
    · obtain ⟨hrow, hfrom⟩ := hrow
      by_cases hfirst : column < x + cell.width
      · rw [if_neg (by omega), if_pos ⟨hrow, hfrom, hfirst⟩, if_pos ⟨hrow, hfrom, by omega⟩,
          List.getElem?_append_left (by omega)]
      · by_cases hrest : column < x + cell.width + columns rest
        · rw [if_pos ⟨hrow, by omega, hrest⟩, if_pos ⟨hrow, hfrom, by omega⟩,
            List.getElem?_append_right (by omega), hspan, Nat.sub_sub]
        · rw [if_neg (by omega), if_neg (by omega), if_neg (by omega)]
    · rw [if_neg (by omega), if_neg (by omega), if_neg (by omega)]

/-- Assumes: a frame whose columns can all be told from the limit. A stroke puts its cells into
their places, and every other place keeps its cell. -/
theorem Frame.get?_draw_eq (hlimit : frame.width < columnLimit) (stroke : Stroke)
    (hy : y < frame.height) :
    (frame.draw stroke).get? x y = (stroke.cellAt? frame.width x y).or (frame.get? x y) := by
  have hinside : (frame.draw stroke).get? x y =
      if (stroke.stretch frame.width).Covers x y then
        ((stroke.glyphs frame.width).flatMap
          Cell.span)[x - (stroke.stretch frame.width).first]?
      else frame.get? x y := by
    rw [Frame.draw_eq_placeAll]
    by_cases hrow : (stroke.stretch frame.width).row < frame.height
    · have hfits := stroke.stop_le hlimit
      rw [Stroke.stop_eq] at hfits
      rw [Frame.get?_placeAll Stroke.isDrawn_of_mem_glyphs hfits hrow, ← Stroke.stop_eq]
      rfl
    · rw [Frame.placeAll_of_not_lt hrow, if_neg]
      exact fun h ↦ hrow (h.1 ▸ hy)
  rw [hinside]
  by_cases hcovers : (stroke.stretch frame.width).Covers x y
  · obtain ⟨cell, hcell⟩ := Option.isSome_iff_exists.mp (Stroke.isSome_cellAt?.mpr hcovers)
    rw [if_pos hcovers, hcell, Option.some_or, ← hcell, Stroke.cellAt?, if_pos hcovers]
  · rw [if_neg hcovers, Stroke.cellAt?_eq_none_iff.mpr hcovers, Option.none_or]

end Strokes

/-! ### Torn glyphs -/

/-- Wide cells and continuations of a frame go together. -/
structure Frame.Paired (frame : Frame) : Prop where
  /-- A wide cell is directly followed by a continuation. -/
  wide : ∀ x y cell, frame.get? x y = some cell → cell.width = 2 →
    ∃ right, frame.get? (x + 1) y = some right ∧ right.isContinuation = true
  /-- A continuation directly follows a wide cell. -/
  continuation : ∀ x y cell, frame.get? x y = some cell → cell.isContinuation = true →
    ∃ left, 0 < x ∧ frame.get? (x - 1) y = some left ∧ left.width = 2

theorem Frame.WellPaired.paired {frame : Frame} (h : frame.WellPaired) : frame.Paired where
  wide x y cell hcell hwide := ⟨_, h.wide x y cell hcell hwide, rfl⟩
  continuation := h.continuation

/-- The stroke tears no wide glyph of a frame. -/
def Stroke.Spares (stroke : Stroke) (frame : Frame) : Prop :=
  ∀ x y cell, frame.get? x y = some cell → cell.width = 2 →
    ¬ (stroke.stretch frame.width).Tears ⟨y, x, x + 2⟩

section Torn

variable {frame : Frame} {stroke : Stroke} {x y : Nat} {cell : Cell}

theorem Stroke.Spares.covers_iff (h : stroke.Spares frame) (hcell : frame.get? x y = some cell)
    (hwide : cell.width = 2) :
    (stroke.stretch frame.width).Covers x y ↔ (stroke.stretch frame.width).Covers (x + 1) y :=
  not_not.mp (mt Stretch.tears_pair_iff.mpr (h x y cell hcell hwide))

/-- A cell of a drawn frame was put there, or stood there and was not covered. -/
theorem Frame.get?_draw_eq_some (hlimit : frame.width < columnLimit)
    (h : (frame.draw stroke).get? x y = some cell) :
    stroke.cellAt? frame.width x y = some cell ∨
      ¬ (stroke.stretch frame.width).Covers x y ∧ frame.get? x y = some cell := by
  have hy := (Frame.lt_of_get? h).2
  rw [(frame.size_draw stroke).2] at hy
  rw [Frame.get?_draw_eq hlimit stroke hy, Option.or_eq_some_iff] at h
  rwa [Stroke.cellAt?_eq_none_iff] at h

/-- What is put at a place of a frame stands there. -/
theorem Frame.get?_draw_of_cellAt? (hlimit : frame.width < columnLimit) (hy : y < frame.height)
    (h : stroke.cellAt? frame.width x y = some cell) :
    (frame.draw stroke).get? x y = some cell := by
  rw [Frame.get?_draw_eq hlimit stroke hy, h, Option.some_or]

/-- What is not covered stays. -/
theorem Frame.get?_draw_of_not_covers (hlimit : frame.width < columnLimit)
    (hcell : frame.get? x y = some cell) (h : ¬ (stroke.stretch frame.width).Covers x y) :
    (frame.draw stroke).get? x y = some cell := by
  rw [Frame.get?_draw_eq hlimit stroke (Frame.lt_of_get? hcell).2,
    Stroke.cellAt?_eq_none_iff.mpr h, Option.none_or, hcell]

/-- A stroke that tears no wide glyph leaves wide cells and continuations together. -/
theorem Frame.Paired.draw (hpaired : frame.Paired) (hlimit : frame.width < columnLimit)
    (hspares : stroke.Spares frame) : (frame.draw stroke).Paired := by
  have hrow {x y : Nat} {cell : Cell} (hcell : (frame.draw stroke).get? x y = some cell) :
      y < frame.height := by
    rw [← (frame.size_draw stroke).2]
    exact (Frame.lt_of_get? hcell).2
  constructor
  · intro x y cell hcell hwide
    rcases Frame.get?_draw_eq_some hlimit hcell with hput | ⟨hkept, hold⟩
    · have hnext := Stroke.cellAt?_of_wide hput hwide
      exact ⟨_, Frame.get?_draw_of_cellAt? hlimit (hrow hcell) hnext, rfl⟩
    · obtain ⟨right, hright, hcontinuation⟩ := hpaired.wide x y cell hold hwide
      have hother := mt (hspares.covers_iff hold hwide).mpr hkept
      exact ⟨right, Frame.get?_draw_of_not_covers hlimit hright hother, hcontinuation⟩
  · intro x y cell hcell hcontinuation
    rcases Frame.get?_draw_eq_some hlimit hcell with hput | ⟨hkept, hold⟩
    · obtain ⟨left, hpositive, hleft, hwide⟩ := Stroke.cellAt?_of_continuation hput hcontinuation
      exact ⟨left, hpositive, Frame.get?_draw_of_cellAt? hlimit (hrow hcell) hleft, hwide⟩
    · obtain ⟨left, hpositive, hleft, hwide⟩ := hpaired.continuation x y cell hold hcontinuation
      have hboth := hspares.covers_iff hleft hwide
      rw [Nat.sub_add_cancel hpositive] at hboth
      exact ⟨left, hpositive, Frame.get?_draw_of_not_covers hlimit hleft (mt hboth.mp hkept), hwide⟩

/-- A stroke that tears a wide glyph leaves one half of it without the other. -/
theorem Frame.Paired.spares (hpaired : frame.Paired) (hlimit : frame.width < columnLimit)
    (hdrawn : (frame.draw stroke).Paired) : stroke.Spares frame := by
  intro x y cell hcell hwide htears
  obtain ⟨right, hright, hcontinuation⟩ := hpaired.wide x y cell hcell hwide
  refine Stretch.tears_pair_iff.mp htears ⟨fun hfirst ↦ ?_, fun hsecond ↦ ?_⟩
  · by_contra hkept
    -- The continuation is left, and what was put in front of it is not wide.
    obtain ⟨left, -, hleft, hleftWide⟩ := hdrawn.continuation (x + 1) y right
      (Frame.get?_draw_of_not_covers hlimit hright hkept) hcontinuation
    rcases Frame.get?_draw_eq_some hlimit hleft with hput | ⟨hother, -⟩
    · have hnext := Stroke.cellAt?_of_wide hput hleftWide
      exact hkept (Stroke.isSome_cellAt?.mp (Option.isSome_of_eq_some hnext))
    · exact hother hfirst
  · by_contra hkept
    -- The wide cell is left, and what was put behind it is no continuation.
    obtain ⟨next, hnext, hnextContinuation⟩ := hdrawn.wide x y cell
      (Frame.get?_draw_of_not_covers hlimit hcell hkept) hwide
    rcases Frame.get?_draw_eq_some hlimit hnext with hput | ⟨hother, -⟩
    · obtain ⟨left, -, hleft, -⟩ := Stroke.cellAt?_of_continuation hput hnextContinuation
      exact hkept (Stroke.isSome_cellAt?.mp (Option.isSome_of_eq_some hleft))
    · exact hother hsecond

/-- Assumes: a frame whose columns can all be told from the limit, in which wide cells and
continuations go together. They do so after each of any strokes where, and only where, no stroke
tears a wide glyph of the frame it is drawn into. -/
theorem Frame.stays_paired_iff (hlimit : frame.width < columnLimit) (hpaired : frame.Paired)
    (strokes : List Stroke) :
    (∀ before, before <+: strokes → (frame.drawAll before).Paired) ↔
      ∀ before stroke, before ++ [stroke] <+: strokes → stroke.Spares (frame.drawAll before) := by
  have hwidth (before : List Stroke) : (frame.drawAll before).width < columnLimit := by
    rwa [(frame.size_drawAll before).1]
  have hlast (before : List Stroke) (stroke : Stroke) :
      frame.drawAll (before ++ [stroke]) = (frame.drawAll before).draw stroke := List.foldl_append
  constructor
  · intro h before stroke hprefix
    have hafter := h _ hprefix
    rw [hlast] at hafter
    exact (h before ((List.prefix_append before [stroke]).trans hprefix)).spares (hwidth before)
      hafter
  · intro h before hprefix
    induction before using List.reverseRecOn with
    | nil => exact hpaired
    | append_singleton before stroke ih =>
      have hearlier := ih ((List.prefix_append before [stroke]).trans hprefix)
      rw [hlast]
      exact hearlier.draw (hwidth before) (h before stroke hprefix)

end Torn

/-- A wide glyph at the start of a row of three columns. -/
def wideStart : Frame := (Frame.blank 3 1).put 0 0 ['日'] .plain

theorem paired_wideStart : wideStart.Paired :=
  (Frame.writes_put (by decide) (Frame.wellPaired_blank 3 1) (Frame.openFrom_blank 3 1 0 0) ['日']
    .plain).paired.paired

/-- The glyph is written over as a whole. -/
theorem Frame.stays_paired_iff_rewritten :
    wideStart.width < columnLimit ∧ wideStart.Paired ∧
      ∀ before, before <+: [Stroke.text 0 0 ['本', 'a'] Style.plain.bold] →
        (wideStart.drawAll before).Paired := by
  have hlimit : wideStart.width < columnLimit := by decide +kernel
  refine ⟨hlimit, paired_wideStart, ?_⟩
  refine (Frame.stays_paired_iff hlimit paired_wideStart _).mpr ?_
  intro before stroke hprefix
  obtain ⟨rfl, rfl⟩ : before = [] ∧ stroke = .text 0 0 ['本', 'a'] Style.plain.bold := by
    have hlength := hprefix.length_le
    rw [List.length_append, List.length_singleton, List.length_singleton] at hlength
    obtain rfl := List.eq_nil_of_length_eq_zero (by omega : before.length = 0)
    exact ⟨rfl, (List.cons_prefix_cons.mp hprefix).1⟩
  have hsize : wideStart.width = 3 ∧ wideStart.height = 1 := by decide +kernel
  have hall : ∀ column : Fin 3, (wideStart.get? column 0).any (·.width = 2) = true →
      (((Stroke.text 0 0 ['本', 'a'] Style.plain.bold).stretch 3).Covers column 0 ↔
        ((Stroke.text 0 0 ['本', 'a'] Style.plain.bold).stretch 3).Covers (column + 1) 0) := by
    decide +kernel
  intro x y cell hcell hwide
  rw [Frame.drawAll, List.foldl_nil] at hcell ⊢
  obtain ⟨hx, hy⟩ := Frame.lt_of_get? hcell
  rw [hsize.1] at hx ⊢
  rw [hsize.2] at hy
  obtain rfl : y = 0 := by omega
  rw [Stretch.tears_pair_iff, not_not]
  refine hall ⟨x, hx⟩ ?_
  rw [hcell]
  simpa using hwide

/-- A text that begins on the right half of a wide glyph leaves the left half, and a span that ends
on the left half leaves the right one. -/
theorem Frame.half_left_behind :
    wideStart.width < columnLimit ∧ wideStart.Paired ∧
      ¬ (wideStart.put 1 0 ['a'] .plain).Paired ∧ ¬ (wideStart.fill 0 0 1 .plain).Paired := by
  refine ⟨by decide +kernel, paired_wideStart, ?_, ?_⟩
  · intro h
    have hleft : (wideStart.put 1 0 ['a'] .plain).get? 0 0 = some ⟨'日', 2, .plain⟩ := by
      decide +kernel
    have hright : (wideStart.put 1 0 ['a'] .plain).get? 1 0 = some ⟨'a', 1, .plain⟩ := by
      decide +kernel
    obtain ⟨right, hnext, hcontinuation⟩ := h.wide 0 0 _ hleft rfl
    rw [hright] at hnext
    cases hnext
    cases hcontinuation
  · intro h
    have hleft : (wideStart.fill 0 0 1 .plain).get? 0 0 = some .blank := by decide +kernel
    have hright : (wideStart.fill 0 0 1 .plain).get? 1 0 = some (.continuation .plain) := by
      decide +kernel
    obtain ⟨left, -, hbefore, hwide⟩ := h.continuation 1 0 _ hright rfl
    rw [hleft] at hbefore
    cases hbefore
    cases hwide

end LiveBoard.Screen
