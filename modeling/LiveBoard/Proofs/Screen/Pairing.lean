import LiveBoard.Proofs.Screen.PenAgreement

/-!
# Well-paired frames

`Frame.get?` is the view of a frame: the stored cells are its rows one after the other
(`toList_cells`), and a row holds the cells at its columns (`getElem?_rowCells`).

A frame is well paired (`Frame.WellPaired`) when on every row each wide cell is directly followed
by a continuation in its style, each continuation directly follows a wide cell, and all other
cells were made from characters. What that says of a row from some column on is a `LinkedRow`.
Read from the left, a row is a sequence of glyphs, the wide ones with their continuations
(`GlyphRow`, `WellPaired.glyphRow`), and drawings are reasoned about glyph by glyph.
-/

set_option autoImplicit false
set_option relaxedAutoImplicit false

namespace LiveBoard.Screen

/-! ### Frames by rows and columns -/

section Rows

variable {frame : Frame} {x y : Nat}

theorem index_lt_size (hx : x < frame.width) (hy : y < frame.height) :
    y * frame.width + x < frame.cells.size := by
  rw [frame.size_eq, Nat.mul_comm frame.width]
  calc y * frame.width + x < y * frame.width + frame.width := by omega
    _ = (y + 1) * frame.width := by rw [Nat.succ_mul]
    _ ≤ frame.height * frame.width := Nat.mul_le_mul_right _ hy

theorem Frame.get?_eq (hx : x < frame.width) (hy : y < frame.height) :
    frame.get? x y = frame.cells[y * frame.width + x]? := by
  unfold Frame.get? Frame.indexOf?
  rw [if_pos ⟨hx, hy⟩]
  rfl

theorem Frame.get?_eq_none (h : ¬ (x < frame.width ∧ y < frame.height)) :
    frame.get? x y = none := by
  unfold Frame.get? Frame.indexOf?
  rw [if_neg h]
  rfl

/-- There is a cell exactly where there is a row and a column. -/
@[simp]
theorem Frame.isSome_get? : (frame.get? x y).isSome ↔ x < frame.width ∧ y < frame.height := by
  constructor
  · intro hsome
    by_contra hout
    rw [Frame.get?_eq_none hout] at hsome
    cases hsome
  · rintro ⟨hx, hy⟩
    rw [Frame.get?_eq hx hy, Array.getElem?_eq_getElem (index_lt_size hx hy)]
    rfl

theorem Frame.lt_of_get? {cell : Cell} (h : frame.get? x y = some cell) :
    x < frame.width ∧ y < frame.height :=
  Frame.isSome_get?.mp (by rw [h]; rfl)

theorem row_end_le_size (hy : y < frame.height) : (y + 1) * frame.width ≤ frame.cells.size := by
  rw [frame.size_eq, Nat.mul_comm frame.width]
  exact Nat.mul_le_mul_right _ hy

@[simp]
theorem Frame.length_rowCells (hy : y < frame.height) :
    (frame.rowCells y).length = frame.width := by
  have hend := row_end_le_size hy
  unfold Frame.rowCells
  rw [Array.length_toList, Array.size_extract, Nat.min_eq_left hend, Nat.succ_mul]
  omega

/-- A row holds the cells at its columns. -/
@[simp]
theorem Frame.getElem?_rowCells (hy : y < frame.height) :
    (frame.rowCells y)[x]? = frame.get? x y := by
  by_cases hx : x < frame.width
  · have hend := row_end_le_size hy
    have hin : x < min ((y + 1) * frame.width) frame.cells.size - y * frame.width := by
      rw [Nat.min_eq_left hend, Nat.succ_mul]
      omega
    rw [Frame.get?_eq hx hy, Frame.rowCells, Array.getElem?_toList, Array.getElem?_extract,
      if_pos hin]
  · rw [Frame.get?_eq_none fun h ↦ hx h.1]
    exact List.getElem?_eq_none (by rw [Frame.length_rowCells hy]; omega)

/-- The first cells of a frame are its first rows one after the other. -/
theorem Frame.flatMap_rowCells (frame : Frame) (count : Nat) (hcount : count ≤ frame.height) :
    (List.range count).flatMap frame.rowCells =
      (frame.cells.extract 0 (count * frame.width)).toList := by
  induction count with
  | zero => simp
  | succ count ih =>
    have hjoin : frame.cells.extract 0 (count * frame.width) ++
        frame.cells.extract (count * frame.width) ((count + 1) * frame.width) =
        frame.cells.extract 0 ((count + 1) * frame.width) := by
      rw [Array.extract_append_extract, Nat.zero_min, Nat.max_eq_right]
      exact Nat.mul_le_mul_right _ (Nat.le_succ count)
    rw [List.range_succ, List.flatMap_append, ih (by omega), ← hjoin, Array.toList_append]
    simp [Frame.rowCells]

theorem Frame.length_flatMap_rowCells (frame : Frame) {count : Nat}
    (hcount : count ≤ frame.height) :
    ((List.range count).flatMap frame.rowCells).length = count * frame.width := by
  rw [frame.flatMap_rowCells count hcount, Array.length_toList, Array.size_extract, frame.size_eq,
    Nat.mul_comm frame.width, Nat.min_eq_left (Nat.mul_le_mul_right _ hcount), Nat.sub_zero]

/-- The cells of a frame are its rows one after the other. -/
theorem Frame.toList_cells (frame : Frame) :
    frame.cells.toList = (List.range frame.height).flatMap frame.rowCells := by
  rw [frame.flatMap_rowCells frame.height (Nat.le_refl _), Nat.mul_comm, ← frame.size_eq,
    Array.extract_size]

end Rows

/-! ### Pairs of halves -/

/-- Every wide glyph of a frame has its two halves, and there are no others. -/
structure Frame.WellPaired (frame : Frame) : Prop where
  /-- A wide cell is directly followed by a continuation in its style. -/
  wide : ∀ x y cell, frame.get? x y = some cell → cell.width = 2 →
    frame.get? (x + 1) y = some (.continuation cell.style)
  /-- A continuation directly follows a wide cell. -/
  continuation : ∀ x y cell, frame.get? x y = some cell → cell.isContinuation = true →
    ∃ left, 0 < x ∧ frame.get? (x - 1) y = some left ∧ left.width = 2
  /-- All other cells were made from characters. -/
  drawn : ∀ x y cell, frame.get? x y = some cell → cell.isContinuation = false → cell.IsDrawn

/-- A well-paired frame of a size. -/
structure Frame.PairedOfSize (frame : Frame) (width height : Nat) : Prop where
  /-- Every wide glyph has its two halves, and there are no others. -/
  paired : frame.WellPaired
  /-- The width. -/
  width : frame.width = width
  /-- The height. -/
  height : frame.height = height

/-- The cells that a glyph takes in a row: a wide one is followed by its continuation. -/
def Cell.span (cell : Cell) : List Cell :=
  if cell.width = 2 then [cell, .continuation cell.style] else [cell]

@[simp]
theorem Cell.span_of_wide {cell : Cell} (hwide : cell.width = 2) :
    cell.span = [cell, .continuation cell.style] := if_pos hwide

@[simp]
theorem Cell.span_of_narrow {cell : Cell} (hnarrow : cell.width = 1) : cell.span = [cell] :=
  if_neg (by omega)

theorem Cell.IsDrawn.length_span {cell : Cell} (h : cell.IsDrawn) :
    cell.span.length = cell.width := by
  rcases h.width.2 with hnarrow | hwide
  · rw [Cell.span_of_narrow hnarrow, hnarrow]
    rfl
  · rw [Cell.span_of_wide hwide, hwide]
    rfl

theorem Cell.IsDrawn.isContinuation {cell : Cell} (h : cell.IsDrawn) :
    cell.isContinuation = false := by
  have hwidth := h.width.2
  rw [Cell.isContinuation, beq_eq_false_iff_ne]
  omega

/-- A row of whole glyphs. -/
inductive GlyphRow : List Cell → Prop
  /-- The end of the row. -/
  | nil : GlyphRow []
  /-- A glyph and its continuation, if it is wide. -/
  | cons {cell : Cell} {rest : List Cell} (hdrawn : cell.IsDrawn) (hrest : GlyphRow rest) :
    GlyphRow (cell.span ++ rest)

/-- The pairing of a row from some column on, where the first cell may continue the one before. -/
structure LinkedRow (cells : List Cell) : Prop where
  /-- A wide cell is directly followed by a continuation in its style. -/
  wide : ∀ (k : Nat) (cell : Cell), cells[k]? = some cell → cell.width = 2 →
    cells[k + 1]? = some (.continuation cell.style)
  /-- A continuation after the first cell directly follows a wide cell. -/
  continuation : ∀ (k : Nat) (cell : Cell), cells[k + 1]? = some cell →
    cell.isContinuation = true → ∃ left, cells[k]? = some left ∧ left.width = 2
  /-- All other cells were made from characters. -/
  drawn : ∀ (k : Nat) (cell : Cell), cells[k]? = some cell → cell.isContinuation = false →
    cell.IsDrawn

theorem LinkedRow.drop {cells : List Cell} (h : LinkedRow cells) (count : Nat) :
    LinkedRow (cells.drop count) where
  wide k cell hcell hwide := by
    rw [List.getElem?_drop] at hcell ⊢
    exact h.wide (count + k) cell hcell hwide
  continuation k cell hcell hcontinuation := by
    rw [List.getElem?_drop] at hcell ⊢
    exact h.continuation (count + k) cell hcell hcontinuation
  drawn k cell hcell hwhole := by
    rw [List.getElem?_drop] at hcell
    exact h.drawn (count + k) cell hcell hwhole

/-- A continuation does not follow a cell that is not wide. -/
theorem LinkedRow.not_continuation {cells : List Cell} (h : LinkedRow cells) {k : Nat}
    {left cell : Cell} (hleft : cells[k]? = some left) (hnarrow : left.width ≠ 2)
    (hcell : cells[k + 1]? = some cell) : cell.isContinuation = false := by
  by_contra hcontinuation
  obtain ⟨other, hother, hwide⟩ := h.continuation k cell hcell (by simpa using hcontinuation)
  rw [hleft] at hother
  cases hother
  exact hnarrow hwide

/-- Assumes: a linked row whose first cell is no continuation. It consists of whole glyphs. -/
theorem LinkedRow.glyphRow (cells : List Cell) (h : LinkedRow cells)
    (hhead : ∀ cell, cells[0]? = some cell → cell.isContinuation = false) : GlyphRow cells := by
  -- Glyphs take one or two cells, so the induction is on the length.
  induction hlength : cells.length using Nat.strongRecOn generalizing cells with
  | _ length ih =>
    cases cells with
    | nil => exact .nil
    | cons cell rest =>
      have hdrawn : cell.IsDrawn := h.drawn 0 cell rfl (hhead cell rfl)
      rcases hdrawn.width.2 with hnarrow | hwide
      · have hrest : GlyphRow rest := by
          refine ih rest.length (by simp [← hlength]) rest (h.drop 1) ?_ rfl
          intro next hnext
          exact h.not_continuation rfl (by omega) hnext
        have hrow := GlyphRow.cons hdrawn hrest
        rwa [Cell.span_of_narrow hnarrow] at hrow
      · have hnext := h.wide 0 cell rfl hwide
        cases rest with
        | nil => cases hnext
        | cons next rest =>
          cases hnext
          have hshorter : rest.length < length := by
            rw [← hlength, List.length_cons, List.length_cons]
            omega
          have hrest : GlyphRow rest := by
            refine ih rest.length hshorter rest (h.drop 2) ?_ rfl
            intro next hnext
            exact (h.drop 1).not_continuation rfl (Nat.zero_ne_add_one 1) hnext
          have hrow := GlyphRow.cons hdrawn hrest
          rwa [Cell.span_of_wide hwide] at hrow

section WellPaired

variable {frame : Frame} {y : Nat}

/-- The rows of a well-paired frame are linked. -/
theorem Frame.WellPaired.linkedRow (h : frame.WellPaired) (hy : y < frame.height) :
    LinkedRow (frame.rowCells y) := by
  refine ⟨?_, ?_, ?_⟩
  · intro k cell hcell hwide
    rw [Frame.getElem?_rowCells hy] at hcell ⊢
    exact h.wide k y cell hcell hwide
  · intro k cell hcell hcontinuation
    rw [Frame.getElem?_rowCells hy] at hcell
    obtain ⟨left, -, hleft, hwide⟩ := h.continuation (k + 1) y cell hcell hcontinuation
    exact ⟨left, by rw [Frame.getElem?_rowCells hy]; exact hleft, hwide⟩
  · intro k cell hcell
    rw [Frame.getElem?_rowCells hy] at hcell
    exact h.drawn k y cell hcell

/-- The rows of a well-paired frame consist of whole glyphs. -/
theorem Frame.WellPaired.glyphRow (h : frame.WellPaired) (hy : y < frame.height) :
    GlyphRow (frame.rowCells y) := by
  refine LinkedRow.glyphRow _ (h.linkedRow hy) ?_
  intro cell hcell
  rw [Frame.getElem?_rowCells hy] at hcell
  by_contra hcontinuation
  obtain ⟨left, hzero, -, -⟩ := h.continuation 0 y cell hcell (by simpa using hcontinuation)
  omega

end WellPaired

end LiveBoard.Screen
