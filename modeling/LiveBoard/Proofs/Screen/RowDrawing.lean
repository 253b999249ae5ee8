import LiveBoard.Proofs.Screen.Pairing
import LiveBoard.Proofs.Screen.PenAgreement

/-!
# Drawing a row

`Drawing.Draws` says that a drawing goes on to put cells into a row from a column on and leaves
the columns before them and the other rows alone; stretches of a row are joined by `Draws.append`.
One glyph is drawn by `draws_write`, where no wide glyph may begin directly before its column, and
a whole row by induction on its glyphs: by `repaintCells_draws` on a line that shows anything, and
by `compareCells_draws` on one that shows the row of another frame.

The difference of two rows skips the cells in which they agree, so these must still stand on the
line when the scan comes to them. The invariant is `Line.Keeps`: from the column of the scan on,
the line shows the old row, of which only a leading continuation may be lost, as its wide glyph
may have been overwritten.
-/

set_option autoImplicit false
set_option relaxedAutoImplicit false

namespace LiveBoard.Screen

/-! ### Stretches of a row -/

/-- A drawing goes on from `before` to `after` by drawing cells into row `y` from column `x` on,
with marks that fit into a frame of a size. -/
structure Drawing.Draws (terminal : Terminal) (width height : Nat) (before after : Drawing)
    (x y : Nat) (cells : List Cell) : Prop where
  /-- The cells are shown. -/
  shown : ∀ (k : Nat) (cell : Cell), cells[k]? = some cell →
    (after.on terminal).lines y (x + k) = cell.look
  /-- The columns before them show what they did. -/
  left : ∀ column < x,
    (after.on terminal).lines y column = (before.on terminal).lines y column
  /-- The other rows show what they did. -/
  others : ∀ row ≠ y, (after.on terminal).lines row = (before.on terminal).lines row
  /-- The marks fit. -/
  adds : before.Adds width height after

section Draws

variable {terminal : Terminal} {width height : Nat} {before middle after : Drawing} {x y : Nat}

/-- Marks that show nothing draw no cells. -/
theorem Drawing.Draws.nil (hlines : (after.on terminal).lines = (before.on terminal).lines)
    (hadds : before.Adds width height after) :
    Drawing.Draws terminal width height before after x y [] where
  shown k cell hcell := by cases hcell
  left _ _ := by rw [hlines]
  others _ _ := by rw [hlines]
  adds := hadds

/-- Stretches of a row are drawn one after the other. -/
theorem Drawing.Draws.append {first second : List Cell}
    (hfirst : Drawing.Draws terminal width height before middle x y first)
    (hsecond : Drawing.Draws terminal width height middle after (x + first.length) y second) :
    Drawing.Draws terminal width height before after x y (first ++ second) where
  shown k cell hcell := by
    by_cases hk : k < first.length
    · rw [List.getElem?_append_left hk] at hcell
      rw [hsecond.left (x + k) (by omega), hfirst.shown k cell hcell]
    · rw [List.getElem?_append_right (by omega)] at hcell
      have hshown := hsecond.shown _ cell hcell
      have hplace : x + first.length + (k - first.length) = x + k := by omega
      rwa [hplace] at hshown
  left column hcolumn := by
    rw [hsecond.left column (by omega), hfirst.left column hcolumn]
  others row hrow := by rw [hsecond.others row hrow, hfirst.others row hrow]
  adds := hfirst.adds.trans hsecond.adds

/-- After a glyph no wide glyph begins in the column before the next one. -/
theorem Drawing.Draws.breaksAt {cell : Cell} (hdrawn : cell.IsDrawn)
    (h : Drawing.Draws terminal width height before after x y cell.span) :
    ((after.on terminal).lines y).breaksAt (x + cell.width) := by
  intro column hcolumn
  rcases hdrawn.width.2 with hnarrow | hwide
  · rw [Cell.span_of_narrow hnarrow] at h
    have hlast : column = x + 0 := by omega
    rw [hlast, h.shown 0 cell rfl]
    change cell.width ≠ 2
    omega
  · rw [Cell.span_of_wide hwide] at h
    have hlast : column = x + 1 := by omega
    rw [hlast, h.shown 1 (.continuation cell.style) rfl]
    exact Nat.zero_ne_add_one 1

/-- Assumes: no wide glyph begins directly before the column of the cursor. Writing the look of a
cell there draws the cell, and its continuation if it is wide. -/
theorem Drawing.draws_write {cell : Cell} {attributes : Attributes} (hdrawn : cell.IsDrawn)
    (hbreak : ((before.on terminal).lines y).breaksAt x) (hadds : before.Adds width height after)
    (hon : after.on terminal =
      { before.on terminal with column := x, row := y, attributes := attributes }.write cell.look) :
    Drawing.Draws terminal width height before after x y cell.span where
  shown k other hother := by
    rw [hon]
    refine (congrFun (Terminal.write_line _ cell.look) (x + k)).trans ?_
    rcases hdrawn.width.2 with hnarrow | hwide
    · rw [Cell.span_of_narrow hnarrow] at hother
      match k, hother with
      | 0, rfl => exact Line.print_self
    · rw [Cell.span_of_wide hwide] at hother
      match k, hother with
      | 0, rfl => exact Line.print_self
      | 1, rfl => exact Line.print_rightHalf hwide
  left column hcolumn := by
    rw [hon]
    refine (congrFun (Terminal.write_line _ cell.look) column).trans ?_
    exact Line.print_before (hbreak column) hcolumn
  others row hrow := by
    rw [hon]
    exact Terminal.write_line_of_ne _ cell.look hrow
  adds := hadds

end Draws

/-! ### Repainting a row -/

section Repaint

variable {terminal : Terminal} {width height : Nat} {drawing : Drawing} {x y : Nat}

theorem Drawing.repaintCell_of_isDrawn (drawing : Drawing) {cell : Cell} (hdrawn : cell.IsDrawn) :
    drawing.repaintCell cell = drawing.print cell := by
  unfold Drawing.repaintCell
  rw [hdrawn.isContinuation]
  rfl

@[simp]
theorem Drawing.repaintCell_continuation (drawing : Drawing) (style : Style) :
    drawing.repaintCell (.continuation style) = drawing := rfl

/-- The cells of a glyph are repainted by printing it. -/
theorem Drawing.foldl_repaintCell_span (drawing : Drawing) {cell : Cell} (hdrawn : cell.IsDrawn) :
    cell.span.foldl Drawing.repaintCell drawing = drawing.print cell := by
  rcases hdrawn.width.2 with hnarrow | hwide
  · rw [Cell.span_of_narrow hnarrow]
    exact drawing.repaintCell_of_isDrawn hdrawn
  · rw [Cell.span_of_wide hwide, List.foldl_cons, drawing.repaintCell_of_isDrawn hdrawn]
    exact Drawing.repaintCell_continuation _ cell.style

/-- Assumes: the cursor stands where no wide glyph begins directly before it, and what the pen knows
of the style is in force. The rest of the row is repainted, and the pen stays right. -/
theorem Drawing.repaintCells_draws {cells : List Cell} (hcells : GlyphRow cells)
    (hplace : (drawing.on terminal).column = x ∧ (drawing.on terminal).row = y)
    (hroom : x + cells.length ≤ terminal.device.columns)
    (hbreak : ((drawing.on terminal).lines y).breaksAt x)
    (hstyle : drawing.pen.KnowsStyle (drawing.on terminal).attributes) :
    Drawing.Draws terminal width height drawing (cells.foldl Drawing.repaintCell drawing) x y
        cells ∧
      (cells.foldl Drawing.repaintCell drawing).pen.KnowsStyle
        ((cells.foldl Drawing.repaintCell drawing).on terminal).attributes := by
  induction hcells generalizing x drawing with
  | nil => exact ⟨.nil rfl (.refl rfl), hstyle⟩
  | @cons cell rest hdrawn _ ih =>
    obtain ⟨hcolumn, hrow⟩ := hplace
    have hlength := hdrawn.length_span
    rw [List.length_append, hlength] at hroom
    have hon : (drawing.print cell).on terminal = { drawing.on terminal with
        column := x, row := y, attributes := cell.style.attributes }.write cell.look := by
      have hfits : (drawing.on terminal).column + cell.width ≤
          (drawing.on terminal).device.columns := by
        rw [hcolumn, Drawing.on, Terminal.obeyAll_device]
        omega
      rw [Drawing.on_print hdrawn hstyle hfits, ← hcolumn, ← hrow]
    have hglyph : Drawing.Draws terminal width height drawing (drawing.print cell) x y cell.span :=
      Drawing.draws_write hdrawn hbreak (drawing.adds_print hdrawn) hon
    have hnext : (drawing.print cell).pen.KnowsStyle cell.style.attributes :=
      Drawing.print_knowsStyle hstyle
    rw [List.foldl_append, drawing.foldl_repaintCell_span hdrawn]
    have hrest := ih ⟨by rw [hon]; rfl, by rw [hon]; rfl⟩ (by omega) (hglyph.breaksAt hdrawn)
      (by rw [hon]; exact hnext)
    rw [← hlength] at hrest
    exact ⟨hglyph.append hrest.1, hrest.2⟩

end Repaint

/-! ### The difference of two rows -/

/-- From a column on a line shows cells, of which the first may be lost if it continues the glyph
before it. -/
def Line.Keeps (line : Line) (x : Nat) (cells : List Cell) : Prop :=
  ∀ (k : Nat) (cell : Cell), cells[k]? = some cell → 0 < k ∨ cell.width ≠ 0 →
    line (x + k) = cell.look

theorem Line.Keeps.drop {line : Line} {x : Nat} {cells : List Cell} (h : line.Keeps x cells)
    {count : Nat} (hcount : 0 < count) : line.Keeps (x + count) (cells.drop count) := by
  intro k cell hcell _
  rw [List.getElem?_drop] at hcell
  rw [Nat.add_assoc]
  exact h (count + k) cell hcell (Or.inl (by omega))

/-- Printing keeps what follows the glyph. -/
theorem Line.Keeps.print {remnant : Attributes → Attributes} {line : Line} {x : Nat} {look : Look}
    {cells : List Cell} (h : line.Keeps x cells) (hwidth : look.width = 1 ∨ look.width = 2) :
    (line.print remnant x look).Keeps (x + look.width) (cells.drop look.width) := by
  have hpositive : 0 < look.width := by omega
  intro k cell hcell hcontinues
  have hkept := h.drop hpositive k cell hcell hcontinues
  rw [Line.print_after hwidth (by omega) ?_, hkept]
  intro hplace
  rw [hkept]
  change cell.width ≠ 0
  exact hcontinues.resolve_left (by omega)

section Compare

variable {terminal : Terminal} {width height : Nat} {drawing : Drawing} {x y : Nat}
  {cell : Cell}

/-- A frame of a size fits on the screen, and its columns can be counted. -/
structure Device.Holds (device : Device) (width height : Nat) : Prop where
  /-- There are columns enough. -/
  columns : width ≤ device.columns
  /-- There are rows enough. -/
  rows : height ≤ device.rows
  /-- The columns can be counted. -/
  limit : width ≤ columnLimit

/-- Drawing a cell that differs writes its look at its place, and the pen stays right. -/
theorem Drawing.change_on (hholds : terminal.device.Holds width height) (hdrawn : cell.IsDrawn)
    (hx : x + cell.width ≤ width) (hy : y < height)
    (hagrees : drawing.pen.Agrees width height (drawing.on terminal)) :
    (drawing.change x y cell).on terminal = { drawing.on terminal with
        column := x, row := y, attributes := cell.style.attributes }.write cell.look ∧
      (drawing.change x y cell).pen.Agrees width height
        ((drawing.change x y cell).on terminal) := by
  set counted : Drawing := { drawing with cells := drawing.cells + 1 }
  have hwidth := hdrawn.width.2
  have hdevice : (counted.on terminal).device = terminal.device := Terminal.obeyAll_device ..
  have hmoved : (counted.moveTo x y).on terminal =
      { drawing.on terminal with column := x, row := y } :=
    Drawing.on_moveTo (fun hknown ↦ hagrees.cursor x y hknown (show x < width by omega) hy)
      (show x < width by omega) hy (by rw [hdevice]; exact hholds.columns)
      (by rw [hdevice]; exact hholds.rows)
  have hstyle : (counted.moveTo x y).pen.KnowsStyle
      ((counted.moveTo x y).on terminal).attributes := by
    rw [hmoved, Drawing.moveTo_pen]
    exact hagrees.style.moved _
  have hroom : ((counted.moveTo x y).on terminal).column + cell.width ≤
      ((counted.moveTo x y).on terminal).device.columns := by
    rw [hmoved]
    change x + cell.width ≤ (counted.on terminal).device.columns
    rw [hdevice]
    exact Nat.le_trans hx hholds.columns
  have hon : (drawing.change x y cell).on terminal = { drawing.on terminal with
      column := x, row := y, attributes := cell.style.attributes }.write cell.look := by
    refine (Drawing.on_print hdrawn hstyle hroom).trans ?_
    rw [hmoved]
  have hcursor : (drawing.change x y cell).pen.cursor =
      some (min (x + max cell.width 1) columnLimit, y) := by
    change Option.map _ ((counted.moveTo x y).print cell).pen.cursor = _
    rw [Drawing.print_cursor hstyle, Drawing.moveTo_pen]
    rfl
  refine ⟨hon, ?_, ?_⟩
  · intro column row hknown hcolumn _
    rw [hcursor] at hknown
    cases hknown
    -- Where the count of columns stops, the column lies outside the frame.
    have hlimit := hholds.limit
    rw [hon]
    change x + cell.width = _ ∧ y = y
    exact ⟨by omega, rfl⟩
  · rw [hon]
    exact (Drawing.print_knowsStyle hstyle).moved _

/-- The drawing of one entry of a difference, given by its column and row. -/
theorem Drawing.compare_at (drawing : Drawing) (shown wanted : Cell) (hx : x < width) :
    drawing.compare width ((shown, wanted), y * width + x) =
      if shown = wanted ∨ wanted.isContinuation then drawing else drawing.change x y wanted := by
  have hcolumn : (y * width + x) % width = x := by
    rw [Nat.mul_add_mod_self_right, Nat.mod_eq_of_lt hx]
  have hrow : (y * width + x) / width = y := by
    rw [Nat.mul_comm, Nat.mul_add_div (by omega), Nat.div_eq_of_lt hx, Nat.add_zero]
  unfold Drawing.compare
  dsimp only
  rw [hcolumn, hrow]

theorem Drawing.adds_change (drawing : Drawing) (hdrawn : cell.IsDrawn)
    (hx : x < width) (hy : y < height) :
    drawing.Adds width height (drawing.change x y cell) := by
  set counted : Drawing := { drawing with cells := drawing.cells + 1 }
  have hcounted : drawing.Adds width height counted := .refl rfl
  have hprinted : counted.Adds width height ((counted.moveTo x y).print cell) :=
    (counted.adds_moveTo hx hy).trans (Drawing.adds_print _ hdrawn)
  exact (hcounted.trans hprinted).trans (.refl rfl)

/-- Assumes: the line keeps the shown cells from the column of a glyph on, and no wide glyph begins
directly before it. The glyph is drawn or stands there already, and the line keeps what follows. -/
theorem Drawing.compare_draws {shown : Cell} {rest : List Cell}
    (hholds : terminal.device.Holds width height) (hdrawn : cell.IsDrawn)
    (hx : x + cell.width ≤ width) (hy : y < height) (hlinked : LinkedRow (shown :: rest))
    (hkeeps : ((drawing.on terminal).lines y).Keeps x (shown :: rest))
    (hbreak : ((drawing.on terminal).lines y).breaksAt x)
    (hagrees : drawing.pen.Agrees width height (drawing.on terminal)) :
    let after := drawing.compare width ((shown, cell), y * width + x)
    Drawing.Draws terminal width height drawing after x y cell.span ∧
      after.pen.Agrees width height (after.on terminal) ∧
      ((after.on terminal).lines y).Keeps (x + cell.width) ((shown :: rest).drop cell.width) := by
  have hwidth := hdrawn.width.2
  intro after
  by_cases hsame : shown = cell
  · have hafter : after = drawing := by
      rw [show after = _ from drawing.compare_at shown cell (by omega), if_pos (Or.inl hsame)]
    subst hsame
    rw [hafter]
    refine ⟨⟨?_, fun _ _ ↦ rfl, fun _ _ ↦ rfl, .refl rfl⟩, hagrees, hkeeps.drop (by omega)⟩
    -- What stands there already is the whole glyph, because the shown row is paired, too.
    intro k other hother
    rcases hwidth with hnarrow | hwide
    · rw [Cell.span_of_narrow hnarrow] at hother
      match k, hother with
      | 0, rfl => exact hkeeps 0 shown rfl (Or.inr (by omega))
    · rw [Cell.span_of_wide hwide] at hother
      match k, hother with
      | 0, rfl => exact hkeeps 0 shown rfl (Or.inr (by omega))
      | 1, rfl => exact hkeeps 1 _ (hlinked.wide 0 shown rfl hwide) (Or.inl Nat.one_pos)
  · have hafter : after = drawing.change x y cell := by
      have hskip : ¬ (shown = cell ∨ cell.isContinuation = true) := by
        rw [hdrawn.isContinuation]
        simpa using hsame
      rw [show after = _ from drawing.compare_at shown cell (by omega), if_neg hskip]
    obtain ⟨hon, hnext⟩ := Drawing.change_on hholds hdrawn hx hy hagrees
    have hadds := drawing.adds_change hdrawn (show x < width by omega) hy
    rw [hafter]
    refine ⟨Drawing.draws_write hdrawn hbreak hadds hon, hnext, ?_⟩
    rw [hon, show _ = _ from Terminal.write_line _ cell.look]
    exact hkeeps.print hwidth

/-- The entries of the cells of a glyph come to that of the glyph itself. -/
theorem Drawing.foldl_compare_span (drawing : Drawing) (hdrawn : cell.IsDrawn) (shown : Cell)
    (rest wanted : List Cell) (hlength : (shown :: rest).length = (cell.span ++ wanted).length)
    (start : Nat) :
    (((shown :: rest).zip (cell.span ++ wanted)).zipIdx start).foldl (Drawing.compare width)
        drawing =
      ((((shown :: rest).drop cell.width).zip wanted).zipIdx (start + cell.width)).foldl
        (Drawing.compare width) (drawing.compare width ((shown, cell), start)) := by
  rcases hdrawn.width.2 with hnarrow | hwide
  · rw [Cell.span_of_narrow hnarrow, hnarrow]
    rfl
  · rw [Cell.span_of_wide hwide] at hlength ⊢
    rw [hwide]
    cases rest with
    | nil => simp at hlength
    | cons next rest =>
      have hskip : ∀ (drawing : Drawing) (index : Nat),
          drawing.compare width ((next, .continuation cell.style), index) = drawing :=
        fun _ _ ↦ if_pos (Or.inr rfl)
      change List.foldl _ (Drawing.compare width _ ((next, .continuation cell.style), start + 1)) _
        = _
      rw [hskip]
      rfl

/-- Assumes: the line keeps the shown cells from a column on, and no wide glyph begins directly
before it. The rest of the row is drawn, and the pen stays right. -/
theorem Drawing.compareCells_draws {shown wanted : List Cell}
    (hholds : terminal.device.Holds width height) (hy : y < height) (hwanted : GlyphRow wanted)
    (hlength : shown.length = wanted.length) (hend : x + wanted.length = width)
    (hlinked : LinkedRow shown) (hkeeps : ((drawing.on terminal).lines y).Keeps x shown)
    (hbreak : ((drawing.on terminal).lines y).breaksAt x)
    (hagrees : drawing.pen.Agrees width height (drawing.on terminal)) :
    let after := ((shown.zip wanted).zipIdx (y * width + x)).foldl (Drawing.compare width) drawing
    Drawing.Draws terminal width height drawing after x y wanted ∧
      after.pen.Agrees width height (after.on terminal) := by
  induction hwanted generalizing x shown drawing with
  | nil =>
    intro after
    have hafter : after = drawing := by
      change List.foldl _ _ ((shown.zip []).zipIdx _) = _
      rw [List.zip_nil_right]
      rfl
    rw [hafter]
    exact ⟨.nil rfl (.refl rfl), hagrees⟩
  | @cons cell rest hdrawn _ ih =>
    have hspan := hdrawn.length_span
    have hwidth := hdrawn.width.2
    cases shown with
    | nil =>
      rw [List.length_append, hspan] at hlength
      simp at hlength
      omega
    | cons first others =>
      rw [List.length_append, hspan] at hend
      intro after
      obtain ⟨hglyph, hnext, hkept⟩ := Drawing.compare_draws hholds hdrawn (by omega) hy hlinked
        hkeeps hbreak hagrees
      have hothers : ((first :: others).drop cell.width).length = rest.length := by
        rw [List.length_drop, hlength, List.length_append, hspan]
        omega
      have hrest := ih hothers (by omega) (hlinked.drop cell.width) hkept (hglyph.breaksAt hdrawn)
        hnext
      have hafter : after = _ :=
        drawing.foldl_compare_span hdrawn first others rest hlength (y * width + x)
      rw [hafter, Nat.add_assoc]
      exact ⟨hglyph.append (hspan ▸ hrest.1), hrest.2⟩

end Compare

end LiveBoard.Screen
