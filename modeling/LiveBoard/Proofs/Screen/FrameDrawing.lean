import LiveBoard.Proofs.Screen.RowDrawing

/-!
# Drawing a frame

Both drawings of a frame go through its rows from the top (`difference_eq_rows`), and what one row
does is carried over all of them by `foldl_rows`. A terminal that is in step with a frame and a
pen (`Terminal.InStep`) shows the frame, agrees with the pen and is ready for text. Fed the bytes
of a repaint every terminal comes into step, whatever it shows and whatever it was reading
(`inStep_feed_repaint`), and fed the bytes of a difference it stays in step
(`InStep.feed_difference`).
-/

set_option autoImplicit false
set_option relaxedAutoImplicit false

namespace LiveBoard.Screen

/-! ### Frames on a terminal -/

/-- A row of the screen shows that of a frame. -/
def Terminal.ShowsRow (terminal : Terminal) (frame : Frame) (y : Nat) : Prop :=
  ∀ (x : Nat) (cell : Cell), frame.get? x y = some cell → terminal.lines y x = cell.look

/-- The screen shows a frame: every cell by its glyph, its colours and its weight. -/
def Terminal.Shows (terminal : Terminal) (frame : Frame) : Prop :=
  ∀ y, terminal.ShowsRow frame y

/-- What is known about a terminal that shows a frame is right. -/
structure Terminal.InStep (terminal : Terminal) (frame : Frame) (pen : Pen) : Prop where
  /-- The frame is shown. -/
  shows : terminal.Shows frame
  /-- What is known is true. -/
  agrees : pen.Agrees frame.width frame.height terminal
  /-- No control sequence or character is unfinished. -/
  ready : terminal.reading = .text

section Rows

variable {terminal : Terminal} {frame : Frame} {before after : Drawing} {y : Nat}

theorem Drawing.Draws.showsRow {width height : Nat} (hy : y < frame.height)
    (h : Drawing.Draws terminal width height before after 0 y (frame.rowCells y)) :
    (after.on terminal).ShowsRow frame y := by
  intro x cell hcell
  rw [← Frame.getElem?_rowCells hy] at hcell
  have hshown := h.shown x cell hcell
  rwa [Nat.zero_add] at hshown

theorem Terminal.ShowsRow.of_draws {width height row : Nat} {cells : List Cell}
    (h : (before.on terminal).ShowsRow frame row) (hrow : row ≠ y)
    (hdraws : Drawing.Draws terminal width height before after 0 y cells) :
    (after.on terminal).ShowsRow frame row := by
  intro x cell hcell
  rw [hdraws.others row hrow]
  exact h x cell hcell

/-- Assumes: where `Ready` holds of a row, drawing the row leaves it true of the next. Drawing the
rows from the top shows those that were drawn. -/
theorem Drawing.foldl_rows {step : Drawing → Nat → Drawing} (Ready : Drawing → Nat → Prop)
    (hstep : ∀ y < frame.height, ∀ drawing, Ready drawing y →
      Drawing.Draws terminal frame.width frame.height drawing (step drawing y) 0 y
        (frame.rowCells y) ∧ Ready (step drawing y) (y + 1))
    {start : Drawing} (hstart : Ready start 0) (count : Nat) (hcount : count ≤ frame.height) :
    let after := (List.range count).foldl step start
    (∀ row < count, (after.on terminal).ShowsRow frame row) ∧ Ready after count ∧
      start.Adds frame.width frame.height after := by
  induction count with
  | zero => exact ⟨fun row hrow ↦ absurd hrow (Nat.not_lt_zero row), hstart, .refl rfl⟩
  | succ count ih =>
    obtain ⟨hshown, hready, hadds⟩ := ih (by omega)
    obtain ⟨hdraws, hnext⟩ := hstep count hcount _ hready
    rw [List.range_succ, List.foldl_append]
    refine ⟨?_, hnext, hadds.trans hdraws.adds⟩
    intro row hrow
    by_cases hlast : row = count
    · subst hlast
      exact hdraws.showsRow hcount
    · exact (hshown row (by omega)).of_draws hlast hdraws

end Rows

/-! ### Legible frames -/

/-- The cells of a frame that are no continuations were made from characters. -/
def Frame.Legible (frame : Frame) : Prop :=
  ∀ cell ∈ frame.cells.toList, cell.isContinuation = false → cell.IsDrawn

theorem Frame.WellPaired.legible {frame : Frame} (h : frame.WellPaired) : frame.Legible := by
  intro cell hmem hwhole
  rw [frame.toList_cells, List.mem_flatMap] at hmem
  obtain ⟨y, hy, hcell⟩ := hmem
  obtain ⟨x, hx⟩ := List.getElem?_of_mem hcell
  rw [Frame.getElem?_rowCells (List.mem_range.mp hy)] at hx
  exact h.drawn x y cell hx hwhole

/-! ### Repaints -/

section Repaint

variable {terminal : Terminal} {frame : Frame} {drawing : Drawing}

theorem Line.breaksAt_zero (line : Line) : line.breaksAt 0 := by
  intro column hcolumn
  omega

/-- A row of a repaint is drawn whatever stands there. -/
theorem Drawing.repaintRow_draws (hpaired : frame.WellPaired)
    (hholds : terminal.device.Holds frame.width frame.height) (hwidth : 0 < frame.width) {y : Nat}
    (hy : y < frame.height)
    (hagrees : drawing.pen.Agrees frame.width frame.height (drawing.on terminal)) :
    let after := Drawing.repaintRow frame drawing y
    Drawing.Draws terminal frame.width frame.height drawing after 0 y (frame.rowCells y) ∧
      after.pen.Agrees frame.width frame.height (after.on terminal) := by
  set moved := drawing.mark (.moveTo 0 y)
  set drawn := (frame.rowCells y).foldl Drawing.repaintCell moved
  have hdevice : (drawing.on terminal).device = terminal.device := Terminal.obeyAll_device ..
  have hrows := hholds.rows
  have hmoved : moved.on terminal = { drawing.on terminal with column := 0, row := y } := by
    refine (drawing.on_mark terminal (.moveTo 0 y)).trans ?_
    change (drawing.on terminal).address 0 y = _
    unfold Terminal.address
    rw [Nat.zero_min, Nat.min_eq_left (by rw [hdevice]; omega)]
  have hstart : Drawing.Draws terminal frame.width frame.height drawing moved 0 y [] := by
    refine .nil (by rw [hmoved]) (drawing.adds_mark (.moveTo 0 y) ⟨hwidth, hy⟩)
  have hrow : Drawing.Draws terminal frame.width frame.height moved drawn 0 y (frame.rowCells y) ∧
      drawn.pen.KnowsStyle (drawn.on terminal).attributes := by
    refine Drawing.repaintCells_draws (hpaired.glyphRow hy) ⟨by rw [hmoved], by rw [hmoved]⟩ ?_
      (Line.breaksAt_zero _) ?_
    · rw [Frame.length_rowCells hy, Nat.zero_add]
      exact hholds.columns
    · rw [hmoved]
      exact hagrees.style
  intro after
  have hcells := hstart.append hrow.1
  refine ⟨⟨hcells.shown, hcells.left, hcells.others, hcells.adds⟩, ?_, hrow.2.moved _⟩
  -- The cursor is left behind the last column, so no cell will be drawn without an address.
  intro x row hknown hx _
  cases hknown
  omega

/-- A repaint of a legible frame consists of marks that fit into it, after those that hide the
cursor and reset the style. -/
theorem Drawing.adds_repaint (hlegible : frame.Legible) (hwidth : 0 < frame.width) :
    (((Drawing.start .unknown).mark .hideCursor).mark .resetStyle).Adds frame.width frame.height
      (repaint frame) := by
  have hcell : ∀ (drawing : Drawing) (cell : Cell), cell ∈ frame.cells.toList →
      drawing.Adds frame.width frame.height (drawing.repaintCell cell) := by
    intro drawing cell hmem
    unfold Drawing.repaintCell
    split_ifs with hcontinuation
    · exact .refl rfl
    · exact drawing.adds_print (hlegible cell hmem (Bool.eq_false_iff.mpr hcontinuation))
  have hrow : ∀ y < frame.height, ∀ drawing : Drawing,
      drawing.Adds frame.width frame.height (drawing.repaintRow frame y) := by
    intro y hy drawing
    have hcells : ∀ cell ∈ frame.rowCells y, cell ∈ frame.cells.toList := by
      intro cell hmem
      rw [frame.toList_cells]
      exact List.mem_flatMap.mpr ⟨y, List.mem_range.mpr hy, hmem⟩
    have hmoved : drawing.Adds frame.width frame.height (drawing.mark (.moveTo 0 y)) :=
      drawing.adds_mark (.moveTo 0 y) ⟨hwidth, hy⟩
    exact (hmoved.trans (Drawing.adds_foldl hcells hcell)).trans (.refl rfl)
  exact Drawing.adds_foldl (fun y hy ↦ List.mem_range.mp hy) fun drawing y hy ↦ hrow y hy drawing

theorem Drawing.repaint_rows (hpaired : frame.WellPaired)
    (hholds : terminal.device.Holds frame.width frame.height) (hwidth : 0 < frame.width) :
    (repaint frame).pen.Agrees frame.width frame.height ((repaint frame).on terminal) ∧
      ((repaint frame).on terminal).Shows frame ∧
      (((Drawing.start .unknown).mark .hideCursor).mark .resetStyle).Adds frame.width frame.height
        (repaint frame) := by
  set start := ((Drawing.start .unknown).mark .hideCursor).mark .resetStyle
  have hagrees : start.pen.Agrees frame.width frame.height (start.on terminal) := by
    refine ⟨?_, Pen.knowsStyle_standard rfl rfl rfl⟩
    intro x y hknown
    cases hknown
  obtain ⟨hshown, hafter, hadds⟩ := Drawing.foldl_rows
    (fun drawing _ ↦ drawing.pen.Agrees frame.width frame.height (drawing.on terminal))
    (fun y hy drawing h ↦ Drawing.repaintRow_draws hpaired hholds hwidth hy h) hagrees
    frame.height (Nat.le_refl _)
  refine ⟨hafter, ?_, hadds⟩
  intro y x cell hcell
  exact hshown y (Frame.lt_of_get? hcell).2 x cell hcell

/-- Assumes: a well-paired frame that fits on the screen. Fed a repaint of the frame, the terminal
is in step with it, whatever it showed and whatever it was reading before. -/
theorem Terminal.inStep_feed_repaint (hpaired : frame.WellPaired)
    (hholds : terminal.device.Holds frame.width frame.height) (hwidth : 0 < frame.width) :
    (terminal.feed (repaint frame).bytes).InStep frame (repaint frame).pen := by
  have hready : terminal.ready.device.Holds frame.width frame.height := hholds
  obtain ⟨hagrees, hshows, marks, hmarks, hfits⟩ := Drawing.repaint_rows hpaired hready hwidth
  have hfed : terminal.feed (repaint frame).bytes = (repaint frame).on terminal.ready := by
    unfold Drawing.bytes Drawing.on
    rw [hmarks]
    change terminal.feed (bytesOfMarks (.hideCursor :: .resetStyle :: marks)) = _
    refine terminal.feed_bytesOfMarks_cons rfl (.resetStyle :: marks) ?_
    intro mark hmark
    rcases List.mem_cons.mp hmark with rfl | hmark
    · rfl
    · exact (hfits mark hmark).isPlain
  rw [hfed]
  exact ⟨hshows, hagrees, terminal.ready.obeyAll_reading _⟩

end Repaint

/-! ### Differences -/

/-- Draws the cells of a row in which two frames differ. -/
def Drawing.compareRow (current next : Frame) (drawing : Drawing) (y : Nat) : Drawing :=
  (((current.rowCells y).zip (next.rowCells y)).zipIdx (y * next.width)).foldl
    (Drawing.compare next.width) drawing

section Difference

variable {terminal : Terminal} {current next : Frame} {pen : Pen} {drawing : Drawing}

/-- The entries of the first rows are those of each row, one after the other. -/
theorem zipIdx_zip_rows (hwidth : current.width = next.width) (count : Nat)
    (hcurrent : count ≤ current.height) (hnext : count ≤ next.height) :
    (((List.range count).flatMap current.rowCells).zip
        ((List.range count).flatMap next.rowCells)).zipIdx =
      (List.range count).flatMap fun y ↦
        ((current.rowCells y).zip (next.rowCells y)).zipIdx (y * next.width) := by
  induction count with
  | zero => rfl
  | succ count ih =>
    have hleft := current.length_flatMap_rowCells (Nat.le_of_succ_le hcurrent)
    have hright := next.length_flatMap_rowCells (Nat.le_of_succ_le hnext)
    rw [hwidth] at hleft
    simp only [List.range_succ, List.flatMap_append, List.flatMap_singleton]
    rw [List.zip_append (by rw [hleft, hright]), List.zipIdx_append, ih (by omega) (by omega),
      List.length_zip, hleft, hright, Nat.min_self, Nat.zero_add]

/-- A difference goes through the rows from the top. -/
theorem difference_eq_rows (hwidth : current.width = next.width)
    (hheight : current.height = next.height) (pen : Pen) :
    difference current next pen =
      (List.range next.height).foldl (Drawing.compareRow current next) (.start pen) := by
  unfold difference
  rw [current.toList_cells, next.toList_cells, hheight,
    zipIdx_zip_rows hwidth next.height (Nat.le_of_eq hheight.symm) (Nat.le_refl _),
    List.foldl_flatMap]
  rfl

/-- Entries in which the cells agree, or with a continuation to show, draw nothing. -/
theorem Drawing.foldl_compare_skip {width : Nat} {entries : List ((Cell × Cell) × Nat)}
    (h : ∀ entry ∈ entries, entry.1.1 = entry.1.2 ∨ entry.1.2.isContinuation = true)
    (drawing : Drawing) : entries.foldl (Drawing.compare width) drawing = drawing := by
  induction entries with
  | nil => rfl
  | cons entry rest ih =>
    have hskipped : drawing.compare width entry = drawing := if_pos (h entry List.mem_cons_self)
    rw [List.foldl_cons, hskipped]
    exact ih fun other hother ↦ h other (List.mem_cons_of_mem _ hother)

/-- Nothing is drawn of a frame that is shown already, and nothing new is known then. -/
@[simp]
theorem difference_self (frame : Frame) (pen : Pen) : difference frame frame pen = .start pen := by
  refine Drawing.foldl_compare_skip ?_ _
  rintro ⟨⟨shown, wanted⟩, index⟩ hentry
  obtain ⟨-, hpair⟩ := List.mem_zipIdx' hentry
  rw [List.getElem_zip] at hpair
  obtain ⟨hshown, hwanted⟩ := Prod.mk.inj hpair
  exact Or.inl (hshown.trans hwanted.symm)

/-- An entry of a difference lies in a frame, and its cell was made from a character unless it is a
continuation. -/
def Drawable (width height : Nat) (entry : (Cell × Cell) × Nat) : Prop :=
  entry.2 < width * height ∧ (entry.1.2.isContinuation = false → entry.1.2.IsDrawn)

theorem drawable_of_mem (hnext : next.Legible) :
    ∀ entry ∈ (current.cells.toList.zip next.cells.toList).zipIdx,
      Drawable next.width next.height entry := by
  rintro ⟨⟨shown, wanted⟩, index⟩ hmem
  obtain ⟨hindex, hpair⟩ := List.mem_zipIdx' hmem
  have hzip : (shown, wanted) ∈ current.cells.toList.zip next.cells.toList := by
    rw [hpair]
    exact List.getElem_mem _
  rw [List.length_zip, Array.length_toList, Array.length_toList, next.size_eq] at hindex
  exact ⟨by omega, hnext wanted (List.of_mem_zip hzip).2⟩

/-- An entry is drawn by marks that fit into the frame. -/
theorem Drawing.adds_compare {width height : Nat} (drawing : Drawing)
    {entry : (Cell × Cell) × Nat} (hentry : Drawable width height entry) :
    drawing.Adds width height (drawing.compare width entry) := by
  obtain ⟨hindex, hdrawn⟩ := hentry
  unfold Drawing.compare
  dsimp only
  split_ifs with hskip
  · exact .refl rfl
  · rw [not_or, Bool.not_eq_true] at hskip
    have hwidth : 0 < width := Nat.pos_of_mul_pos_right (Nat.zero_lt_of_lt hindex)
    exact drawing.adds_change (hdrawn hskip.2) (Nat.mod_lt _ hwidth)
      (Nat.div_lt_of_lt_mul hindex)

theorem Drawing.adds_foldl_compare {width height : Nat} (drawing : Drawing)
    {entries : List ((Cell × Cell) × Nat)}
    (hentries : ∀ entry ∈ entries, Drawable width height entry) :
    drawing.Adds width height (entries.foldl (Drawing.compare width) drawing) :=
  Drawing.adds_foldl hentries fun drawing _ hentry ↦ drawing.adds_compare hentry

/-- Whatever the pen, a difference consists of marks that fit into the frame. -/
theorem Drawing.adds_difference (hnext : next.Legible) (pen : Pen) :
    (Drawing.start pen).Adds next.width next.height (difference current next pen) :=
  Drawing.adds_foldl_compare _ (drawable_of_mem hnext)

/-- Where the frames differ, the glyph to show is part of the difference. -/
theorem Drawing.glyph_mem_difference (hnext : next.WellPaired)
    (hwidth : current.width = next.width) {x y : Nat} {shown wanted : Cell}
    (hshown : current.get? x y = some shown) (hwanted : next.get? x y = some wanted)
    (hdiffers : shown ≠ wanted) (hwhole : wanted.isContinuation = false) (pen : Pen) :
    Mark.glyph wanted.glyph ∈ (difference current next pen).marks.toList := by
  have hentry : ((shown, wanted), y * next.width + x) ∈
      (current.cells.toList.zip next.cells.toList).zipIdx := by
    obtain ⟨hx, hy⟩ := Frame.lt_of_get? hshown
    obtain ⟨hx', hy'⟩ := Frame.lt_of_get? hwanted
    rw [Frame.get?_eq hx hy, hwidth] at hshown
    rw [Frame.get?_eq hx' hy'] at hwanted
    rw [List.mk_mem_zipIdx_iff_getElem?, List.getElem?_zip_eq_some]
    exact ⟨by rwa [Array.getElem?_toList], by rwa [Array.getElem?_toList]⟩
  have hentries : ∀ entry ∈ (current.cells.toList.zip next.cells.toList).zipIdx,
      Drawable next.width next.height entry := drawable_of_mem hnext.legible
  unfold difference
  obtain ⟨before, after, hsplit⟩ := List.append_of_mem hentry
  rw [hsplit] at hentries ⊢
  rw [List.foldl_append, List.foldl_cons]
  set drawn := before.foldl (Drawing.compare next.width) (.start pen)
  have hchanged : Mark.glyph wanted.glyph ∈
      (drawn.compare next.width ((shown, wanted), y * next.width + x)).marks.toList := by
    unfold Drawing.compare
    dsimp only
    rw [if_neg (by simp [hdiffers, hwhole])]
    simp [Drawing.change, Drawing.advance, Drawing.print, Drawing.mark]
  have hafter : ∀ entry ∈ after, Drawable next.width next.height entry :=
    fun entry hmem ↦ hentries entry (by simp [hmem])
  obtain ⟨marks, hmarks, -⟩ := Drawing.adds_foldl_compare
    (drawn.compare next.width ((shown, wanted), y * next.width + x)) hafter
  rw [hmarks]
  exact List.mem_append_left _ hchanged

/-- A row of a difference is drawn where the row of the frame before stands. -/
theorem Drawing.compareRow_draws (hcurrent : current.WellPaired) (hnext : next.WellPaired)
    (hwidth : current.width = next.width) (hheight : current.height = next.height)
    (hholds : terminal.device.Holds next.width next.height) {y : Nat} (hy : y < next.height)
    (hshows : (drawing.on terminal).ShowsRow current y)
    (hagrees : drawing.pen.Agrees next.width next.height (drawing.on terminal)) :
    let after := Drawing.compareRow current next drawing y
    Drawing.Draws terminal next.width next.height drawing after 0 y (next.rowCells y) ∧
      after.pen.Agrees next.width next.height (after.on terminal) := by
  have hcurrentRow : y < current.height := by omega
  have hlength : (current.rowCells y).length = (next.rowCells y).length := by
    rw [Frame.length_rowCells hcurrentRow, Frame.length_rowCells hy, hwidth]
  refine Drawing.compareCells_draws hholds hy (hnext.glyphRow hy) hlength ?_
    (hcurrent.linkedRow hcurrentRow) ?_ (Line.breaksAt_zero _) hagrees
  · rw [Frame.length_rowCells hy, Nat.zero_add]
  · intro x cell hcell _
    rw [Frame.getElem?_rowCells hcurrentRow] at hcell
    rw [Nat.zero_add]
    exact hshows x cell hcell

theorem Drawing.difference_rows (hcurrent : current.WellPaired) (hnext : next.WellPaired)
    (hwidth : current.width = next.width) (hheight : current.height = next.height)
    (hholds : terminal.device.Holds next.width next.height) (hshows : terminal.Shows current)
    (hagrees : pen.Agrees next.width next.height terminal) :
    (difference current next pen).pen.Agrees next.width next.height
        ((difference current next pen).on terminal) ∧
      ((difference current next pen).on terminal).Shows next ∧
      (Drawing.start pen).Adds next.width next.height (difference current next pen) := by
  -- The rows below the one to draw still show the frame before.
  have hstep : ∀ y < next.height, ∀ drawing : Drawing,
      (drawing.pen.Agrees next.width next.height (drawing.on terminal) ∧
        ∀ row, y ≤ row → (drawing.on terminal).ShowsRow current row) →
      Drawing.Draws terminal next.width next.height drawing
          (Drawing.compareRow current next drawing y) 0 y (next.rowCells y) ∧
        (Drawing.compareRow current next drawing y).pen.Agrees next.width next.height
            ((Drawing.compareRow current next drawing y).on terminal) ∧
          ∀ row, y + 1 ≤ row →
            ((Drawing.compareRow current next drawing y).on terminal).ShowsRow current row := by
    rintro y hy drawing ⟨hagrees, hbelow⟩
    obtain ⟨hdraws, hafter⟩ := Drawing.compareRow_draws hcurrent hnext hwidth hheight hholds hy
      (hbelow y (Nat.le_refl y)) hagrees
    refine ⟨hdraws, hafter, ?_⟩
    intro row hrow
    exact (hbelow row (by omega)).of_draws (by omega) hdraws
  have hstart : (Drawing.start pen).pen.Agrees next.width next.height
      ((Drawing.start pen).on terminal) ∧
        ∀ row, 0 ≤ row → ((Drawing.start pen).on terminal).ShowsRow current row :=
    ⟨hagrees, fun row _ ↦ hshows row⟩
  obtain ⟨hshown, ⟨hafter, -⟩, hadds⟩ := Drawing.foldl_rows
    (fun drawing y ↦ drawing.pen.Agrees next.width next.height (drawing.on terminal) ∧
      ∀ row, y ≤ row → (drawing.on terminal).ShowsRow current row)
    hstep hstart next.height (Nat.le_refl _)
  rw [difference_eq_rows hwidth hheight]
  refine ⟨hafter, ?_, hadds⟩
  intro y x cell hcell
  exact hshown y (Frame.lt_of_get? hcell).2 x cell hcell

/-- Assumes: well-paired frames of one size that fits on the screen, and a terminal in step with the
first. Fed their difference, the terminal is in step with the second. -/
theorem Terminal.InStep.feed_difference (h : terminal.InStep current pen)
    (hcurrent : current.WellPaired) (hnext : next.WellPaired) (hwidth : current.width = next.width)
    (hheight : current.height = next.height)
    (hholds : terminal.device.Holds next.width next.height) :
    (terminal.feed (difference current next pen).bytes).InStep next
      (difference current next pen).pen := by
  have hpen : pen.Agrees next.width next.height terminal := by
    rw [← hwidth, ← hheight]
    exact h.agrees
  obtain ⟨hagrees, hshows, hadds⟩ :=
    Drawing.difference_rows hcurrent hnext hwidth hheight hholds h.shows hpen
  have hfits := hadds.fits fun mark hmark ↦ by cases hmark
  have hfed : terminal.feed (difference current next pen).bytes =
      (difference current next pen).on terminal :=
    terminal.feed_bytesOfMarks h.ready _ fun mark hmark ↦ (hfits mark hmark).isPlain
  rw [hfed]
  exact ⟨hshows, hagrees, (terminal.obeyAll_reading _).trans h.ready⟩

end Difference

end LiveBoard.Screen
