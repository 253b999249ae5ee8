import LiveBoard.Proofs.Screen.Pairing

/-!
# Writing into frames

What writing does to a frame is told by `Frame.get?`: setting a cell changes one place
(`get?_set`), and writing a glyph changes the places of its cells (`get?_place`). `Frame.Writes`
says that only one row changes, and in it only columns from some column on.

A glyph may be written over narrow cells without tearing a pair of halves. `Frame.OpenFrom` says
that a row has only narrow cells from a column on; there a text of any characters keeps a frame
well paired and leaves the row open after it (`writes_put`), and so does a span of blanks
(`writes_fill`).
-/

set_option autoImplicit false
set_option relaxedAutoImplicit false

namespace LiveBoard.Screen

/-! ### Single cells -/

section Cells

variable {frame : Frame} {x y column row : Nat}

/-- Places are counted without repetition. -/
theorem index_inj {width : Nat} (hx : x < width) (hcolumn : column < width)
    (h : row * width + column = y * width + x) : column = x ∧ row = y := by
  have hmod := congrArg (· % width) h
  have hdiv := congrArg (· / width) h
  simp only [Nat.mul_add_mod_self_right, Nat.mod_eq_of_lt hx, Nat.mod_eq_of_lt hcolumn] at hmod
  simp only [Nat.mul_comm _ width, Nat.mul_add_div (Nat.zero_lt_of_lt hx), Nat.div_eq_of_lt hx,
    Nat.div_eq_of_lt hcolumn, Nat.add_zero] at hdiv
  exact ⟨hmod, hdiv⟩

@[simp]
theorem Frame.width_set (frame : Frame) (x y : Nat) (cell : Cell) :
    (frame.set x y cell).width = frame.width := by
  unfold Frame.set
  split <;> rfl

@[simp]
theorem Frame.height_set (frame : Frame) (x y : Nat) (cell : Cell) :
    (frame.set x y cell).height = frame.height := by
  unfold Frame.set
  split <;> rfl

/-- Setting a cell changes its place and no other. -/
@[grind =]
theorem Frame.get?_set (hx : x < frame.width) (hy : y < frame.height) (cell : Cell) :
    (frame.set x y cell).get? column row =
      if column = x ∧ row = y then some cell else frame.get? column row := by
  by_cases hin : column < frame.width ∧ row < frame.height
  · obtain ⟨hcolumn, hrow⟩ := hin
    have hset : (frame.set x y cell).cells =
        frame.cells.setIfInBounds (y * frame.width + x) cell := by
      unfold Frame.set Frame.indexOf?
      rw [if_pos ⟨hx, hy⟩]
    rw [Frame.get?_eq (by simpa using hcolumn) (by simpa using hrow), hset, Frame.width_set,
      Frame.get?_eq hcolumn hrow, Array.getElem?_setIfInBounds]
    by_cases hsame : column = x ∧ row = y
    · obtain ⟨rfl, rfl⟩ := hsame
      simp [index_lt_size hcolumn hrow]
    · rw [if_neg hsame, if_neg]
      intro hindex
      exact hsame (index_inj hx hcolumn hindex.symm)
  · rw [Frame.get?_eq_none (by simpa using hin), Frame.get?_eq_none hin, if_neg]
    rintro ⟨rfl, rfl⟩
    exact hin ⟨hx, hy⟩

/-- Setting a cell outside of a frame does nothing. -/
@[simp]
theorem Frame.set_of_not_lt (h : ¬ (x < frame.width ∧ y < frame.height)) (cell : Cell) :
    frame.set x y cell = frame := by
  unfold Frame.set Frame.indexOf?
  rw [if_neg h]

theorem Frame.get?_blank {width height : Nat} {cell : Cell}
    (h : (Frame.blank width height).get? x y = some cell) : cell = .blank := by
  obtain ⟨hx, hy⟩ := Frame.lt_of_get? h
  rw [Frame.get?_eq hx hy] at h
  simpa [Frame.blank, Array.getElem?_replicate, eq_comm] using (Array.getElem?_eq_some_iff.mp h).2

end Cells

/-! ### Open rows -/

/-- All cells of a row from a column on are narrow. -/
def Frame.OpenFrom (frame : Frame) (x y : Nat) : Prop :=
  ∀ (column : Nat) (cell : Cell), x ≤ column → frame.get? column y = some cell → cell.width = 1

/-- A frame goes on from `before` to `after` by writing into row `y` from column `x` on; it is well
paired then, and the row is open from column `stop` on. -/
structure Frame.Writes (before after : Frame) (y x stop : Nat) : Prop where
  /-- The width stays. -/
  width : after.width = before.width
  /-- The height stays. -/
  height : after.height = before.height
  /-- Other places stay. -/
  others : ∀ column row, row ≠ y ∨ column < x → after.get? column row = before.get? column row
  /-- Glyphs stay whole. -/
  paired : after.WellPaired
  /-- The row is open after what was written. -/
  opened : after.OpenFrom stop y

section Writes

variable {before middle after frame : Frame} {x y stop : Nat} {cell : Cell}

theorem Frame.OpenFrom.mono (h : frame.OpenFrom x y) (hstop : x ≤ stop) :
    frame.OpenFrom stop y := by
  intro column cell hcolumn hcell
  exact h column cell (by omega) hcell

/-- The next text may be written where the one before ended. -/
theorem Frame.Writes.trans {halt : Nat} (hfirst : before.Writes middle y x stop)
    (hsecond : middle.Writes after y stop halt) (hstop : x ≤ stop) :
    before.Writes after y x halt where
  width := hsecond.width.trans hfirst.width
  height := hsecond.height.trans hfirst.height
  others column row h := by
    rw [hsecond.others column row (by omega), hfirst.others column row h]
  paired := hsecond.paired
  opened := hsecond.opened

/-- A wider stretch of the row may be named. -/
theorem Frame.Writes.widen {left halt : Nat} (h : before.Writes after y x stop) (hleft : left ≤ x)
    (hhalt : stop ≤ halt) : before.Writes after y left halt where
  width := h.width
  height := h.height
  others column row hother := h.others column row (by omega)
  paired := h.paired
  opened := h.opened.mono hhalt

theorem Frame.Writes.refl (hpaired : frame.WellPaired) (hopen : frame.OpenFrom x y)
    (hstop : x ≤ stop) : frame.Writes frame y x stop :=
  ⟨rfl, rfl, fun _ _ _ ↦ rfl, hpaired, hopen.mono hstop⟩

/-- Writing into a row leaves the others as open as they were. -/
theorem Frame.Writes.openFrom {column row : Nat} (h : before.Writes after y x stop)
    (hrow : row ≠ y) (hopen : before.OpenFrom column row) : after.OpenFrom column row := by
  intro other cell hother hcell
  rw [h.others other row (Or.inl hrow)] at hcell
  exact hopen other cell hother hcell

/-! ### Glyphs -/

@[simp]
theorem Frame.width_place (frame : Frame) (x y : Nat) (cell : Cell) :
    (frame.place x y cell).width = frame.width := by
  unfold Frame.place
  split <;> simp

@[simp]
theorem Frame.height_place (frame : Frame) (x y : Nat) (cell : Cell) :
    (frame.place x y cell).height = frame.height := by
  unfold Frame.place
  split <;> simp

/-- Writing a glyph into a row outside of a frame does nothing. -/
theorem Frame.place_of_not_lt (hy : ¬ y < frame.height) (cell : Cell) :
    frame.place x y cell = frame := by
  have hset : ∀ column other, frame.set column y other = frame :=
    fun column other ↦ Frame.set_of_not_lt (fun hin ↦ hy hin.2) other
  unfold Frame.place
  rw [hset, hset, ite_self]

/-- Writing a glyph puts its cells into their places and changes no others. -/
theorem Frame.get?_place (hdrawn : cell.IsDrawn) (hx : x + cell.width ≤ frame.width)
    (hy : y < frame.height) (column row : Nat) :
    (frame.place x y cell).get? column row =
      if row = y ∧ x ≤ column ∧ column < x + cell.width then cell.span[column - x]?
      else frame.get? column row := by
  rcases hdrawn.width.2 with hnarrow | hwide
  · have hplace : frame.place x y cell = frame.set x y cell := if_neg (by omega)
    rw [hplace, Frame.get?_set (by omega) hy, Cell.span_of_narrow hnarrow]
    by_cases hsame : column = x ∧ row = y
    · obtain ⟨rfl, rfl⟩ := hsame
      rw [if_pos ⟨rfl, rfl⟩, if_pos ⟨rfl, Nat.le_refl _, by omega⟩, Nat.sub_self]
      rfl
    · rw [if_neg hsame, if_neg]
      rintro ⟨rfl, hfrom, hto⟩
      exact hsame ⟨by omega, rfl⟩
  · have hplace : frame.place x y cell =
        (frame.set x y cell).set (x + 1) y (.continuation cell.style) := if_pos hwide
    have hright : x + 1 < (frame.set x y cell).width := by
      rw [Frame.width_set]
      omega
    rw [hplace, Frame.get?_set hright (by simpa using hy), Frame.get?_set (by omega) hy,
      Cell.span_of_wide hwide]
    by_cases hsecond : column = x + 1 ∧ row = y
    · obtain ⟨rfl, rfl⟩ := hsecond
      rw [if_pos ⟨rfl, rfl⟩, if_pos ⟨rfl, by omega, by omega⟩, Nat.add_sub_cancel_left]
      rfl
    · by_cases hfirst : column = x ∧ row = y
      · obtain ⟨rfl, rfl⟩ := hfirst
        rw [if_neg hsecond, if_pos ⟨rfl, rfl⟩, if_pos ⟨rfl, by omega, by omega⟩, Nat.sub_self]
        rfl
      · rw [if_neg hsecond, if_neg hfirst, if_neg]
        rintro ⟨rfl, hfrom, hto⟩
        by_cases hcolumn : column = x
        · exact hfirst ⟨hcolumn, rfl⟩
        · exact hsecond ⟨by omega, rfl⟩

/-- The places of a glyph hold its cell and, if it is wide, the continuation. -/
theorem Cell.IsDrawn.getElem?_span (hdrawn : cell.IsDrawn) {k : Nat} {other : Cell}
    (h : cell.span[k]? = some other) :
    (k = 0 ∧ other = cell) ∨
      (k = 1 ∧ cell.width = 2 ∧ other = .continuation cell.style) := by
  rcases hdrawn.width.2 with hnarrow | hwide
  · rw [Cell.span_of_narrow hnarrow] at h
    match k, h with
    | 0, rfl => exact Or.inl ⟨rfl, rfl⟩
  · rw [Cell.span_of_wide hwide] at h
    match k, h with
    | 0, rfl => exact Or.inl ⟨rfl, rfl⟩
    | 1, rfl => exact Or.inr ⟨rfl, hwide, rfl⟩

/-- Assumes: a well-paired frame and a row of it that is open from a column on. Writing a glyph
there tears no pair of halves. -/
theorem Frame.wellPaired_place (hpaired : frame.WellPaired) (hopen : frame.OpenFrom x y)
    (hdrawn : cell.IsDrawn) (hx : x + cell.width ≤ frame.width) (hy : y < frame.height) :
    (frame.place x y cell).WellPaired := by
  have hget := Frame.get?_place hdrawn hx hy
  have hwidth := hdrawn.width.2
  -- A place outside of the glyph keeps its cell, and an open row has no halves to lose.
  refine ⟨?_, ?_, ?_⟩
  · intro column row other hother hwide
    rw [hget] at hother ⊢
    by_cases hin : row = y ∧ x ≤ column ∧ column < x + cell.width
    · rw [if_pos hin] at hother
      rcases hdrawn.getElem?_span hother with ⟨hk, rfl⟩ | ⟨-, -, rfl⟩
      · rw [if_pos ⟨hin.1, by omega, by omega⟩, Cell.span_of_wide hwide,
          show column + 1 - x = 1 by omega]
        rfl
      · cases hwide
    · rw [if_neg hin] at hother
      have hnext := hpaired.wide column row other hother hwide
      rw [if_neg]
      · exact hnext
      · rintro ⟨rfl, hfrom, hto⟩
        have hnarrow := hopen (column + 1) _ hfrom hnext
        cases hnarrow
  · intro column row other hother hcontinuation
    rw [hget] at hother
    by_cases hin : row = y ∧ x ≤ column ∧ column < x + cell.width
    · rw [if_pos hin] at hother
      rcases hdrawn.getElem?_span hother with ⟨-, rfl⟩ | ⟨hk, hwide, rfl⟩
      · rw [hdrawn.isContinuation] at hcontinuation
        cases hcontinuation
      · refine ⟨cell, by omega, ?_, hwide⟩
        rw [hget, if_pos ⟨hin.1, by omega, by omega⟩, show column - 1 - x = 0 by omega,
          Cell.span_of_wide hwide]
        rfl
    · rw [if_neg hin] at hother
      obtain ⟨left, hpositive, hleft, hwide⟩ := hpaired.continuation column row other hother
        hcontinuation
      refine ⟨left, hpositive, ?_, hwide⟩
      rw [hget, if_neg]
      · exact hleft
      · rintro ⟨rfl, hfrom, hto⟩
        have hnarrow := hopen (column - 1) left hfrom hleft
        omega
  · intro column row other hother hwhole
    rw [hget] at hother
    by_cases hin : row = y ∧ x ≤ column ∧ column < x + cell.width
    · rw [if_pos hin] at hother
      rcases hdrawn.getElem?_span hother with ⟨-, rfl⟩ | ⟨-, -, rfl⟩
      · exact hdrawn
      · cases hwhole
    · rw [if_neg hin] at hother
      exact hpaired.drawn column row other hother hwhole

/-- Writing a glyph changes one row from its column on, which stays open after it. -/
theorem Frame.writes_place (hpaired : frame.WellPaired) (hopen : frame.OpenFrom x y)
    (hdrawn : cell.IsDrawn) (hx : x + cell.width ≤ frame.width) :
    frame.Writes (frame.place x y cell) y x (x + cell.width) := by
  by_cases hy : y < frame.height
  · have hget := Frame.get?_place hdrawn hx hy
    refine ⟨by simp, by simp, ?_, Frame.wellPaired_place hpaired hopen hdrawn hx hy, ?_⟩
    · intro column row hother
      rw [hget, if_neg]
      omega
    · intro column other hcolumn hcell
      rw [hget, if_neg (by omega)] at hcell
      exact hopen column other (by omega) hcell
  · rw [Frame.place_of_not_lt hy]
    exact .refl hpaired hopen (Nat.le_add_right _ _)

end Writes

/-! ### Texts and spans -/

section Fitting

variable {width column : Nat} {style : Style} {c : Char}

/-- The first glyph that does not fit ends the text, -/
@[simp]
theorem fitting_cons_of_lt
    (hbeyond : width < min (column + (Cell.styled c style).width) columnLimit)
    (rest : List Char) : fitting width column style (c :: rest) = [] :=
  if_pos hbeyond

/-- and one that does moves the rest on. -/
@[simp]
theorem fitting_cons_of_not_lt
    (hfits : ¬ width < min (column + (Cell.styled c style).width) columnLimit)
    (rest : List Char) :
    fitting width column style (c :: rest) =
      Cell.styled c style :: fitting width (column + (Cell.styled c style).width) style rest :=
  if_neg hfits

end Fitting

section Texts

variable {frame : Frame} {x y : Nat}

/-- Assumes: a frame whose columns can all be counted and told from the limit. A text written
where a row is open keeps the frame well paired and leaves the row open after it. -/
theorem Frame.writes_put (hlimit : frame.width < columnLimit) (hpaired : frame.WellPaired)
    (hopen : frame.OpenFrom x y) (text : List Char) (style : Style) :
    frame.Writes (frame.put x y text style) y x (x + frame.used x text style) := by
  unfold Frame.put Frame.used Frame.fittingText
  generalize hwidth : frame.width = width at hlimit
  induction text generalizing frame x with
  | nil => exact .refl hpaired hopen (Nat.le_refl _)
  | cons c rest ih =>
    by_cases hfull : width < min (x + (Cell.styled c style).width) columnLimit
    · rw [fitting_cons_of_lt hfull]
      exact .refl hpaired hopen (Nat.le_refl _)
    · rw [fitting_cons_of_not_lt hfull]
      have hdrawn : (Cell.styled c style).IsDrawn := ⟨c, style, rfl⟩
      have hfirst := Frame.writes_place hpaired hopen hdrawn (by omega)
      have hrest := ih hfirst.paired hfirst.opened (by simpa using hwidth)
      unfold columns
      rw [← Nat.add_assoc]
      exact hfirst.trans hrest (Nat.le_add_right _ _)

/-- The cells of a text are made from its characters. -/
theorem isDrawn_of_mem_fitting {cell : Cell} {width column : Nat} {style : Style}
    {text : List Char} (h : cell ∈ fitting width column style text) : cell.IsDrawn := by
  induction text generalizing column with
  | nil => cases h
  | cons c rest ih =>
    by_cases hfull : width < min (column + (Cell.styled c style).width) columnLimit
    · rw [fitting_cons_of_lt hfull] at h
      cases h
    · rw [fitting_cons_of_not_lt hfull] at h
      rcases List.mem_cons.mp h with rfl | hrest
      · exact ⟨c, style, rfl⟩
      · exact ih hrest

/-- No character takes more than two columns. -/
theorem columns_fitting_le (width column : Nat) (style : Style) (text : List Char) :
    columns (fitting width column style text) ≤ 2 * text.length := by
  induction text generalizing column with
  | nil => exact Nat.zero_le _
  | cons c rest ih =>
    by_cases hfull : width < min (column + (Cell.styled c style).width) columnLimit
    · rw [fitting_cons_of_lt hfull]
      exact Nat.zero_le _
    · have hdrawn : (Cell.styled c style).IsDrawn := ⟨c, style, rfl⟩
      have hwidth := hdrawn.width.2
      have hrest := ih (column + (Cell.styled c style).width)
      rw [fitting_cons_of_not_lt hfull, columns, List.length_cons]
      omega

theorem Cell.blank_isDrawn (style : Style) : (Cell.blank.withStyle style).IsDrawn := by
  have hblank : Cell.ofChar ' ' = .blank := by decide
  refine ⟨' ', style, ?_⟩
  rw [Cell.styled, hblank]

/-- Setting a narrow cell where a row is open keeps the frame well paired and the row open. -/
theorem Frame.writes_set {cell : Cell} {column : Nat} (hpaired : frame.WellPaired)
    (hopen : frame.OpenFrom x y) (hdrawn : cell.IsDrawn) (hnarrow : cell.width = 1)
    (hcolumn : x ≤ column) : frame.Writes (frame.set column y cell) y x x := by
  by_cases hin : column < frame.width ∧ y < frame.height
  · obtain ⟨hwidth, hheight⟩ := hin
    have hget : ∀ other row, (frame.set column y cell).get? other row =
        if other = column ∧ row = y then some cell else frame.get? other row :=
      fun _ _ ↦ Frame.get?_set hwidth hheight cell
    have hplace : frame.place column y cell = frame.set column y cell := if_neg (by omega)
    refine ⟨by simp, by simp, ?_, ?_, ?_⟩
    · intro other row hother
      rw [hget, if_neg]
      omega
    · rw [← hplace]
      exact Frame.wellPaired_place hpaired (hopen.mono hcolumn) hdrawn (by omega) hheight
    · intro other found hother hfound
      rw [hget] at hfound
      split at hfound
      · cases hfound
        exact hnarrow
      · exact hopen other found hother hfound
  · rw [Frame.set_of_not_lt hin]
    exact .refl hpaired hopen (Nat.le_refl _)

/-- A span of blanks written where a row is open keeps the frame well paired and the row open. -/
theorem Frame.writes_fill (hpaired : frame.WellPaired) (hopen : frame.OpenFrom x y) (width : Nat)
    (style : Style) : frame.Writes (frame.fill x y width style) y x x := by
  unfold Frame.fill
  have hfrom : ∀ column ∈ List.range' x (min (x + width) frame.width - x), x ≤ column :=
    fun column hcolumn ↦ (List.mem_range'_1.mp hcolumn).1
  generalize List.range' x (min (x + width) frame.width - x) = span at hfrom
  induction span generalizing frame with
  | nil => exact .refl hpaired hopen (Nat.le_refl _)
  | cons column rest ih =>
    have hfirst := Frame.writes_set hpaired hopen (Cell.blank_isDrawn style) rfl
      (hfrom column List.mem_cons_self)
    have hrest := ih hfirst.paired hfirst.opened fun other hother ↦
      hfrom other (List.mem_cons_of_mem _ hother)
    exact hfirst.trans hrest (Nat.le_refl _)

theorem Frame.openFrom_blank (width height x y : Nat) :
    (Frame.blank width height).OpenFrom x y := by
  intro column cell _ hcell
  rw [Frame.get?_blank hcell]
  rfl

/-- A blank frame is well paired. -/
theorem Frame.wellPaired_blank (width height : Nat) : (Frame.blank width height).WellPaired := by
  refine ⟨?_, ?_, ?_⟩
  · intro column row cell hcell hwide
    rw [Frame.get?_blank hcell] at hwide
    cases hwide
  · intro column row cell hcell hcontinuation
    rw [Frame.get?_blank hcell] at hcontinuation
    cases hcontinuation
  · intro column row cell hcell _
    rw [Frame.get?_blank hcell]
    exact Cell.blank_isDrawn .plain

end Texts

end LiveBoard.Screen
