import LiveBoard.Proofs.Screen.Overwriting

/-!
# Column numbers

Columns are counted in sixteen bits. `Frame.countedPut?` and `Frame.countedFill?` write texts and
spans step by step, with every sum and difference of column numbers made in sixteen bits, and give
nothing where one of them does not fit. They do what `Frame.put?` and `Frame.fill` say
(`Frame.countedPut?_eq`, `Frame.countedFill?_eq`).

Spans and texts in rows of fewer than `columnLimit` columns never leave the sixteen bits. In a row
of exactly that many no text is clipped, because a sum that is cut to the largest number does not
exceed it; there a text that is longer than the rest of the row leaves them
(`Frame.countedPut?_eq_none_iff`). Where no sum leaves them, all columns of all glyphs written lie
inside the row (`Frame.columns_counted`).
-/

set_option autoImplicit false
set_option relaxedAutoImplicit false

namespace LiveBoard.Screen

/-! ### Sums and differences -/

/-- The sum of two column numbers, none where it is beyond the largest one. -/
def columnSum? (first second : UInt16) : Option UInt16 :=
  if columnLimit < first.toNat + second.toNat then none else some (first + second)

/-- The difference of two column numbers, none where the second one is the larger one. -/
def columnDifference? (first second : UInt16) : Option UInt16 :=
  if first < second then none else some (first - second)

/-- The sum of two column numbers, cut to the largest one. -/
def cutColumnSum (first second : UInt16) : UInt16 := (columnSum? first second).getD 65535

section Sums

variable {first second : UInt16}

theorem toNat_add_of_le (h : first.toNat + second.toNat ≤ columnLimit) :
    (first + second).toNat = first.toNat + second.toNat := by
  rw [UInt16.toNat_add]
  exact Nat.mod_eq_of_lt (Nat.lt_succ_of_le h)

theorem columnSum?_of_le (h : first.toNat + second.toNat ≤ columnLimit) :
    columnSum? first second = some (first + second) :=
  if_neg (Nat.not_lt_of_le h)

theorem columnSum?_of_lt (h : columnLimit < first.toNat + second.toNat) :
    columnSum? first second = none :=
  if_pos h

theorem toNat_cutColumnSum (first second : UInt16) :
    (cutColumnSum first second).toNat = min (first.toNat + second.toNat) columnLimit := by
  unfold cutColumnSum
  by_cases h : first.toNat + second.toNat ≤ columnLimit
  · rw [columnSum?_of_le h, Nat.min_eq_left h]
    exact toNat_add_of_le h
  · rw [columnSum?_of_lt (Nat.lt_of_not_le h), Nat.min_eq_right (Nat.le_of_not_le h)]
    rfl

theorem toNat_le_columnLimit (column : UInt16) : column.toNat ≤ columnLimit :=
  Nat.le_of_lt_succ column.toNat_lt

/-- The difference of a column number and one from which it was counted on. -/
theorem columnDifference?_of_eq {used : Nat} (hlimit : first.toNat + used ≤ columnLimit) :
    columnDifference? (first.toNat + used).toUInt16 first = some used.toUInt16 := by
  have hstop : (first.toNat + used).toUInt16.toNat = first.toNat + used :=
    UInt16.toNat_ofNat_of_lt' (Nat.lt_succ_of_le hlimit)
  have hle : first ≤ (first.toNat + used).toUInt16 := by
    rw [UInt16.le_iff_toNat_le, hstop]
    exact Nat.le_add_right _ _
  unfold columnDifference?
  rw [if_neg (UInt16.not_lt.mpr hle), Option.some.injEq, ← UInt16.toNat_inj,
    UInt16.toNat_sub_of_le _ _ hle, hstop, Nat.add_sub_cancel_left]
  exact (UInt16.toNat_ofNat_of_lt' (Nat.lt_succ_of_le (Nat.le_of_add_left_le hlimit))).symm

end Sums

/-! ### Counted texts -/

/-- The frame with a glyph written, none where its right half has no column number. -/
def Frame.countedPlace? (frame : Frame) (column y : UInt16) (cell : Cell) : Option Frame :=
  let left := frame.set column.toNat y.toNat cell
  if cell.width = 2 then
    (columnSum? column 1).map fun right ↦
      left.set right.toNat y.toNat (.continuation cell.style)
  else some left

/-- The frame with a text written from a column on, and the column after it. -/
def Frame.countedRun? (frame : Frame) (column y : UInt16) (style : Style) :
    List Char → Option (Frame × UInt16)
  | [] => some (frame, column)
  | c :: rest =>
    let cell := Cell.styled c style
    let width := cell.width.toUInt16
    if frame.width < (cutColumnSum column width).toNat then some (frame, column)
    else
      (frame.countedPlace? column y cell).bind fun placed ↦
        (columnSum? column width).bind fun next ↦ placed.countedRun? next y style rest

/-- The frame with a text written from a column on, and the number of columns it takes, none where a
column has no number. -/
def Frame.countedPut? (frame : Frame) (x y : UInt16) (text : List Char) (style : Style) :
    Option (Frame × UInt16) :=
  (frame.countedRun? x y style text).bind fun (drawn, stop) ↦
    (columnDifference? stop x).map fun used ↦ (drawn, used)

section Texts

variable {frame : Frame} {y : UInt16} {style : Style}

theorem toNat_width (c : Char) (style : Style) :
    (Cell.styled c style).width.toUInt16.toNat = (Cell.styled c style).width := by
  have hdrawn : (Cell.styled c style).IsDrawn := ⟨c, style, rfl⟩
  refine UInt16.toNat_ofNat_of_lt' (Nat.lt_of_le_of_lt ?_ (by decide : 2 < UInt16.size))
  rcases hdrawn.width.2 with hnarrow | hwide
  · exact hnarrow ▸ Nat.le_succ 1
  · exact Nat.le_of_eq hwide

theorem Frame.countedPlace?_of_le {cell : Cell} {column : UInt16}
    (h : column.toNat + cell.width ≤ columnLimit) :
    frame.countedPlace? column y cell = some (frame.place column.toNat y.toNat cell) := by
  unfold Frame.countedPlace? Frame.place
  split_ifs with hwide
  · have hright : column.toNat + (1 : UInt16).toNat ≤ columnLimit := by
      rw [hwide] at h
      exact Nat.le_of_succ_le h
    rw [columnSum?_of_le hright, Option.map_some, toNat_add_of_le hright]
    rfl
  · rfl

/-- Assumes: columns that all have a number. A text is written as long as its columns have one. -/
theorem Frame.countedRun?_eq (hwidth : frame.width ≤ columnLimit) (column : UInt16)
    (text : List Char) :
    frame.countedRun? column y style text =
      let cells := fitting frame.width column.toNat style text
      if columnLimit < column.toNat + columns cells then none
      else some (frame.placeAll column.toNat y.toNat cells,
        (column.toNat + columns cells).toUInt16) := by
  have hdone : ∀ (frame : Frame) (column : UInt16), some (frame, column) =
      if columnLimit < column.toNat + columns [] then none
      else some (frame.placeAll column.toNat y.toNat [],
        (column.toNat + columns []).toUInt16) := by
    intro frame column
    rw [show column.toNat + columns [] = column.toNat from rfl,
      if_neg (Nat.not_lt_of_le (toNat_le_columnLimit column))]
    exact congrArg (fun stop ↦ some (frame, stop)) UInt16.ofNat_toNat.symm
  induction text generalizing frame column with
  | nil => exact hdone frame column
  | cons c rest ih =>
    unfold Frame.countedRun? fitting
    dsimp only
    have hcell := toNat_width c style
    generalize Cell.styled c style = cell at hcell ⊢
    rw [toNat_cutColumnSum, hcell]
    by_cases hfull : frame.width < min (column.toNat + cell.width) columnLimit
    · rw [if_pos hfull, if_pos hfull]
      exact hdone frame column
    · rw [if_neg hfull, if_neg hfull]
      by_cases hfits : column.toNat + cell.width ≤ columnLimit
      · have hsum : column.toNat + cell.width.toUInt16.toNat ≤ columnLimit := by rwa [hcell]
        rw [Frame.countedPlace?_of_le hfits, Option.bind_some, columnSum?_of_le hsum,
          Option.bind_some, ih (by rwa [Frame.width_place]), toNat_add_of_le hsum, hcell,
          Frame.width_place]
        dsimp only
        rw [columns, Frame.placeAll, ← Nat.add_assoc]
      · have hover : columnLimit < column.toNat + cell.width.toUInt16.toNat := by
          rw [hcell]
          exact Nat.lt_of_not_le hfits
        rw [columnSum?_of_lt hover, if_pos]
        · cases frame.countedPlace? column y cell <;> rfl
        · rw [columns]
          omega

/-- Counting columns in sixteen bits refuses the texts that overrun, and writes the others. -/
theorem Frame.countedPut?_eq (hwidth : frame.width ≤ columnLimit) (x : UInt16)
    (text : List Char) :
    frame.countedPut? x y text style =
      (frame.put? x.toNat y.toNat text style).map fun (drawn, used) ↦ (drawn, used.toUInt16) := by
  unfold Frame.countedPut? Frame.put? Frame.overruns
  rw [Frame.countedRun?_eq hwidth]
  change Option.bind (if columnLimit < x.toNat + frame.used x.toNat text style then none
    else some (frame.put x.toNat y.toNat text style,
      (x.toNat + frame.used x.toNat text style).toUInt16)) _ = _
  by_cases hover : columnLimit < x.toNat + frame.used x.toNat text style
  · rw [if_pos hover, if_pos (decide_eq_true hover)]
    rfl
  · rw [if_neg hover, if_neg (by simpa using hover), Option.bind_some]
    dsimp only
    rw [columnDifference?_of_eq (Nat.le_of_not_lt hover)]
    rfl

end Texts

/-! ### Counted spans -/

/-- The frame with a number of blanks written from a column on, none where a column has no
number. -/
def Frame.countedSpan? (frame : Frame) (column y : UInt16) (style : Style) : Nat → Option Frame
  | 0 => some frame
  | count + 1 =>
    (columnSum? column 1).bind fun next ↦
      (frame.set column.toNat y.toNat (Cell.blank.withStyle style)).countedSpan? next y style count

/-- The frame with a span of a row blanked, none where a column has no number. -/
def Frame.countedFill? (frame : Frame) (x y count : UInt16) (style : Style) : Option Frame :=
  frame.countedSpan? x y style (min (cutColumnSum x count).toNat frame.width - x.toNat)

section Spans

variable {frame : Frame} {y : UInt16} {style : Style}

/-- Assumes: columns up to the last one that all have a number. -/
theorem Frame.countedSpan?_eq {column : UInt16} {count : Nat}
    (h : column.toNat + count ≤ columnLimit) :
    frame.countedSpan? column y style count =
      some ((List.range' column.toNat count).foldl
        (fun frame column ↦ frame.set column y.toNat (Cell.blank.withStyle style)) frame) := by
  induction count generalizing frame column with
  | zero => rfl
  | succ count ih =>
    have hone : column.toNat + (1 : UInt16).toNat ≤ columnLimit := by
      change column.toNat + 1 ≤ columnLimit
      omega
    have hnext : (column + 1).toNat = column.toNat + 1 := toNat_add_of_le hone
    rw [Frame.countedSpan?, columnSum?_of_le hone, Option.bind_some, ih (by omega), hnext]
    rfl

/-- Counting columns in sixteen bits fills every span. -/
theorem Frame.countedFill?_eq (hwidth : frame.width ≤ columnLimit) (x count : UInt16) :
    frame.countedFill? x y count style = some (frame.fill x.toNat y.toNat count.toNat style) := by
  have hstop : min (cutColumnSum x count).toNat frame.width =
      min (x.toNat + count.toNat) frame.width := by
    rw [toNat_cutColumnSum, Nat.min_assoc, Nat.min_eq_right hwidth]
  have hx := toNat_le_columnLimit x
  unfold Frame.countedFill?
  rw [hstop]
  exact Frame.countedSpan?_eq (by omega)

end Spans

/-! ### Texts in rows -/

/-- The glyphs of a text in a style. -/
def glyphs (style : Style) (text : List Char) : List Cell := text.map (Cell.styled · style)

/-- The part of a text that is written into a row from a column on. -/
structure Frame.Keeps (frame : Frame) (x : Nat) (style : Style) (text kept : List Char) :
    Prop where
  /-- It is the first part of the text. -/
  initial : kept <+: text
  /-- All columns of all its glyphs lie inside the row. -/
  inside : ∀ before c after, kept = before ++ c :: after →
    x + columns (glyphs style before) + (Cell.styled c style).width ≤ frame.width
  /-- The next glyph would not lie inside the row. -/
  clipped : ∀ c after, text = kept ++ c :: after →
    frame.width < x + columns (glyphs style kept) + (Cell.styled c style).width

section Rows

variable {frame : Frame} {style : Style}

@[simp]
theorem columns_append (cells others : List Cell) :
    columns (cells ++ others) = columns cells + columns others := by
  induction cells with
  | nil => exact (Nat.zero_add _).symm
  | cons cell rest ih => rw [List.cons_append, columns, columns, ih, Nat.add_assoc]

/-- Where no sum is beyond the width of the row, no text is clipped. -/
theorem fitting_of_full {width : Nat} (h : columnLimit ≤ width) (column : Nat)
    (text : List Char) : fitting width column style text = glyphs style text := by
  induction text generalizing column with
  | nil => rfl
  | cons c rest ih =>
    rw [fitting_cons_of_not_lt (Nat.not_lt_of_le (Nat.le_trans (Nat.min_le_right _ _) h)), ih]
    rfl

/-- A text is written up to the first glyph that does not fit. -/
theorem exists_fitting (width column : Nat) (style : Style) (text : List Char) :
    ∃ kept, kept <+: text ∧ fitting width column style text = glyphs style kept ∧
      ∀ c after, text = kept ++ c :: after →
        width < column + columns (glyphs style kept) + (Cell.styled c style).width := by
  induction text generalizing column with
  | nil => exact ⟨[], List.prefix_rfl, rfl, nofun⟩
  | cons c rest ih =>
    by_cases hfull : width < min (column + (Cell.styled c style).width) columnLimit
    · refine ⟨[], List.nil_prefix, fitting_cons_of_lt hfull rest, ?_⟩
      intro first after hsplit
      obtain ⟨rfl, -⟩ := List.cons.inj hsplit
      exact Nat.lt_of_lt_of_le hfull (Nat.min_le_left _ _)
    · obtain ⟨kept, hinitial, hkept, hclipped⟩ := ih (column + (Cell.styled c style).width)
      refine ⟨c :: kept, List.cons_prefix_cons.mpr ⟨rfl, hinitial⟩, ?_, ?_⟩
      · rw [fitting_cons_of_not_lt hfull, hkept]
        rfl
      · intro next after hsplit
        have hnext := hclipped next after (List.cons.inj hsplit).2
        change width < column + ((Cell.styled c style).width + columns (glyphs style kept)) + _
        rwa [← Nat.add_assoc column]

/-- A text overruns only in a row of the largest width. -/
theorem Frame.overruns_iff (hwidth : frame.width ≤ columnLimit) {x : Nat} (hx : x ≤ columnLimit)
    (text : List Char) :
    frame.overruns x text style = true ↔
      frame.width = columnLimit ∧ columnLimit < x + columns (glyphs style text) := by
  unfold Frame.overruns Frame.used Frame.fittingText
  rw [decide_eq_true_iff]
  rcases Nat.lt_or_eq_of_le hwidth with hless | hfull
  · have hstop := columns_fitting_le_width hless x style text
    refine iff_of_false ?_ (fun h ↦ Nat.ne_of_lt hless h.1)
    omega
  · rw [fitting_of_full (Nat.le_of_eq hfull.symm)]
    exact (and_iff_right hfull).symm

/-- Assumes: a text that does not overrun. It is written up to the right edge at most. -/
theorem Frame.used_le (hwidth : frame.width ≤ columnLimit) {x : Nat} {text : List Char}
    (hover : frame.overruns x text style = false) :
    x + frame.used x text style ≤ max x frame.width := by
  rcases Nat.lt_or_eq_of_le hwidth with hless | hfull
  · exact columns_fitting_le_width hless x style text
  · unfold Frame.overruns at hover
    have hstop := Nat.le_of_not_lt (of_decide_eq_false hover)
    exact Nat.le_trans (hfull ▸ hstop) (Nat.le_max_right _ _)

/-- What is written of a text that does not overrun. -/
theorem Frame.exists_keeps (hwidth : frame.width ≤ columnLimit) {x : Nat} {text : List Char}
    (hover : frame.overruns x text style = false) :
    ∃ kept, frame.Keeps x style text kept ∧
      frame.fittingText x text style = glyphs style kept := by
  obtain ⟨kept, hinitial, hkept, hclipped⟩ := exists_fitting frame.width x style text
  refine ⟨kept, ⟨hinitial, ?_, hclipped⟩, hkept⟩
  intro before c after hsplit
  have hstop := Frame.used_le hwidth hover
  unfold Frame.used Frame.fittingText at hstop
  have hcolumns : columns (glyphs style kept) = columns (glyphs style before) +
      ((Cell.styled c style).width + columns (glyphs style after)) := by
    rw [hsplit, glyphs, List.map_append, columns_append]
    rfl
  have hdrawn : (Cell.styled c style).IsDrawn := ⟨c, style, rfl⟩
  have hpositive := hdrawn.width.2
  rw [hkept, hcolumns] at hstop
  omega

/-- Writing a text leaves the column numbers exactly in a row of the largest width that the text
overruns. -/
theorem Frame.countedPut?_eq_none_iff (hwidth : frame.width ≤ columnLimit) (x y : UInt16)
    (text : List Char) :
    frame.countedPut? x y text style = none ↔
      frame.width = columnLimit ∧ columnLimit < x.toNat + columns (glyphs style text) := by
  rw [Frame.countedPut?_eq hwidth, Option.map_eq_none_iff, Frame.put?,
    ← Frame.overruns_iff hwidth (toNat_le_columnLimit x)]
  simp

/-- The cells of a frame whose sides are column numbers have a place of thirty-two bits. -/
theorem Frame.indexOf?_lt (hwidth : frame.width ≤ columnLimit)
    (hheight : frame.height ≤ columnLimit) {column row index : Nat} (h : frame.indexOf? column row = some index) :
    index < Nat.pow 2 32 := by
  unfold Frame.indexOf? at h
  split_ifs at h with hinside
  obtain ⟨hcolumn, hrow⟩ := hinside
  rw [Option.some.injEq] at h
  have hrows : (row + 1) * frame.width ≤ columnLimit * columnLimit :=
    Nat.mul_le_mul (Nat.le_trans hrow hheight) hwidth
  have hlimit : columnLimit * columnLimit < Nat.pow 2 32 := by decide
  rw [Nat.succ_mul] at hrows
  omega

end Rows

/-! ### Columns in sixteen bits -/

/-- Assumes: a frame whose sides are column numbers.

Counting columns in sixteen bits gives a frame and a number of columns for every text, except in a
row of the largest width that the text overruns. What it gives is the text up to the right edge:
the glyphs all of whose columns lie inside the row, and the number of these columns. It gives a
frame for every span, and all places of cells have thirty-two bits. -/
theorem Frame.columns_counted {frame : Frame} (hwidth : frame.width ≤ columnLimit)
    (hheight : frame.height ≤ columnLimit) (x y : UInt16) (style : Style) :
    (∀ text, frame.countedPut? x y text style = none ↔
      frame.width = columnLimit ∧ columnLimit < x.toNat + columns (glyphs style text)) ∧
    (∀ text drawn used, frame.countedPut? x y text style = some (drawn, used) →
      used.toNat ≤ frame.width - x.toNat ∧
      ∃ kept, frame.Keeps x.toNat style text kept ∧
        drawn = frame.placeAll x.toNat y.toNat (glyphs style kept) ∧
        used.toNat = columns (glyphs style kept)) ∧
    (∀ count, frame.countedFill? x y count style =
      some (frame.fill x.toNat y.toNat count.toNat style)) ∧
    ∀ column row index, frame.indexOf? column row = some index → index < Nat.pow 2 32 := by
  refine ⟨Frame.countedPut?_eq_none_iff hwidth x y, ?_, Frame.countedFill?_eq hwidth x,
    fun _ _ _ ↦ Frame.indexOf?_lt hwidth hheight⟩
  intro text drawn used hput
  rw [Frame.countedPut?_eq hwidth, Option.map_eq_some_iff] at hput
  obtain ⟨⟨written, length⟩, hput, hpair⟩ := hput
  unfold Frame.put? at hput
  split_ifs at hput with hover
  rw [Bool.not_eq_true] at hover
  obtain ⟨rfl, rfl⟩ := Prod.mk.inj (Option.some.inj hput)
  obtain ⟨rfl, rfl⟩ := Prod.mk.inj hpair
  have hstop := Frame.used_le hwidth hover
  have hx := toNat_le_columnLimit x
  have hlimit : frame.used x.toNat text style ≤ columnLimit := by omega
  have hused : (frame.used x.toNat text style).toUInt16.toNat = frame.used x.toNat text style :=
    UInt16.toNat_ofNat_of_lt' (Nat.lt_succ_of_le hlimit)
  obtain ⟨kept, hkeeps, hkept⟩ := Frame.exists_keeps hwidth hover
  refine ⟨by omega, kept, hkeeps, ?_, ?_⟩
  · rw [Frame.put, hkept]
  · rw [hused, Frame.used, hkept]

/-- The statement for a row of four columns, of which a narrow glyph takes the third one and a wide
one does not fit. -/
theorem Frame.columns_counted_four :
    (Frame.blank 4 1).width ≤ columnLimit ∧ (Frame.blank 4 1).height ≤ columnLimit ∧
      ∃ drawn, (Frame.blank 4 1).countedPut? 2 0 ['a', '日'] .plain = some (drawn, 1) ∧
        (1 : UInt16).toNat ≤ (Frame.blank 4 1).width - (2 : UInt16).toNat := by
  have hwidth : (Frame.blank 4 1).width ≤ columnLimit := by decide
  have hheight : (Frame.blank 4 1).height ≤ columnLimit := by decide
  have hput : (Frame.blank 4 1).countedPut? 2 0 ['a', '日'] .plain =
      some ((Frame.blank 4 1).put 2 0 ['a', '日'] .plain, 1) := by
    have hover : ¬ (Frame.blank 4 1).overruns 2 ['a', '日'] .plain := by decide +kernel
    have hused : (Frame.blank 4 1).used 2 ['a', '日'] .plain = 1 := by decide +kernel
    rw [Frame.countedPut?_eq hwidth]
    change ((Frame.blank 4 1).put? 2 0 ['a', '日'] .plain).map _ = _
    rw [Frame.put?, if_neg hover, hused]
    rfl
  obtain ⟨-, hdrawn, -, -⟩ := Frame.columns_counted hwidth hheight 2 0 .plain
  exact ⟨hwidth, hheight, _, hput, (hdrawn _ _ _ hput).1⟩

/-- A narrow glyph after the last column of a row of the largest width, and a wide one in its last
column, are not clipped, and the column after them has no number. -/
theorem Frame.last_column_overflows :
    (Frame.blank columnLimit 1).countedPut? 65535 0 ['a'] .plain = none ∧
      (Frame.blank columnLimit 1).countedPut? 65534 0 ['日'] .plain = none :=
  ⟨(Frame.countedPut?_eq_none_iff (Nat.le_refl _) 65535 0 ['a']).mpr
      ⟨rfl, by decide +kernel⟩,
    (Frame.countedPut?_eq_none_iff (Nat.le_refl _) 65534 0 ['日']).mpr
      ⟨rfl, by decide +kernel⟩⟩

end LiveBoard.Screen
