import LiveBoard.Proofs.Screen.ColumnNumbers
import LiveBoard.Proofs.Text.Trimming

/-!
# Written texts

A text is shown character by character: one that cannot fill a cell is shown as a blank, a wide one
takes two columns, and every other takes one (`shownAs`, `shownWidth`). Writing a text from a column
on writes the longest first part of it whose columns fit into the rest of the row
(`LongestFitting`): the cells of that part (`textCells`) go into the columns from there on, and no
other cell of the frame changes. The row of a frame written into so is the row before with a piece
exchanged (`Frame.rowCells_placeAll`), and where it was blank it reads as blanks and that part of
the text, without the white space at its end (`Frame.put_longest`).
-/

set_option autoImplicit false
set_option relaxedAutoImplicit false

namespace LiveBoard.Screen

/-! ### Shown texts -/

/-- The character that stands for a character of a text. -/
def shownAs (c : Char) : Char := if glyphWidth c = 0 then ' ' else c

/-- The number of columns it takes. -/
def shownWidth (c : Char) : Nat := if glyphWidth c = 2 then 2 else 1

/-- The number of columns of a text. -/
def textColumns : List Char → Nat
  | [] => 0
  | c :: rest => shownWidth c + textColumns rest

/-- The cells of a text, each wide character followed by a continuation. -/
def textCells (style : Style) (text : List Char) : List Cell :=
  text.flatMap fun c ↦
    if shownWidth c = 2 then [⟨shownAs c, 2, style⟩, .continuation style]
    else [⟨shownAs c, 1, style⟩]

/-- The longest first part of a text that has no more than a number of columns. -/
structure LongestFitting (room : Nat) (text kept : List Char) : Prop where
  /-- It is a first part of the text. -/
  initial : kept <+: text
  /-- It has no more than these columns. -/
  fits : textColumns kept ≤ room
  /-- No other first part that has no more than these columns is longer. -/
  longest : ∀ other, other <+: text → textColumns other ≤ room → other <+: kept

section Shown

variable {room : Nat} {text kept : List Char}

theorem shownWidth_pos (c : Char) : 0 < shownWidth c := by
  unfold shownWidth
  split_ifs
  · exact Nat.zero_lt_two
  · exact Nat.one_pos

@[simp]
theorem textColumns_append (first second : List Char) :
    textColumns (first ++ second) = textColumns first + textColumns second := by
  induction first with
  | nil => exact (Nat.zero_add _).symm
  | cons c rest ih => rw [List.cons_append, textColumns, ih, textColumns, Nat.add_assoc]

/-- The cell of a character holds what stands for it. -/
theorem styled_eq (c : Char) (style : Style) :
    Cell.styled c style = ⟨shownAs c, shownWidth c, style⟩ := by
  have hlimit := glyphWidth_le_two c
  unfold Cell.styled Cell.ofChar shownAs shownWidth
  by_cases hzero : glyphWidth c = 0
  · rw [if_pos hzero, if_pos hzero, hzero]
    rfl
  · rw [if_neg hzero, if_neg hzero]
    by_cases hwide : glyphWidth c = 2
    · rw [if_pos hwide, hwide]
      rfl
    · rw [if_neg hwide, show glyphWidth c = 1 by omega]
      rfl

theorem isDrawn_glyphs (style : Style) (text : List Char) :
    ∀ cell ∈ glyphs style text, cell.IsDrawn := by
  intro cell hcell
  obtain ⟨c, -, rfl⟩ := List.mem_map.mp hcell
  exact ⟨c, style, rfl⟩

@[simp]
theorem columns_glyphs (style : Style) (text : List Char) :
    columns (glyphs style text) = textColumns text := by
  induction text with
  | nil => rfl
  | cons c rest ih =>
    rw [textColumns, ← ih, glyphs, List.map_cons, columns, styled_eq]
    rfl

@[simp]
theorem flatMap_span_glyphs (style : Style) (text : List Char) :
    (glyphs style text).flatMap Cell.span = textCells style text := by
  rw [glyphs, List.flatMap_map, textCells]
  congr 1
  funext c
  rw [styled_eq, Cell.span]
  by_cases hwide : shownWidth c = 2
  · rw [if_pos hwide, if_pos hwide, hwide]
  · have hnarrow : shownWidth c = 1 := (ite_eq_or_eq _ _ _).resolve_left hwide
    rw [if_neg hwide, if_neg hwide, hnarrow]

/-- Assumes: a first part of a text that fits, after which no character does. It is the longest
one. -/
theorem LongestFitting.of_clipped (hinitial : kept <+: text) (hfits : textColumns kept ≤ room)
    (hclipped : ∀ c after, text = kept ++ c :: after → room < textColumns kept + shownWidth c) :
    LongestFitting room text kept where
  initial := hinitial
  fits := hfits
  longest other hother hroom := by
    rcases List.prefix_or_prefix_of_prefix hinitial hother with ⟨rest, hrest⟩ | hshort
    · cases rest with
      | nil =>
        rw [List.append_nil] at hrest
        exact hrest ▸ List.prefix_rfl
      | cons c rest =>
        obtain ⟨after, hafter⟩ := hother
        have hnext := hclipped c (rest ++ after) (by
          rw [← hafter, ← hrest, List.append_assoc, List.cons_append])
        rw [← hrest, textColumns_append, textColumns] at hroom
        omega
    · exact hshort

/-- What is written of a text is the longest part of it that fits. -/
theorem exists_longestFitting {width : Nat} (hlimit : width < columnLimit) (x : Nat)
    (style : Style) (text : List Char) :
    ∃ kept, LongestFitting (width - x) text kept ∧
      fitting width x style text = glyphs style kept := by
  obtain ⟨kept, hinitial, hkept, hclipped⟩ := exists_fitting width x style text
  have hstop := columns_fitting_le_width hlimit x style text
  rw [hkept, columns_glyphs] at hstop
  refine ⟨kept, .of_clipped hinitial (by omega) ?_, hkept⟩
  intro c after hsplit
  have hnext := hclipped c after hsplit
  have hpositive := shownWidth_pos c
  rw [columns_glyphs, styled_eq] at hnext
  dsimp only at hnext
  omega

end Shown

/-! ### Rows -/

/-- The characters of a run of cells. -/
def characters (cells : List Cell) : List Char :=
  (cells.filter fun cell ↦ !cell.isContinuation).map Cell.glyph

/-- The cells are blanks, in whatever styles. -/
def Blanks (cells : List Cell) : Prop := ∀ cell ∈ cells, ∃ style, cell = Cell.blank.withStyle style

section Rows

variable {frame : Frame} {x y : Nat} {cells : List Cell}

@[simp]
theorem characters_append (first second : List Cell) :
    characters (first ++ second) = characters first ++ characters second := by
  unfold characters
  rw [List.filter_append, List.map_append]

theorem characters_blanks (h : Blanks cells) :
    characters cells = List.replicate cells.length ' ' := by
  induction cells with
  | nil => rfl
  | cons cell rest ih =>
    obtain ⟨⟨style, rfl⟩, hrest⟩ := List.forall_mem_cons.mp h
    exact congrArg (' ' :: ·) (ih hrest)

/-- The cells of a text hold its characters as they are shown. -/
@[simp]
theorem characters_textCells (style : Style) (text : List Char) :
    characters (textCells style text) = text.map shownAs := by
  induction text with
  | nil => rfl
  | cons c rest ih =>
    rw [textCells, List.flatMap_cons, characters_append, ← textCells, ih, List.map_cons]
    split_ifs <;> rfl

/-- Blanks behind a text are trimmed. -/
@[simp]
theorem trimEnd_append_blanks (text : List Char) (count : Nat) :
    Text.trimEnd (text ++ List.replicate count ' ') = Text.trimEnd text := by
  refine Text.trimEnd_append fun c hc ↦ ?_
  rw [List.eq_of_mem_replicate hc]
  decide

/-- Assumes: glyphs that fit into a row from a column of it on. Writing them exchanges a piece of
the row. -/
theorem Frame.rowCells_placeAll (hdrawn : ∀ cell ∈ cells, cell.IsDrawn)
    (hfits : x + columns cells ≤ frame.width) (hy : y < frame.height) :
    (frame.placeAll x y cells).rowCells y =
      (frame.rowCells y).take x ++ cells.flatMap Cell.span ++
        (frame.rowCells y).drop (x + columns cells) := by
  have hheight : y < (frame.placeAll x y cells).height :=
    (frame.size_placeAll x y cells).2 ▸ hy
  have hfront : ((frame.rowCells y).take x).length = x := by
    rw [List.length_take, Frame.length_rowCells hy]
    omega
  have hspan := length_flatMap_span hdrawn
  refine List.ext_getElem? fun column ↦ ?_
  rw [Frame.getElem?_rowCells hheight,
    Frame.get?_placeAll hdrawn (Nat.le_trans hfits (Nat.le_max_right _ _)) hy]
  rcases Nat.lt_or_ge column x with hbefore | hfrom
  · rw [if_neg (by omega), List.append_assoc, List.getElem?_append_left (by omega),
      List.getElem?_take_of_lt hbefore, Frame.getElem?_rowCells hy]
  · rcases Nat.lt_or_ge column (x + columns cells) with hinside | hafter
    · rw [if_pos ⟨rfl, hfrom, hinside⟩, List.append_assoc,
        List.getElem?_append_right (by omega), hfront, List.getElem?_append_left (by omega)]
    · rw [if_neg (by omega), List.getElem?_append_right (by
          rw [List.length_append]
          omega), List.length_append, hfront, hspan, List.getElem?_drop,
        Nat.add_sub_cancel' hafter, Frame.getElem?_rowCells hy]

/-- Assumes: a text that fits into a blank row from a column of it on. The row reads as blanks and
that text. -/
theorem Frame.rowText_placeAll (hblank : Blanks (frame.rowCells y)) {style : Style}
    {text : List Char} (hfits : x + textColumns text ≤ frame.width) (hy : y < frame.height) :
    (frame.placeAll x y (glyphs style text)).rowText y =
      Text.trimEnd (List.replicate x ' ' ++ text.map shownAs) := by
  have hfront : ((frame.rowCells y).take x).length = x := by
    rw [List.length_take, Frame.length_rowCells hy]
    omega
  rw [Frame.rowText, if_pos ((frame.size_placeAll x y _).2 ▸ hy),
    Frame.rowCells_placeAll (isDrawn_glyphs style text) (by rwa [columns_glyphs]) hy]
  change Text.trimEnd (characters _) = _
  rw [characters_append, characters_append, flatMap_span_glyphs, characters_textCells,
    characters_blanks fun cell hcell ↦ hblank cell (List.mem_of_mem_take hcell),
    characters_blanks fun cell hcell ↦ hblank cell (List.mem_of_mem_drop hcell),
    trimEnd_append_blanks, hfront]

theorem Frame.rowText_of_blanks (hblank : Blanks (frame.rowCells y)) (hy : y < frame.height) :
    frame.rowText y = [] := by
  rw [Frame.rowText, if_pos hy]
  change Text.trimEnd (characters _) = _
  rw [characters_blanks hblank]
  exact trimEnd_append_blanks [] _

/-- All rows of a new frame are blank. -/
theorem blanks_rowCells {width height : Nat} (hy : y < height) :
    Blanks ((Frame.blank width height).rowCells y) := by
  intro cell hcell
  obtain ⟨column, hcolumn⟩ := List.getElem?_of_mem hcell
  rw [Frame.getElem?_rowCells hy] at hcolumn
  exact ⟨.plain, Frame.get?_blank hcolumn⟩

end Rows

/-! ### Writing and reading back -/

/-- Assumes: a frame whose columns can all be told from the limit, and a row of it.

Writing a text from any column on writes the longest first part of it whose columns fit into the
rest of the row, tells the number of its columns, and changes no other cell. In a row of blanks that
part is read back behind as many blanks as there are columns before it. -/
theorem Frame.put_longest {frame : Frame} {y : Nat} (hlimit : frame.width < columnLimit)
    (hy : y < frame.height) (x : UInt16) (text : List Char) (style : Style) :
    ∃ kept drawn, LongestFitting (frame.width - x.toNat) text kept ∧
      frame.put? x.toNat y text style = some (drawn, textColumns kept) ∧
      drawn.width = frame.width ∧ drawn.height = frame.height ∧
      (∀ column row, drawn.get? column row =
        if row = y ∧ x.toNat ≤ column ∧ column < x.toNat + textColumns kept then
          (textCells style kept)[column - x.toNat]?
        else frame.get? column row) ∧
      (Blanks (frame.rowCells y) → drawn.rowText y =
        Text.trimEnd (List.replicate x.toNat ' ' ++ kept.map shownAs)) := by
  obtain ⟨kept, hlongest, hkept⟩ := exists_longestFitting hlimit x.toNat style text
  have hput : frame.put? x.toNat y text style =
      some (frame.placeAll x.toNat y (glyphs style kept), textColumns kept) := by
    have hover : ¬ frame.overruns x.toNat text style := by
      rw [Frame.overruns_iff (Nat.le_of_lt hlimit) (toNat_le_columnLimit x)]
      exact fun h ↦ Nat.ne_of_lt hlimit h.1
    rw [Frame.put?, if_neg hover, Frame.put, Frame.used, Frame.fittingText, hkept, columns_glyphs]
  have hfits := hlongest.fits
  obtain ⟨hwidth, hheight⟩ := frame.size_placeAll x.toNat y (glyphs style kept)
  refine ⟨kept, _, hlongest, hput, hwidth, hheight, ?_, ?_⟩
  · intro column row
    rw [Frame.get?_placeAll (isDrawn_glyphs style kept) (by rw [columns_glyphs]; omega) hy,
      columns_glyphs, flatMap_span_glyphs]
  · intro hblank
    rcases Nat.lt_or_ge frame.width x.toNat with hbeyond | hinside
    · -- Nothing is written beyond the row, and nothing but blanks is read.
      obtain rfl : kept = [] := by
        cases kept with
        | nil => rfl
        | cons c rest =>
          have hpositive := shownWidth_pos c
          rw [textColumns] at hfits
          omega
      rw [List.map_nil, List.append_nil]
      exact (Frame.rowText_of_blanks hblank hy).trans (trimEnd_append_blanks [] x.toNat).symm
    · exact Frame.rowText_placeAll hblank (by omega) hy

/-- A control character is written as a blank, and a wide character that has one column left is
not written. -/
theorem Frame.put_longest_four :
    (Frame.blank 4 1).width < columnLimit ∧ 0 < (Frame.blank 4 1).height ∧
      Blanks ((Frame.blank 4 1).rowCells 0) ∧
      ∃ drawn, (Frame.blank 4 1).put? 1 0 ['\t', 'a', '日'] .plain = some (drawn, 2) ∧
        drawn.rowText 0 = [' ', ' ', 'a'] := by
  have hlimit : (Frame.blank 4 1).width < columnLimit := by decide
  have hy : 0 < (Frame.blank 4 1).height := by decide
  have hblank : Blanks ((Frame.blank 4 1).rowCells 0) := blanks_rowCells hy
  obtain ⟨kept, drawn, hlongest, hput, -, -, -, hread⟩ :=
    Frame.put_longest hlimit hy 1 ['\t', 'a', '日'] .plain
  have htwo : textColumns ['\t', 'a'] = 2 := by decide +kernel
  obtain rfl : kept = ['\t', 'a'] := by
    obtain ⟨rest, rfl⟩ := hlongest.longest ['\t', 'a'] ⟨['日'], rfl⟩ (htwo ▸ Nat.le_succ 2)
    obtain ⟨hfits, hinitial⟩ := And.intro hlongest.fits hlongest.initial
    cases rest with
    | nil => rfl
    | cons c rest =>
      have hlast : c :: rest <+: ['日'] :=
        (List.prefix_append_right_inj ['\t', 'a']).mp hinitial
      obtain ⟨rfl, -⟩ := List.cons_prefix_cons.mp hlast
      have hwide : shownWidth '日' = 2 := by decide +kernel
      have hroom : (Frame.blank 4 1).width - (1 : UInt16).toNat = 3 := rfl
      rw [textColumns_append, htwo, textColumns, hwide, hroom] at hfits
      omega
  refine ⟨hlimit, hy, hblank, drawn, htwo ▸ hput, (hread hblank).trans ?_⟩
  decide +kernel

end LiveBoard.Screen
