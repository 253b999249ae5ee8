import LiveBoard.Proofs.Screen.Obedience
import LiveBoard.Screen.Drawing
import Mathlib.Tactic.Set

/-!
# The pen and the terminal

A `Pen` is what a drawing believes about the terminal. `Pen.Agrees` says that the belief is true:
a cursor position inside the frame is the one of the terminal, a known colour or set of modifiers
is in force, and where the modifiers are unknown glyphs are not bold. Each operation on a drawing
is described by its effect on the terminal that obeys its marks (`Drawing.on`): bringing a style
into force changes the attributes in force to those of the style and nothing else
(`restyled_dress`), and printing a cell writes its look at the cursor (`on_print`). `Drawing.Adds`
collects what holds of the marks by themselves: they are added to those made before, cursor
addresses lie in the frame, and glyphs have a width.
-/

set_option autoImplicit false
set_option relaxedAutoImplicit false

namespace LiveBoard.Screen

/-! ### Modifiers -/

theorem Modifiers.isBold_eq_testBit (a : Modifiers) : a.isBold = a.bits.toNat.testBit 0 := by
  have hlow : (a.bits &&& 1).toNat = a.bits.toNat % 2 := by
    rw [UInt8.toNat_and]
    exact Nat.and_one_is_mod _
  unfold Modifiers.isBold
  rw [Nat.testBit_zero, Bool.eq_iff_iff, beq_iff_eq, decide_eq_true_iff, ← UInt8.toNat_inj, hlow]
  rfl

@[simp]
theorem Modifiers.isBold_difference (a b : Modifiers) :
    (a.difference b).isBold = (a.isBold && !b.isBold) := by
  have hbyte := b.bits.toNat_lt
  have hnot : (~~~ b.bits).toNat.testBit 0 = !b.bits.toNat.testBit 0 := by
    rw [UInt8.toNat_not, Nat.testBit_zero, Nat.testBit_zero, Bool.eq_iff_iff]
    simp only [Bool.not_eq_true', decide_eq_true_eq, decide_eq_false_iff_not, UInt8.size]
    omega
  simp only [Modifiers.isBold_eq_testBit, Modifiers.difference, UInt8.toNat_and, Nat.testBit_and,
    hnot]

theorem Modifiers.isBold_of_isEmpty {a : Modifiers} (hempty : a.isEmpty = true) :
    a.isBold = false := by
  have hzero : a = .empty := by
    cases a
    simpa [Modifiers.isEmpty, Modifiers.empty] using hempty
  subst hzero
  rfl

/-! ### Agreement -/

/-- What is known of the style is in force, and glyphs are not bold where the modifiers are
unknown. -/
structure Pen.KnowsStyle (pen : Pen) (attributes : Attributes) : Prop where
  /-- A known colour of glyphs is in force. -/
  foreground : ∀ color, pen.foreground = some color → attributes.foreground = color
  /-- A known colour behind glyphs is in force. -/
  background : ∀ color, pen.background = some color → attributes.background = color
  /-- A known set of modifiers is in force. -/
  modifiers : ∀ known, pen.modifiers = some known → attributes.bold = known.isBold
  /-- Where the modifiers are unknown glyphs are not bold. -/
  unknown : pen.modifiers = none → attributes.bold = false

/-- What is known about the terminal is true, on a frame of a size. -/
structure Pen.Agrees (pen : Pen) (width height : Nat) (terminal : Terminal) : Prop where
  /-- A cursor position in the frame is the real one. -/
  cursor : ∀ x y, pen.cursor = some (x, y) → x < width → y < height →
    terminal.column = x ∧ terminal.row = y
  /-- What is known of the style is in force. -/
  style : pen.KnowsStyle terminal.attributes

theorem Pen.KnowsStyle.bold_eq {pen : Pen} {attributes : Attributes}
    (h : pen.KnowsStyle attributes) :
    attributes.bold = (pen.modifiers.getD .empty).isBold := by
  cases hmodifiers : pen.modifiers with
  | none => exact h.unknown hmodifiers
  | some known => exact h.modifiers known hmodifiers

/-- What is known of the style does not depend on the cursor. -/
theorem Pen.KnowsStyle.moved {pen : Pen} {attributes : Attributes} (h : pen.KnowsStyle attributes)
    (cursor : Option (Nat × Nat)) : { pen with cursor := cursor }.KnowsStyle attributes :=
  ⟨h.foreground, h.background, h.modifiers, h.unknown⟩

/-- Nothing is known wrongly after a reset. -/
theorem Pen.knowsStyle_standard {pen : Pen} (hforeground : pen.foreground = none)
    (hbackground : pen.background = none) (hmodifiers : pen.modifiers = none) :
    pen.KnowsStyle .standard where
  foreground color h := by simp [hforeground] at h
  background color h := by simp [hbackground] at h
  modifiers known h := by simp [hmodifiers] at h
  unknown _ := rfl

/-! ### Drawings on a terminal -/

/-- The terminal that has obeyed the marks of a drawing. -/
def Drawing.on (drawing : Drawing) (terminal : Terminal) : Terminal :=
  terminal.obeyAll drawing.marks.toList

section On

variable {terminal : Terminal} {drawing before middle after : Drawing}

@[simp]
theorem Drawing.on_mark (drawing : Drawing) (terminal : Terminal) (mark : Mark) :
    (drawing.mark mark).on terminal = (drawing.on terminal).obey mark := by
  simp [Drawing.on, Drawing.mark, Terminal.obeyAll]

/-- The drawing goes on to bring attributes into force and does nothing else. -/
structure Drawing.Restyled (terminal : Terminal) (before after : Drawing)
    (attributes : Attributes) : Prop where
  /-- The terminal changes its attributes only. -/
  on : after.on terminal = { before.on terminal with attributes := attributes }
  /-- The pen knows of the change. -/
  known : after.pen.KnowsStyle attributes
  /-- The pen holds on to the cursor. -/
  cursor : after.pen.cursor = before.pen.cursor

theorem Drawing.Restyled.trans {first second : Attributes}
    (hfirst : Drawing.Restyled terminal before middle first)
    (hsecond : Drawing.Restyled terminal middle after second) :
    Drawing.Restyled terminal before after second where
  on := by rw [hsecond.on, hfirst.on]
  known := hsecond.known
  cursor := hsecond.cursor.trans hfirst.cursor

theorem Drawing.Restyled.refl (h : drawing.pen.KnowsStyle (drawing.on terminal).attributes) :
    Drawing.Restyled terminal drawing drawing (drawing.on terminal).attributes :=
  ⟨rfl, h, rfl⟩

/-- After unwanted modifiers are dropped, those in force are all wanted. -/
theorem Drawing.restyled_dropModifiers (wanted : Modifiers)
    (h : drawing.pen.KnowsStyle (drawing.on terminal).attributes) :
    ∃ attributes,
      Drawing.Restyled terminal drawing (drawing.dropModifiers wanted) attributes ∧
        (((drawing.dropModifiers wanted).pen.modifiers.getD .empty).difference wanted).isEmpty := by
  unfold Drawing.dropModifiers
  split_ifs with hwanted
  · exact ⟨_, .refl h, hwanted⟩
  · refine ⟨.standard, ⟨?_, Pen.knowsStyle_standard rfl rfl rfl, rfl⟩, ?_⟩
    · exact drawing.on_mark terminal .resetStyle
    · simp [Modifiers.isEmpty, Modifiers.difference, Modifiers.empty]

theorem Drawing.restyled_setForeground (terminal : Terminal) (drawing : Drawing) (color : Color)
    (h : drawing.pen.KnowsStyle (drawing.on terminal).attributes) :
    Drawing.Restyled terminal drawing (drawing.setForeground color)
      { (drawing.on terminal).attributes with foreground := color } := by
  unfold Drawing.setForeground
  split_ifs with hknown
  · have hsame : { (drawing.on terminal).attributes with foreground := color } =
        (drawing.on terminal).attributes := by rw [← h.foreground color hknown]
    rw [hsame]
    exact .refl h
  · refine ⟨drawing.on_mark terminal (.setForeground color), ?_, rfl⟩
    exact ⟨fun other hother ↦ by simpa using hother, h.background, h.modifiers, h.unknown⟩

theorem Drawing.restyled_setBackground (terminal : Terminal) (drawing : Drawing) (color : Color)
    (h : drawing.pen.KnowsStyle (drawing.on terminal).attributes) :
    Drawing.Restyled terminal drawing (drawing.setBackground color)
      { (drawing.on terminal).attributes with background := color } := by
  unfold Drawing.setBackground
  split_ifs with hknown
  · have hsame : { (drawing.on terminal).attributes with background := color } =
        (drawing.on terminal).attributes := by rw [← h.background color hknown]
    rw [hsame]
    exact .refl h
  · refine ⟨drawing.on_mark terminal (.setBackground color), ?_, rfl⟩
    exact ⟨h.foreground, fun other hother ↦ by simpa using hother, h.modifiers, h.unknown⟩

/-- Assumes: the modifiers in force are all wanted. After the others are added glyphs are bold if
that is wanted. -/
theorem Drawing.restyled_addModifiers (terminal : Terminal) (drawing : Drawing) (wanted : Modifiers)
    (h : drawing.pen.KnowsStyle (drawing.on terminal).attributes)
    (hwanted : ((drawing.pen.modifiers.getD .empty).difference wanted).isEmpty) :
    Drawing.Restyled terminal drawing (drawing.addModifiers wanted)
      { (drawing.on terminal).attributes with bold := wanted.isBold } := by
  have hdropped := Modifiers.isBold_of_isEmpty hwanted
  have hbold := h.bold_eq
  rw [Modifiers.isBold_difference, ← hbold] at hdropped
  refine ⟨?_, ?_, ?_⟩
  · unfold Drawing.addModifiers
    dsimp only
    rw [Modifiers.isBold_difference, ← hbold]
    split_ifs with hadded
    · have hon : wanted.isBold = true := by simp_all
      rw [hon]
      exact drawing.on_mark terminal .setBold
    · have hsame : (drawing.on terminal).attributes.bold = wanted.isBold := by
        cases hforce : (drawing.on terminal).attributes.bold <;>
          cases hwish : wanted.isBold <;> simp_all
      rw [← hsame]
      rfl
  · refine ⟨h.foreground, h.background, fun known hknown ↦ ?_, fun hnone ↦ by cases hnone⟩
    cases hknown
    rfl
  · rfl

theorem Drawing.setForeground_modifiers (drawing : Drawing) (color : Color) :
    (drawing.setForeground color).pen.modifiers = drawing.pen.modifiers := by
  unfold Drawing.setForeground
  split_ifs <;> rfl

theorem Drawing.setBackground_modifiers (drawing : Drawing) (color : Color) :
    (drawing.setBackground color).pen.modifiers = drawing.pen.modifiers := by
  unfold Drawing.setBackground
  split_ifs <;> rfl

/-- Bringing a style into force changes the attributes to those of the style, and nothing else. -/
theorem Drawing.restyled_dress (style : Style)
    (h : drawing.pen.KnowsStyle (drawing.on terminal).attributes) :
    Drawing.Restyled terminal drawing (drawing.dress style) style.attributes := by
  obtain ⟨attributes, hdropped, hwanted⟩ := Drawing.restyled_dropModifiers style.modifiers h
  set dropped := drawing.dropModifiers style.modifiers
  have hforeground : Drawing.Restyled terminal dropped (dropped.setForeground style.foreground)
      { attributes with foreground := style.foreground } := by
    have hstep := Drawing.restyled_setForeground terminal dropped style.foreground
      (by rw [hdropped.on]; exact hdropped.known)
    rwa [hdropped.on] at hstep
  set coloured := dropped.setForeground style.foreground
  have hbackground : Drawing.Restyled terminal coloured (coloured.setBackground style.background)
      ⟨style.foreground, style.background, attributes.bold⟩ := by
    have hstep := Drawing.restyled_setBackground terminal coloured style.background
      (by rw [hforeground.on]; exact hforeground.known)
    rwa [hforeground.on] at hstep
  set grounded := coloured.setBackground style.background
  have hmodifiers : Drawing.Restyled terminal grounded (grounded.addModifiers style.modifiers)
      style.attributes := by
    have hkept : grounded.pen.modifiers = dropped.pen.modifiers :=
      (coloured.setBackground_modifiers _).trans (dropped.setForeground_modifiers _)
    have hstep := Drawing.restyled_addModifiers terminal grounded style.modifiers
      (by rw [hbackground.on]; exact hbackground.known) (by rw [hkept]; exact hwanted)
    rwa [hbackground.on] at hstep
  exact ((hdropped.trans hforeground).trans hbackground).trans hmodifiers

/-! ### Cells -/

/-- The cell was made from a character. -/
def Cell.IsDrawn (cell : Cell) : Prop := ∃ c style, cell = .styled c style

theorem glyphWidth_le_two (c : Char) : glyphWidth c ≤ 2 := by
  unfold glyphWidth
  split_ifs <;> omega

/-- A cell made from a character has the width of its glyph, one or two. -/
theorem Cell.IsDrawn.width {cell : Cell} (h : cell.IsDrawn) :
    glyphWidth cell.glyph = cell.width ∧ (cell.width = 1 ∨ cell.width = 2) := by
  obtain ⟨c, style, rfl⟩ := h
  have hlimit := glyphWidth_le_two c
  unfold Cell.styled Cell.ofChar Cell.withStyle
  split_ifs with hzero
  · have hblank : glyphWidth ' ' = 1 := by decide
    exact ⟨hblank, Or.inl rfl⟩
  · exact ⟨rfl, by dsimp only; omega⟩

/-- Assumes: if the pen says that the cursor stands at a place, it stands there. Moving it to that
place moves it in the terminal. -/
theorem Drawing.on_moveTo {x y width height : Nat}
    (h : drawing.pen.cursor = some (x, y) →
      (drawing.on terminal).column = x ∧ (drawing.on terminal).row = y)
    (hx : x < width) (hy : y < height) (hcolumns : width ≤ (drawing.on terminal).device.columns)
    (hrows : height ≤ (drawing.on terminal).device.rows) :
    (drawing.moveTo x y).on terminal = { drawing.on terminal with column := x, row := y } := by
  unfold Drawing.moveTo
  split_ifs with hknown
  · obtain ⟨hcolumn, hrow⟩ := h hknown
    rw [← hcolumn, ← hrow]
  · refine (drawing.on_mark terminal (.moveTo x y)).trans ?_
    change (drawing.on terminal).address x y = _
    unfold Terminal.address
    rw [Nat.min_eq_left (by omega), Nat.min_eq_left (by omega)]

@[simp]
theorem Drawing.moveTo_pen (drawing : Drawing) (x y : Nat) :
    (drawing.moveTo x y).pen = { drawing.pen with cursor := some (x, y) } := by
  unfold Drawing.moveTo
  split_ifs with hknown
  · rw [← hknown]
  · rfl

/-- Assumes: a cell made from a character that fits into the line. Printing it writes its look at
the cursor, in the style of the cell. -/
theorem Drawing.on_print {cell : Cell} (hdrawn : cell.IsDrawn)
    (h : drawing.pen.KnowsStyle (drawing.on terminal).attributes)
    (hroom : (drawing.on terminal).column + cell.width ≤ (drawing.on terminal).device.columns) :
    (drawing.print cell).on terminal =
      { drawing.on terminal with attributes := cell.style.attributes }.write cell.look := by
  obtain ⟨hglyph, hwidth⟩ := hdrawn.width
  have hdressed := Drawing.restyled_dress cell.style h
  refine (Drawing.on_mark (drawing.dress cell.style) terminal (.glyph cell.glyph)).trans ?_
  rw [hdressed.on]
  change Terminal.print _ cell.glyph = _
  unfold Terminal.print
  rw [hglyph, if_neg (by omega), if_neg (Nat.not_lt.mpr hroom)]
  rfl

theorem Drawing.print_knowsStyle {cell : Cell}
    (h : drawing.pen.KnowsStyle (drawing.on terminal).attributes) :
    (drawing.print cell).pen.KnowsStyle cell.style.attributes :=
  (Drawing.restyled_dress cell.style h).known

theorem Drawing.print_cursor {cell : Cell}
    (h : drawing.pen.KnowsStyle (drawing.on terminal).attributes) :
    (drawing.print cell).pen.cursor = drawing.pen.cursor :=
  (Drawing.restyled_dress cell.style h).cursor

end On

/-! ### The marks by themselves -/

/-- The mark draws a frame of a size: cursor addresses lie in it, and glyphs have a width. -/
def Mark.Fits (width height : Nat) : Mark → Prop
  | .hideCursor => False
  | .moveTo x y => x < width ∧ y < height
  | .glyph c => glyphWidth c ≠ 0
  | _ => True

theorem Mark.Fits.isPlain {width height : Nat} {mark : Mark} (h : mark.Fits width height) :
    mark.isPlain = true := by
  cases mark with
  | glyph c => simpa [Mark.isPlain, Mark.Fits] using h
  | _ => rfl

/-- A drawing goes on from `before` to `after` by marks that fit into a frame of a size. -/
def Drawing.Adds (width height : Nat) (before after : Drawing) : Prop :=
  ∃ marks : List Mark, after.marks.toList = before.marks.toList ++ marks ∧
    ∀ mark ∈ marks, mark.Fits width height

section Adds

variable {width height : Nat} {before middle after : Drawing}

theorem Drawing.Adds.refl (h : after.marks = before.marks) : before.Adds width height after :=
  ⟨[], by rw [h, List.append_nil], fun _ hmark ↦ absurd hmark List.not_mem_nil⟩

theorem Drawing.Adds.trans (hfirst : before.Adds width height middle)
    (hsecond : middle.Adds width height after) : before.Adds width height after := by
  obtain ⟨first, hmiddle, hfits⟩ := hfirst
  obtain ⟨second, hafter, hfits'⟩ := hsecond
  refine ⟨first ++ second, by rw [hafter, hmiddle, List.append_assoc], ?_⟩
  intro mark hmark
  rcases List.mem_append.mp hmark with hold | hnew
  · exact hfits mark hold
  · exact hfits' mark hnew

/-- Assumes: each step for items of a kind adds marks that fit. So do the steps for all of them. -/
theorem Drawing.adds_foldl {Item : Type} {step : Drawing → Item → Drawing} {items : List Item}
    {Kind : Item → Prop} (hitems : ∀ item ∈ items, Kind item)
    (hstep : ∀ (drawing : Drawing) (item : Item), Kind item →
      drawing.Adds width height (step drawing item))
    {drawing : Drawing} : drawing.Adds width height (items.foldl step drawing) := by
  induction items generalizing drawing with
  | nil => exact .refl rfl
  | cons item rest ih =>
    exact (hstep drawing item (hitems item List.mem_cons_self)).trans
      (ih fun other hother ↦ hitems other (List.mem_cons_of_mem _ hother))

theorem Drawing.Adds.fits (h : before.Adds width height after)
    (hbefore : ∀ mark ∈ before.marks.toList, mark.Fits width height) :
    ∀ mark ∈ after.marks.toList, mark.Fits width height := by
  obtain ⟨marks, hafter, hfits⟩ := h
  intro mark hmark
  rw [hafter] at hmark
  rcases List.mem_append.mp hmark with hold | hnew
  · exact hbefore mark hold
  · exact hfits mark hnew

theorem Drawing.adds_mark (drawing : Drawing) (mark : Mark) (hmark : mark.Fits width height) :
    drawing.Adds width height (drawing.mark mark) := by
  refine ⟨[mark], by simp [Drawing.mark], ?_⟩
  intro other hother
  rw [List.mem_singleton.mp hother]
  exact hmark

theorem Drawing.adds_dropModifiers (drawing : Drawing) (wanted : Modifiers) :
    drawing.Adds width height (drawing.dropModifiers wanted) := by
  unfold Drawing.dropModifiers
  split_ifs
  · exact .refl rfl
  · exact drawing.adds_mark .resetStyle trivial

theorem Drawing.adds_setForeground (drawing : Drawing) (color : Color) :
    drawing.Adds width height (drawing.setForeground color) := by
  unfold Drawing.setForeground
  split_ifs
  · exact .refl rfl
  · exact drawing.adds_mark (.setForeground color) trivial

theorem Drawing.adds_setBackground (drawing : Drawing) (color : Color) :
    drawing.Adds width height (drawing.setBackground color) := by
  unfold Drawing.setBackground
  split_ifs
  · exact .refl rfl
  · exact drawing.adds_mark (.setBackground color) trivial

theorem Drawing.adds_addModifiers (drawing : Drawing) (wanted : Modifiers) :
    drawing.Adds width height (drawing.addModifiers wanted) := by
  unfold Drawing.addModifiers
  dsimp only
  split_ifs
  · exact drawing.adds_mark .setBold trivial
  · exact .refl rfl

theorem Drawing.adds_dress (drawing : Drawing) (style : Style) :
    drawing.Adds width height (drawing.dress style) :=
  (((drawing.adds_dropModifiers _).trans (Drawing.adds_setForeground _ _)).trans
    (Drawing.adds_setBackground _ _)).trans (Drawing.adds_addModifiers _ _)

theorem Drawing.adds_moveTo (drawing : Drawing) {x y : Nat} (hx : x < width) (hy : y < height) :
    drawing.Adds width height (drawing.moveTo x y) := by
  unfold Drawing.moveTo
  split_ifs
  · exact .refl rfl
  · exact drawing.adds_mark (.moveTo x y) ⟨hx, hy⟩

theorem Drawing.adds_print (drawing : Drawing) {cell : Cell} (hdrawn : cell.IsDrawn) :
    drawing.Adds width height (drawing.print cell) := by
  obtain ⟨hglyph, hwidth⟩ := hdrawn.width
  have hplain : glyphWidth cell.glyph ≠ 0 := by omega
  exact (drawing.adds_dress cell.style).trans (Drawing.adds_mark _ (.glyph cell.glyph) hplain)

end Adds

end LiveBoard.Screen
