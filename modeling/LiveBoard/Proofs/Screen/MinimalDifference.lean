import LiveBoard.Proofs.Screen.OutputItems
import Mathlib.Data.List.SplitBy

/-!
# Minimal differences

The difference of two frames prints the cells that differ and are no continuations, row after row
(`changedSites`), and before each glyph it sends what the terminal is not known to have already: an
address where the cursor stands elsewhere, and what the style needs (`Pen.restyle`). Of what was
printed the place, the colours and the modifiers are known afterwards (`Site.pen`), so the output is
told by the sites and the pen alone (`printings`), and each drawing step adds what the next of them
tells (`Drawing.grows_draw`).

From that follows what the output looks like as it is read (`MinimalOutput`, `difference_minimal`):
its glyphs, the three counters, one cursor address for each run of adjacent glyphs except where the
first one was known to be in place, and colours only where they change. It is empty exactly when the
frames are equal, as glyphs have both their halves: a difference in continuations alone is
impossible.
-/

set_option autoImplicit false
set_option relaxedAutoImplicit false

namespace LiveBoard.Screen

/-! ### Sites -/

/-- A place of a frame with the cell to print there. -/
structure Site where
  /-- The column. -/
  column : Nat
  /-- The row. -/
  row : Nat
  /-- The cell. -/
  cell : Cell
  deriving DecidableEq, Repr

/-- The site at a column of a row, if the cells of the frames differ there and the one to show is no
continuation. -/
def changedSite? (current next : Frame) (row column : Nat) : Option Site :=
  match current.get? column row, next.get? column row with
  | some shown, some wanted =>
    if shown = wanted ∨ wanted.isContinuation then none else some ⟨column, row, wanted⟩
  | _, _ => none

/-- These sites, row after row. -/
def changedSites (current next : Frame) : List Site :=
  (List.range next.height).flatMap fun row ↦
    (List.range next.width).filterMap (changedSite? current next row)

/-! ### Printings -/

/-- The modifiers in force are all wanted by a style. -/
def Pen.Keeps (known : Pen) (style : Style) : Prop :=
  ((known.modifiers.getD .empty).difference style.modifiers).isEmpty = true

instance (known : Pen) (style : Style) : Decidable (known.Keeps style) :=
  inferInstanceAs (Decidable (_ = true))

/-- What has to be sent before a glyph in a style. -/
def Pen.restyle (known : Pen) (style : Style) : List Mark :=
  if known.Keeps style then
    (if known.foreground = some style.foreground then []
      else [.setForeground style.foreground]) ++
    (if known.background = some style.background then []
      else [.setBackground style.background]) ++
    if (style.modifiers.difference (known.modifiers.getD .empty)).isBold then [.setBold] else []
  else
    [.resetStyle, .setForeground style.foreground, .setBackground style.background] ++
      if style.modifiers.isBold then [.setBold] else []

/-- The number of colours that have to be sent before a glyph in a style: those that are not known
to be in force, or both where a modifier is in force that is not wanted. -/
def Pen.colorChanges (known : Pen) (style : Style) : Nat :=
  if known.Keeps style then
    (if known.foreground = some style.foreground then 0 else 1) +
      if known.background = some style.background then 0 else 1
  else 2

/-- What is known after the cell of a site was printed. -/
def Site.pen (site : Site) : Pen where
  cursor := some (site.column + site.cell.width, site.row)
  foreground := some site.cell.style.foreground
  background := some site.cell.style.background
  modifiers := some site.cell.style.modifiers

/-- The printing of a cell, with what is known before it. -/
structure Printing where
  /-- What is known. -/
  known : Pen
  /-- What is printed, and where. -/
  site : Site

/-- The address of the cell. -/
def Printing.address (printing : Printing) : Mark :=
  .moveTo printing.site.column printing.site.row

/-- Whether the cursor is not known to stand there. -/
def Printing.isAddressed (printing : Printing) : Bool :=
  printing.known.cursor != some (printing.site.column, printing.site.row)

/-- What is sent after the address. -/
def Printing.ink (printing : Printing) : List Mark :=
  printing.known.restyle printing.site.cell.style ++ [.glyph printing.site.cell.glyph]

/-- What is sent. -/
def Printing.marks (printing : Printing) : List Mark :=
  (if printing.isAddressed then [printing.address] else []) ++ printing.ink

/-- What is sent, as it is read. -/
def Printing.items (printing : Printing) : List Item := printing.marks.map Mark.item

/-- Whether a glyph is printed where the one before ended, on the same row. -/
def Printing.continues (earlier later : Printing) : Bool :=
  later.site.row = earlier.site.row ∧
    later.site.column = earlier.site.column + earlier.site.cell.width

/-- The printings of the cells of sites, one after the other. -/
def printings : Pen → List Site → List Printing
  | _, [] => []
  | known, site :: rest => ⟨known, site⟩ :: printings site.pen rest

/-- What the output of a difference looks like. -/
structure MinimalOutput (current next : Frame) (pen : Pen) (drawing : Drawing)
    (items : List Item) : Prop where
  /-- It is read from the bytes. -/
  read : readOutput drawing.bytes = some items
  /-- It prints the cells that differ. -/
  printed : items = (printings pen (changedSites current next)).flatMap Printing.items
  /-- Its glyphs are those of these cells, once each, row after row. -/
  glyphs : items.filterMap Item.glyph? =
    (changedSites current next).map fun site ↦ site.cell.glyph
  /-- The number of cells drawn is that of the glyphs. -/
  cells : drawing.cells = items.countP Item.isGlyph
  /-- The number of moves is that of the cursor addresses. -/
  moves : drawing.moves = items.countP Item.isAddress
  /-- The number of colour changes is that of the selected colours. -/
  colors : drawing.colors = items.countP Item.isColor
  /-- Each run of glyphs, each printed where the one before ended, has one cursor address, and that
  comes first. The first run has none where the cursor was known to stand there. -/
  runs : ∀ front first others back,
    (printings pen (changedSites current next)).splitBy Printing.continues =
      front ++ (first :: others) :: back →
    ∃ rest, (first :: others).flatMap Printing.items =
        (if front = [] ∧ pen.cursor = some (first.site.column, first.site.row) then []
          else [first.address.item]) ++ rest ∧
      ∀ item ∈ rest, item.isAddress = false
  /-- Before the first glyph the colours are sent that were not known, or both where a modifier had
  to be removed. -/
  firstColors : ∀ first others, printings pen (changedSites current next) = first :: others →
    first.items.countP Item.isColor = pen.colorChanges first.site.cell.style
  /-- Before every other glyph the colours are sent that the cell before did not have, or both where
  a modifier of it had to be removed. -/
  laterColors : (printings pen (changedSites current next)).IsChain fun earlier later ↦
    later.items.countP Item.isColor = earlier.site.pen.colorChanges later.site.cell.style
  /-- Nothing is sent exactly when the frames are equal. -/
  silent : drawing.bytes = [] ↔ current = next

/-! ### Single cells -/

/-- A drawing goes on by marks, and counts them. -/
structure Drawing.Grows (before after : Drawing) (marks : List Mark) : Prop where
  /-- The marks are added. -/
  added : after.marks.toList = before.marks.toList ++ marks
  /-- Glyphs are counted as cells. -/
  cells : after.cells = before.cells + marks.countP Mark.isGlyph
  /-- Cursor addresses are counted. -/
  moves : after.moves = before.moves + marks.countP Mark.isAddress
  /-- Colours are counted. -/
  colors : after.colors = before.colors + marks.countP Mark.isColor

section Cells

variable {before middle after drawing : Drawing} {first second : List Mark}

theorem Drawing.Grows.refl (drawing : Drawing) : drawing.Grows drawing [] :=
  ⟨(List.append_nil _).symm, rfl, rfl, rfl⟩

theorem Drawing.Grows.trans (hfirst : before.Grows middle first)
    (hsecond : middle.Grows after second) : before.Grows after (first ++ second) where
  added := by rw [hsecond.added, hfirst.added, List.append_assoc]
  cells := by rw [hsecond.cells, hfirst.cells, List.countP_append, Nat.add_assoc]
  moves := by rw [hsecond.moves, hfirst.moves, List.countP_append, Nat.add_assoc]
  colors := by rw [hsecond.colors, hfirst.colors, List.countP_append, Nat.add_assoc]

theorem Drawing.grows_moveTo (drawing : Drawing) (x y : Nat) :
    drawing.Grows (drawing.moveTo x y)
      (if drawing.pen.cursor != some (x, y) then [.moveTo x y] else []) := by
  unfold Drawing.moveTo
  by_cases hknown : drawing.pen.cursor = some (x, y)
  · rw [if_pos hknown, if_neg (by simp [hknown])]
    exact .refl drawing
  · rw [if_neg hknown, if_pos (by simp [hknown])]
    exact ⟨Array.toList_push, rfl, rfl, rfl⟩

theorem Drawing.grows_setForeground (drawing : Drawing) (color : Color) :
    drawing.Grows (drawing.setForeground color)
      (if drawing.pen.foreground = some color then [] else [.setForeground color]) := by
  unfold Drawing.setForeground
  split_ifs
  · exact .refl drawing
  · exact ⟨Array.toList_push, rfl, rfl, rfl⟩

@[simp]
theorem Drawing.setForeground_pen (drawing : Drawing) (color : Color) :
    (drawing.setForeground color).pen = { drawing.pen with foreground := some color } := by
  unfold Drawing.setForeground
  split_ifs with hknown
  · rw [← hknown]
  · rfl

theorem Drawing.grows_setBackground (drawing : Drawing) (color : Color) :
    drawing.Grows (drawing.setBackground color)
      (if drawing.pen.background = some color then [] else [.setBackground color]) := by
  unfold Drawing.setBackground
  split_ifs
  · exact .refl drawing
  · exact ⟨Array.toList_push, rfl, rfl, rfl⟩

@[simp]
theorem Drawing.setBackground_pen (drawing : Drawing) (color : Color) :
    (drawing.setBackground color).pen = { drawing.pen with background := some color } := by
  unfold Drawing.setBackground
  split_ifs with hknown
  · rw [← hknown]
  · rfl

theorem Drawing.grows_addModifiers (drawing : Drawing) (wanted : Modifiers) :
    drawing.Grows (drawing.addModifiers wanted)
      (if (wanted.difference (drawing.pen.modifiers.getD .empty)).isBold then [.setBold]
        else []) := by
  unfold Drawing.addModifiers
  dsimp only
  split_ifs
  · exact ⟨Array.toList_push, rfl, rfl, rfl⟩
  · exact ⟨(List.append_nil _).symm, rfl, rfl, rfl⟩

@[simp]
theorem Drawing.addModifiers_pen (drawing : Drawing) (wanted : Modifiers) :
    (drawing.addModifiers wanted).pen = { drawing.pen with modifiers := some wanted } := rfl

theorem Drawing.dropModifiers_of_keeps {style : Style} (h : drawing.pen.Keeps style) :
    drawing.dropModifiers style.modifiers = drawing := if_pos h

theorem Drawing.dropModifiers_of_not_keeps {style : Style} (h : ¬ drawing.pen.Keeps style) :
    drawing.dropModifiers style.modifiers =
      { drawing.mark .resetStyle with
        pen := { drawing.pen with foreground := none, background := none, modifiers := none } } :=
  if_neg h

/-- A style is brought into force by what is not known of it. -/
theorem Drawing.grows_dress (drawing : Drawing) (style : Style) :
    drawing.Grows (drawing.dress style) (drawing.pen.restyle style) := by
  have hcolored (dropped : Drawing) := ((dropped.grows_setForeground style.foreground).trans
    (Drawing.grows_setBackground _ style.background)).trans
      (Drawing.grows_addModifiers _ style.modifiers)
  simp only [Drawing.setForeground_pen, Drawing.setBackground_pen] at hcolored
  unfold Drawing.dress Pen.restyle
  by_cases hkeeps : drawing.pen.Keeps style
  · rw [Drawing.dropModifiers_of_keeps hkeeps, if_pos hkeeps]
    exact hcolored drawing
  · have hempty : style.modifiers.difference .empty = style.modifiers := by
      simp [Modifiers.difference, Modifiers.empty]
    have hreset : drawing.Grows (drawing.dropModifiers style.modifiers) [.resetStyle] := by
      rw [Drawing.dropModifiers_of_not_keeps hkeeps]
      exact ⟨Array.toList_push, rfl, rfl, rfl⟩
    have hstyled := hreset.trans (hcolored _)
    rw [if_neg hkeeps]
    rw [Drawing.dropModifiers_of_not_keeps hkeeps] at hstyled ⊢
    simp only [reduceCtorEq, if_false, Option.getD_none, hempty] at hstyled
    exact hstyled

@[simp]
theorem Drawing.dress_pen (drawing : Drawing) (style : Style) :
    (drawing.dress style).pen = ⟨drawing.pen.cursor, some style.foreground, some style.background,
      some style.modifiers⟩ := by
  have hcursor : (drawing.dropModifiers style.modifiers).pen.cursor = drawing.pen.cursor := by
    unfold Drawing.dropModifiers
    split_ifs <;> rfl
  simp [Drawing.dress, hcursor]

/-- Draws the cell of a site. -/
def Drawing.draw (drawing : Drawing) (site : Site) : Drawing :=
  drawing.change site.column site.row site.cell

/-- A cell is drawn by what is not known of it. -/
theorem Drawing.grows_draw (drawing : Drawing) (site : Site) :
    drawing.Grows (drawing.draw site) (Printing.mk drawing.pen site).marks := by
  have hmoved := Drawing.grows_moveTo { drawing with cells := drawing.cells + 1 } site.column
    site.row
  have hdressed := hmoved.trans (Drawing.grows_dress _ site.cell.style)
  rw [Drawing.moveTo_pen] at hdressed
  have hmarks : (Printing.mk drawing.pen site).marks =
      ((if drawing.pen.cursor != some (site.column, site.row) then
          [.moveTo site.column site.row] else []) ++
        drawing.pen.restyle site.cell.style) ++ [.glyph site.cell.glyph] :=
    (List.append_assoc _ _ _).symm
  rw [hmarks]
  refine ⟨?_, ?_, ?_, ?_⟩
  · rw [← List.append_assoc]
    exact Array.toList_push.trans (congrArg (· ++ [_]) hdressed.added)
  · have hcells := hdressed.cells
    rw [List.countP_append]
    change _ = drawing.cells + (_ + 1)
    rw [Nat.add_comm _ 1, ← Nat.add_assoc]
    exact hcells
  · rw [List.countP_append]
    exact hdressed.moves
  · rw [List.countP_append]
    exact hdressed.colors

/-- Assumes: a cell that has columns, none of them beyond the limit. What was printed of it is known
then. -/
theorem Drawing.draw_pen (drawing : Drawing) {site : Site} (hwidth : 0 < site.cell.width)
    (hlimit : site.column + site.cell.width ≤ columnLimit) :
    (drawing.draw site).pen = site.pen := by
  have hprinted (moved : Drawing) (hmoved : moved.pen.cursor = some (site.column, site.row)) :
      (moved.print site.cell).pen = { site.pen with cursor := some (site.column, site.row) } := by
    refine (moved.dress_pen site.cell.style).trans ?_
    rw [hmoved]
    rfl
  unfold Drawing.draw Drawing.change Drawing.advance
  rw [hprinted _ (by rw [Drawing.moveTo_pen]), Option.map_some, Nat.max_eq_left hwidth]
  dsimp only
  rw [Nat.min_eq_left hlimit]
  rfl

end Cells

/-! ### All cells -/

section Sites

variable {current next : Frame} {site : Site}

theorem changedSite?_eq_some_iff {row column : Nat} :
    changedSite? current next row column = some site ↔
      site.column = column ∧ site.row = row ∧ ∃ shown, current.get? column row = some shown ∧
        next.get? column row = some site.cell ∧ shown ≠ site.cell ∧
          site.cell.isContinuation = false := by
  unfold changedSite?
  cases hshown : current.get? column row with
  | none => simp
  | some shown =>
    cases hwanted : next.get? column row with
    | none => simp
    | some wanted =>
      dsimp only
      split_ifs with hskip
      · refine iff_of_false nofun ?_
        rintro ⟨-, -, other, hother, hcell, hdiffers, hwhole⟩
        cases hother
        cases hcell
        rcases hskip with hsame | hcontinuation
        · exact hdiffers hsame
        · exact Bool.false_ne_true (hwhole.symm.trans hcontinuation)
      · rw [not_or, Bool.not_eq_true] at hskip
        constructor
        · rintro ⟨⟩
          exact ⟨rfl, rfl, shown, rfl, rfl, hskip⟩
        · rintro ⟨rfl, rfl, other, -, hcell, -, -⟩
          cases hcell
          rfl

/-- The cells to print are those that differ and are no continuations. -/
theorem mem_changedSites :
    site ∈ changedSites current next ↔
      ∃ shown, current.get? site.column site.row = some shown ∧
        next.get? site.column site.row = some site.cell ∧ shown ≠ site.cell ∧
          site.cell.isContinuation = false := by
  simp only [changedSites, List.mem_flatMap, List.mem_filterMap, List.mem_range,
    changedSite?_eq_some_iff]
  constructor
  · rintro ⟨row, -, column, -, rfl, rfl, hsite⟩
    exact hsite
  · rintro ⟨shown, hshown, hwanted, hsite⟩
    obtain ⟨hcolumn, hrow⟩ := Frame.lt_of_get? hwanted
    exact ⟨site.row, hrow, site.column, hcolumn, rfl, rfl, shown, hshown, hwanted, hsite⟩

/-- Assumes: a well-paired frame. A cell to print has columns, all of them in the frame. -/
theorem Frame.WellPaired.site_le (hnext : next.WellPaired)
    (hsite : site ∈ changedSites current next) :
    0 < site.cell.width ∧ site.column + site.cell.width ≤ next.width := by
  obtain ⟨shown, -, hwanted, -, hwhole⟩ := mem_changedSites.mp hsite
  have hcolumn := (Frame.lt_of_get? hwanted).1
  rcases (hnext.drawn _ _ _ hwanted hwhole).width.2 with hnarrow | hwide
  · omega
  · have hright := (Frame.lt_of_get? (hnext.wide _ _ _ hwanted hwide)).1
    omega

/-- The site of an entry of a difference, if it is drawn. -/
def entrySite? (width : Nat) (entry : (Cell × Cell) × Nat) : Option Site :=
  if entry.1.1 = entry.1.2 ∨ entry.1.2.isContinuation then none
  else some ⟨entry.2 % width, entry.2 / width, entry.1.2⟩

theorem Drawing.compare_eq (width : Nat) (drawing : Drawing) (entry : (Cell × Cell) × Nat) :
    drawing.compare width entry = (entrySite? width entry).elim drawing drawing.draw := by
  unfold Drawing.compare entrySite?
  dsimp only
  split_ifs <;> rfl

/-- The sites of a row, from its entries. -/
theorem filterMap_entrySite? (hwidth : current.width = next.width) {y : Nat}
    (hcurrent : y < current.height) (hnext : y < next.height) :
    (((current.rowCells y).zip (next.rowCells y)).zipIdx (y * next.width)).filterMap
        (entrySite? next.width) =
      (List.range next.width).filterMap (changedSite? current next y) := by
  have hlength : ((current.rowCells y).zip (next.rowCells y)).length = next.width := by
    rw [List.length_zip, Frame.length_rowCells hcurrent, Frame.length_rowCells hnext, hwidth,
      Nat.min_self]
  rw [← Nat.add_zero (y * next.width), ← List.map_snd_add_zipIdx_eq_zipIdx, List.range_eq_range',
    ← hlength, ← List.zipIdx_map_snd, List.filterMap_map, List.filterMap_map, hlength]
  refine List.filterMap_congr ?_
  rintro ⟨⟨shown, wanted⟩, column⟩ hentry
  rw [List.mk_mem_zipIdx_iff_getElem?, List.getElem?_zip_eq_some,
    Frame.getElem?_rowCells hcurrent, Frame.getElem?_rowCells hnext] at hentry
  obtain ⟨hshown, hwanted⟩ := hentry
  dsimp only at hshown hwanted
  have hcolumn := (Frame.lt_of_get? hwanted).1
  have hplace : (column + y * next.width) % next.width = column ∧
      (column + y * next.width) / next.width = y := by
    rw [Nat.add_mul_mod_self_right, Nat.mod_eq_of_lt hcolumn,
      Nat.add_mul_div_right _ _ (Nat.zero_lt_of_lt hcolumn), Nat.div_eq_of_lt hcolumn, Nat.zero_add]
    exact ⟨rfl, rfl⟩
  dsimp only [Function.comp_apply, Prod.map_apply, id_eq]
  unfold entrySite? changedSite?
  dsimp only
  rw [hshown, hwanted, hplace.1, hplace.2]

/-- The difference draws the sites one after the other. -/
theorem difference_eq_foldl (hwidth : current.width = next.width)
    (hheight : current.height = next.height) (pen : Pen) :
    difference current next pen =
      (changedSites current next).foldl Drawing.draw (.start pen) := by
  have hentries : ((current.cells.toList.zip next.cells.toList).zipIdx).filterMap
      (entrySite? next.width) = changedSites current next := by
    rw [current.toList_cells, next.toList_cells, hheight,
      zipIdx_zip_rows hwidth next.height (Nat.le_of_eq hheight.symm) (Nat.le_refl _),
      List.filterMap_flatMap]
    refine List.flatMap_congr fun y hy ↦ ?_
    rw [List.mem_range] at hy
    exact filterMap_entrySite? hwidth (hheight ▸ hy) hy
  rw [← hentries, List.foldl_filterMap]
  refine congrArg (fun step ↦ List.foldl step _ _) (funext fun drawing ↦ funext fun entry ↦ ?_)
  rw [drawing.compare_eq]
  cases entrySite? next.width entry <;> rfl

end Sites

section Printings

variable {pen : Pen} {sites : List Site}

/-- Assumes: cells that have columns, none of them beyond the limit. They are drawn by what is not
known of each after the one before. -/
theorem Drawing.grows_foldl
    (hsites : ∀ site ∈ sites,
      0 < site.cell.width ∧ site.column + site.cell.width ≤ columnLimit) (drawing : Drawing) :
    drawing.Grows (sites.foldl Drawing.draw drawing)
      ((printings drawing.pen sites).flatMap Printing.marks) := by
  induction sites generalizing drawing with
  | nil => exact .refl drawing
  | cons site rest ih =>
    obtain ⟨⟨hwidth, hlimit⟩, hrest⟩ := List.forall_mem_cons.mp hsites
    have hothers := ih hrest (drawing.draw site)
    rw [drawing.draw_pen hwidth hlimit] at hothers
    exact (drawing.grows_draw site).trans hothers

/-- What is known before a printing is what the one before left. -/
theorem isChain_printings (pen : Pen) (sites : List Site) :
    (printings pen sites).IsChain fun earlier later ↦ later.known = earlier.site.pen := by
  induction sites generalizing pen with
  | nil => exact .nil
  | cons site rest ih =>
    cases rest with
    | nil => exact .singleton _
    | cons next others => exact List.isChain_cons_cons.mpr ⟨rfl, ih site.pen⟩

theorem known_of_printings_eq {first : Printing} {others : List Printing}
    (h : printings pen sites = first :: others) : first.known = pen := by
  cases sites with
  | nil => cases h
  | cons site rest =>
    obtain ⟨rfl, -⟩ := List.cons.inj h
    rfl

@[simp]
theorem filterMap_restyle (known : Pen) (style : Style) :
    (known.restyle style).filterMap Mark.glyph? = [] := by
  unfold Pen.restyle
  split_ifs <;> rfl

@[simp]
theorem Printing.filterMap_items (printing : Printing) :
    printing.items.filterMap Item.glyph? = [printing.site.cell.glyph] := by
  have hitems : Item.glyph? ∘ Mark.item = Mark.glyph? := funext Mark.glyph?_item
  rw [Printing.items, List.filterMap_map, hitems, Printing.marks, Printing.ink,
    List.filterMap_append, List.filterMap_append, filterMap_restyle]
  split_ifs <;> rfl

/-- One glyph is printed for each site. -/
@[simp]
theorem filterMap_printings (pen : Pen) (sites : List Site) :
    ((printings pen sites).flatMap Printing.items).filterMap Item.glyph? =
      sites.map fun site ↦ site.cell.glyph := by
  induction sites generalizing pen with
  | nil => rfl
  | cons site rest ih =>
    rw [printings, List.flatMap_cons, List.filterMap_append, ih, Printing.filterMap_items]
    rfl

@[simp]
theorem countP_restyle (known : Pen) (style : Style) :
    (known.restyle style).countP Mark.isColor = known.colorChanges style := by
  unfold Pen.restyle Pen.colorChanges
  split_ifs <;> rfl

@[simp]
theorem Printing.countP_isColor (printing : Printing) :
    printing.items.countP Item.isColor =
      printing.known.colorChanges printing.site.cell.style := by
  have hitems : Item.isColor ∘ Mark.item = Mark.isColor := funext Mark.isColor_item
  rw [Printing.items, List.countP_map, hitems, Printing.marks, Printing.ink, List.countP_append,
    List.countP_append, countP_restyle]
  split_ifs
  · exact Nat.zero_add _
  · exact Nat.zero_add _

end Printings

/-! ### Runs -/

/-- Assumes: an element is marked exactly when it is not related to the one before it. Cut into runs
of related elements, no element of a run but the first is marked, and the first one of every run but
the first is. -/
theorem splitBy_marked {α : Type} {related : α → α → Bool} {marked : α → Bool} {list : List α}
    (hchain : list.IsChain fun earlier later ↦ marked later = !related earlier later)
    {front back : List (List α)} {first : α} {others : List α}
    (hsplit : list.splitBy related = front ++ (first :: others) :: back) :
    (∀ later ∈ others, marked later = false) ∧ (front ≠ [] → marked first = true) ∧
      (front = [] → list.head? = some first) := by
  have hlist : list = front.flatten ++ ((first :: others) ++ back.flatten) := by
    rw [← List.flatten_splitBy related list, hsplit, List.flatten_append, List.flatten_cons]
  refine ⟨?_, ?_, ?_⟩
  · have hrelated : (first :: others).IsChain fun earlier later ↦ related earlier later = true :=
      List.isChain_of_mem_splitBy (hsplit ▸ List.mem_append_right front List.mem_cons_self)
    have hinside := hchain.infix ⟨front.flatten, back.flatten, by rw [hlist, List.append_assoc]⟩
    clear hlist hsplit hchain
    induction others generalizing first with
    | nil => exact nofun
    | cons next rest ih =>
      rw [List.isChain_cons_cons] at hrelated hinside
      refine List.forall_mem_cons.mpr ⟨?_, ih hrelated.2 hinside.2⟩
      rw [hinside.1, hrelated.1]
      rfl
  · intro hfront
    obtain ⟨earlier, before, rfl⟩ := (List.eq_nil_or_concat' front).resolve_left hfront
    have hruns := List.isChain_getLast_head_splitBy related list
    rw [hsplit, List.append_assoc, List.singleton_append, List.isChain_append_cons_cons] at hruns
    obtain ⟨hbefore, _, hapart⟩ := hruns.2.1
    have hlast : (earlier ++ [before]).flatten.getLast? = some (before.getLast hbefore) := by
      rw [List.flatten_append, List.flatten_singleton, List.getLast?_append_of_ne_nil _ hbefore,
        List.getLast?_eq_some_getLast hbefore]
    rw [hlist, List.isChain_append] at hchain
    rw [hchain.2.2 _ hlast first rfl]
    exact (congrArg not hapart).trans rfl
  · rintro rfl
    rw [hlist]
    rfl

section Runs

variable {pen : Pen} {sites : List Site}

/-- A glyph that is printed where the one before ended needs no address, and every other does. -/
theorem Printing.isAddressed_eq {earlier later : Printing}
    (h : later.known = earlier.site.pen) :
    later.isAddressed = !Printing.continues earlier later := by
  rw [Printing.isAddressed, h, Bool.eq_iff_iff]
  simp only [Site.pen, Printing.continues, bne_iff_ne, ne_eq, Option.some.injEq, Prod.mk.injEq,
    Bool.not_eq_true', decide_eq_false_iff_not]
  omega

theorem isAddress_restyle {known : Pen} {style : Style} {mark : Mark}
    (h : mark ∈ known.restyle style) : mark.isAddress = false := by
  have hall : (known.restyle style).all fun mark ↦ !mark.isAddress := by
    unfold Pen.restyle
    split_ifs <;> rfl
  exact (Bool.not_eq_true' _).mp (List.all_eq_true.mp hall mark h)

theorem Printing.isAddress_ink {printing : Printing} {item : Item}
    (h : item ∈ printing.ink.map Mark.item) : item.isAddress = false := by
  obtain ⟨mark, hmark, rfl⟩ := List.mem_map.mp h
  rw [Mark.isAddress_item]
  rcases List.mem_append.mp hmark with hstyle | hglyph
  · exact isAddress_restyle hstyle
  · rw [List.mem_singleton.mp hglyph]
    rfl

/-- A run has one address at most, and that comes first. -/
theorem Printing.run_items {first : Printing} {others : List Printing}
    (hothers : ∀ later ∈ others, later.isAddressed = false) :
    ∃ rest, (first :: others).flatMap Printing.items =
        (if first.isAddressed then [first.address.item] else []) ++ rest ∧
      ∀ item ∈ rest, item.isAddress = false := by
  refine ⟨first.ink.map Mark.item ++ others.flatMap Printing.items, ?_, ?_⟩
  · rw [List.flatMap_cons, Printing.items, Printing.marks, List.map_append, List.append_assoc]
    split_ifs <;> rfl
  · intro item hitem
    rcases List.mem_append.mp hitem with hink | hrest
    · exact Printing.isAddress_ink hink
    · obtain ⟨later, hlater, hitem⟩ := List.mem_flatMap.mp hrest
      rw [Printing.items, Printing.marks, hothers later hlater] at hitem
      exact Printing.isAddress_ink hitem

/-- Each run of adjacent glyphs has one address, except for the first where the cursor stood. -/
theorem runs_printings {front back : List (List Printing)} {first : Printing}
    {others : List Printing}
    (hsplit : (printings pen sites).splitBy Printing.continues =
      front ++ (first :: others) :: back) :
    ∃ rest, (first :: others).flatMap Printing.items =
        (if front = [] ∧ pen.cursor = some (first.site.column, first.site.row) then []
          else [first.address.item]) ++ rest ∧
      ∀ item ∈ rest, item.isAddress = false := by
  have hchain : (printings pen sites).IsChain fun earlier later ↦
      later.isAddressed = !Printing.continues earlier later :=
    (isChain_printings pen sites).imp fun _ _ ↦ Printing.isAddressed_eq
  obtain ⟨hothers, hlater, hfirst⟩ := splitBy_marked hchain hsplit
  obtain ⟨rest, hitems, hrest⟩ := Printing.run_items hothers
  refine ⟨rest, hitems.trans (congrArg (· ++ rest) ?_), hrest⟩
  by_cases hfront : front = []
  · obtain ⟨tail, htail⟩ := List.head?_eq_some_iff.mp (hfirst hfront)
    have hknown := known_of_printings_eq htail
    rw [Printing.isAddressed, hknown]
    by_cases hcursor : pen.cursor = some (first.site.column, first.site.row)
    · rw [if_neg (by simp [hcursor]), if_pos ⟨hfront, hcursor⟩]
    · rw [if_pos (by simp [hcursor]), if_neg (fun h ↦ hcursor h.2)]
  · rw [if_pos (hlater hfront), if_neg (fun h ↦ hfront h.1)]

end Runs

/-! ### Equal frames -/

section Equal

variable {current next : Frame}

/-- Frames of one size with the same cells are equal. -/
theorem Frame.eq_of_get? (hwidth : current.width = next.width)
    (hheight : current.height = next.height)
    (hcells : ∀ x y, current.get? x y = next.get? x y) : current = next := by
  have hrows : ∀ y ∈ List.range next.height, current.rowCells y = next.rowCells y := by
    intro y hy
    rw [List.mem_range] at hy
    refine List.ext_getElem? fun x ↦ ?_
    rw [Frame.getElem?_rowCells (hheight ▸ hy), Frame.getElem?_rowCells hy, hcells]
  have harray : current.cells = next.cells := by
    refine Array.toList_inj.mp ?_
    rw [current.toList_cells, next.toList_cells, hheight]
    exact List.flatMap_congr hrows
  obtain ⟨width, height, cells, hsize⟩ := current
  cases hwidth
  cases hheight
  cases harray
  rfl

/-- Assumes: well-paired frames of one size. If no cell is to be printed they are equal: a
continuation follows its wide cell in both. -/
theorem eq_of_changedSites_eq_nil (hcurrent : current.WellPaired) (hnext : next.WellPaired)
    (hwidth : current.width = next.width) (hheight : current.height = next.height)
    (h : changedSites current next = []) : current = next := by
  have hwhole : ∀ x y shown wanted, current.get? x y = some shown → next.get? x y = some wanted →
      wanted.isContinuation = false → shown = wanted := by
    intro x y shown wanted hshown hwanted hglyph
    by_contra hdiffers
    have hsite : (⟨x, y, wanted⟩ : Site) ∈ changedSites current next :=
      mem_changedSites.mpr ⟨shown, hshown, hwanted, hdiffers, hglyph⟩
    rw [h] at hsite
    cases hsite
  have hsome : ∀ x y, (current.get? x y).isSome ↔ (next.get? x y).isSome := by
    simp [hwidth, hheight]
  refine Frame.eq_of_get? hwidth hheight fun x y ↦ ?_
  cases hwanted : next.get? x y with
  | none =>
    rw [← Option.not_isSome_iff_eq_none, hsome, hwanted]
    exact Bool.false_ne_true
  | some wanted =>
    obtain ⟨shown, hshown⟩ := Option.isSome_iff_exists.mp ((hsome x y).mpr (by rw [hwanted]; rfl))
    by_cases hglyph : wanted.isContinuation = true
    · obtain ⟨left, hpositive, hleft, hwide⟩ := hnext.continuation x y wanted hwanted hglyph
      obtain ⟨other, hother⟩ := Option.isSome_iff_exists.mp
        ((hsome (x - 1) y).mpr (by rw [hleft]; rfl))
      have hleftGlyph : left.isContinuation = false := by
        rw [Cell.isContinuation, hwide]
        rfl
      obtain rfl := hwhole _ _ _ _ hother hleft hleftGlyph
      have hboth := (hcurrent.wide _ _ _ hother hwide).trans (hnext.wide _ _ _ hleft hwide).symm
      rw [Nat.sub_add_cancel hpositive] at hboth
      rw [hboth, hwanted]
    · rw [hshown, hwhole x y shown wanted hshown hwanted (Bool.eq_false_iff.mpr hglyph)]

end Equal

/-! ### The output of a difference -/

/-- Assumes: well-paired frames of one size, whose columns have numbers.

With any pen, what is sent to show the second in place of the first prints the cells that differ and
are no continuations, has one cursor address for each run of adjacent ones except where the cursor
was known to stand, and selects colours only where they change or a modifier has to be removed. The
counters count what is sent, and nothing is sent exactly when the frames are equal. -/
theorem difference_minimal {current next : Frame} (hcurrent : current.WellPaired)
    (hnext : next.WellPaired) (hwidth : current.width = next.width)
    (hheight : current.height = next.height) (hlimit : next.width ≤ columnLimit) (pen : Pen) :
    ∃ items, MinimalOutput current next pen (difference current next pen) items := by
  set sites := changedSites current next
  set marks := (printings pen sites).flatMap Printing.marks
  have hgrows : (Drawing.start pen).Grows (difference current next pen) marks := by
    rw [difference_eq_foldl hwidth hheight]
    refine Drawing.grows_foldl (fun site hsite ↦ ?_) (.start pen)
    obtain ⟨hpositive, hinside⟩ := hnext.site_le hsite
    exact ⟨hpositive, Nat.le_trans hinside hlimit⟩
  have hplain : ∀ mark ∈ marks, mark.isPlain = true := by
    intro mark hmark
    have hadds : (Drawing.start pen).Adds next.width next.height (difference current next pen) :=
      Drawing.adds_difference hnext.legible pen
    have hfits := hadds.fits fun mark hmark ↦ by cases hmark
    exact (hfits mark (hgrows.added ▸ hmark)).isPlain
  have hread : readOutput (difference current next pen).bytes = some (marks.map Mark.item) := by
    rw [Drawing.bytes, hgrows.added]
    exact readOutput_bytesOfMarks hplain
  have hitems : marks.map Mark.item = (printings pen sites).flatMap Printing.items :=
    List.map_flatMap
  have hcount {kind : Item → Bool} {markKind : Mark → Bool}
      (hkind : ∀ mark, kind mark.item = markKind mark) :
      0 + marks.countP markKind = (marks.map Mark.item).countP kind := by
    rw [List.countP_map, Nat.zero_add]
    exact List.countP_congr fun mark _ ↦ by rw [Function.comp_apply, hkind]
  refine ⟨marks.map Mark.item, hread, hitems, hitems ▸ filterMap_printings pen sites,
    hgrows.cells.trans (hcount Mark.isGlyph_item), hgrows.moves.trans (hcount Mark.isAddress_item),
    hgrows.colors.trans (hcount Mark.isColor_item), fun _ _ _ _ ↦ runs_printings, ?_, ?_, ?_⟩
  · intro first others hfirst
    rw [first.countP_isColor, known_of_printings_eq hfirst]
  · exact (isChain_printings pen sites).imp fun earlier later hknown ↦ by
      rw [later.countP_isColor, hknown]
  · constructor
    · intro hnone
      refine eq_of_changedSites_eq_nil hcurrent hnext hwidth hheight ?_
      rw [hnone] at hread
      have hempty : [] = marks.map Mark.item := Option.some.inj hread
      have hglyphs := filterMap_printings pen sites
      rw [← hitems, ← hempty] at hglyphs
      exact List.map_eq_nil_iff.mp hglyphs.symm
    · rintro rfl
      rw [difference_self]
      rfl

/-- The statement for two cells of which the second one becomes a bold letter. -/
theorem difference_minimal_letter :
    (Frame.blank 2 1).WellPaired ∧ ((Frame.blank 2 1).put 1 0 ['a'] Style.plain.bold).WellPaired ∧
      ∃ items, MinimalOutput (.blank 2 1) ((Frame.blank 2 1).put 1 0 ['a'] Style.plain.bold)
        .unknown (difference (.blank 2 1) ((Frame.blank 2 1).put 1 0 ['a'] Style.plain.bold)
          .unknown) items ∧ items.filterMap Item.glyph? = ['a'] := by
  have hcurrent := Frame.wellPaired_blank 2 1
  have hnext : ((Frame.blank 2 1).put 1 0 ['a'] Style.plain.bold).WellPaired :=
    (Frame.writes_put (by decide) hcurrent (Frame.openFrom_blank 2 1 1 0) ['a']
      Style.plain.bold).paired
  obtain ⟨items, houtput⟩ := difference_minimal hcurrent hnext (by decide +kernel)
    (by decide +kernel) (by decide +kernel) .unknown
  refine ⟨hcurrent, hnext, items, houtput, houtput.glyphs.trans ?_⟩
  decide +kernel

end LiveBoard.Screen
