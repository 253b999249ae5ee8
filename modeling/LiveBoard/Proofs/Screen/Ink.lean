import LiveBoard.Proofs.Screen.Writing

/-!
# What strokes put at a place

Where the characters of strokes are narrow, what strokes do to a frame is told place by place and
without the frame: `inkOf?` is the cell that the last stroke covering a place puts there, and a
place that no stroke covers keeps its cell (`Frame.get?_drawAll`). So the frame matters only by
which places it has.
-/

set_option autoImplicit false
set_option relaxedAutoImplicit false

namespace LiveBoard.Screen

/-! ### Ink -/

/-- The cell that a stroke of narrow characters puts at a place. -/
def Stroke.ink? (x y : Nat) : Stroke → Option Cell
  | .text left row chars style =>
    if y = row ∧ left ≤ x then chars[x - left]?.map fun c ↦ ⟨c, 1, style⟩ else none
  | .span left row width style =>
    if y = row ∧ left ≤ x ∧ x < left + width then some (Cell.blank.withStyle style) else none

/-- The cell that the last of some strokes that covers a place puts there. -/
def inkOf? (x y : Nat) : List Stroke → Option Cell
  | [] => none
  | stroke :: rest => (inkOf? x y rest).or (stroke.ink? x y)

/-- The characters of a stroke take one column each, and it ends far from the largest column
number. -/
def Stroke.Fits : Stroke → Prop
  | .text left _ chars _ => (∀ c ∈ chars, glyphWidth c = 1) ∧ left + 2 * chars.length ≤ columnLimit
  | .span _ _ _ _ => True

section Ink

variable {x y : Nat}

@[simp]
theorem inkOf?_append (first second : List Stroke) :
    inkOf? x y (first ++ second) = (inkOf? x y second).or (inkOf? x y first) := by
  induction first with
  | nil => simp [inkOf?]
  | cons stroke rest ih => rw [List.cons_append, inkOf?, ih, inkOf?, Option.or_assoc]

@[simp]
theorem inkOf?_singleton (stroke : Stroke) : inkOf? x y [stroke] = stroke.ink? x y := by
  simp [inkOf?]

/-- Assumes: strokes for each item of a list of which only those of one index cover a place. What
they put there is what the strokes of that item put there. -/
theorem inkOf?_zipIdx {α : Type} (strokes : α × Nat → List Stroke) (index : Nat)
    (hothers : ∀ item k, k ≠ index → inkOf? x y (strokes (item, k)) = none) (items : List α) :
    inkOf? x y (items.zipIdx.flatMap strokes) =
      items[index]?.bind fun item ↦ inkOf? x y (strokes (item, index)) := by
  have hfrom : ∀ start, inkOf? x y ((items.zipIdx start).flatMap strokes) =
      if start ≤ index then
        items[index - start]?.bind fun item ↦ inkOf? x y (strokes (item, index))
      else none := by
    induction items with
    | nil => simp [inkOf?]
    | cons item rest ih =>
      intro start
      rw [List.zipIdx_cons, List.flatMap_cons, inkOf?_append, ih (start + 1)]
      obtain hbefore | rfl | hafter := Nat.lt_trichotomy start index
      · rw [hothers item start (Nat.ne_of_lt hbefore), Option.or_none,
          if_pos (by omega : start + 1 ≤ index), if_pos (by omega : start ≤ index),
          List.getElem?_cons, if_neg (by omega : ¬ index - start = 0), Nat.sub_sub]
      · simp [show ¬ start + 1 ≤ start by omega]
      · rw [hothers item start (Nat.ne_of_gt hafter), if_neg (by omega : ¬ start + 1 ≤ index),
          if_neg (by omega : ¬ start ≤ index)]
        rfl
  simpa using hfrom 0

end Ink

/-! ### Drawing -/

section Drawing

variable {frame : Frame} {x y : Nat}

/-- Setting a cell changes its own place, if the frame has it. -/
theorem Frame.get?_set_of_lt (hx : x < frame.width) (hy : y < frame.height) (column row : Nat)
    (cell : Cell) :
    (frame.set column row cell).get? x y =
      if y = row ∧ x = column then some cell else frame.get? x y := by
  by_cases hin : column < frame.width ∧ row < frame.height
  · rw [Frame.get?_set hin.1 hin.2]
    simp only [and_comm]
  · rw [Frame.set_of_not_lt hin, if_neg]
    rintro ⟨rfl, rfl⟩
    exact hin ⟨hx, hy⟩

theorem styled_of_narrow {c : Char} (h : glyphWidth c = 1) (style : Style) :
    Cell.styled c style = ⟨c, 1, style⟩ := by
  simp [Cell.styled, Cell.ofChar, Cell.withStyle, h]

/-- A text of narrow characters puts each of them into its own place, as far as the row goes. -/
theorem Frame.get?_put (hx : x < frame.width) (hy : y < frame.height) (left row : Nat)
    {text : List Char} (htext : ∀ c ∈ text, glyphWidth c = 1) (style : Style) :
    (frame.put left row text style).get? x y =
      ((Stroke.text left row text style).ink? x y).or (frame.get? x y) := by
  unfold Frame.put Frame.fittingText
  generalize hwidth : frame.width = width
  induction text generalizing frame left with
  | nil => simp [fitting, Frame.placeAll, Stroke.ink?]
  | cons c rest ih =>
    have hcell := styled_of_narrow (htext c List.mem_cons_self) style
    have hnarrow : (Cell.styled c style).width = 1 := congrArg Cell.width hcell
    by_cases hfull : width < min (left + (Cell.styled c style).width) columnLimit
    · have hbeyond : ¬ (y = row ∧ left ≤ x) := by omega
      rw [fitting_cons_of_lt hfull, Stroke.ink?, if_neg hbeyond]
      rfl
    · rw [fitting_cons_of_not_lt hfull, hcell, Frame.placeAll]
      have hplace : frame.place left row ⟨c, 1, style⟩ = frame.set left row ⟨c, 1, style⟩ :=
        if_neg (Nat.succ_ne_succ_iff.mpr Nat.zero_ne_one)
      rw [hplace, ih (by simpa using hx) (by simpa using hy) (left + 1)
        (fun d hd ↦ htext d (List.mem_cons_of_mem c hd)) (by simpa using hwidth),
        Frame.get?_set_of_lt hx hy]
      by_cases hrow : y = row
      · obtain hbefore | rfl | hafter := Nat.lt_trichotomy x left
        · simp [Stroke.ink?, hrow, show ¬ left ≤ x by omega, show ¬ left + 1 ≤ x by omega,
            show x ≠ left by omega]
        · simp [Stroke.ink?, hrow, show ¬ x + 1 ≤ x by omega]
        · have hindex : x - left = (x - (left + 1)) + 1 := by omega
          simp [Stroke.ink?, hrow, show left ≤ x by omega, show left + 1 ≤ x by omega,
            show x ≠ left by omega, hindex]
      · simp [Stroke.ink?, hrow]

/-- A span blanks its places, as far as the row goes. -/
theorem Frame.get?_fill (hx : x < frame.width) (hy : y < frame.height) (left row width : Nat)
    (style : Style) :
    (frame.fill left row width style).get? x y =
      ((Stroke.span left row width style).ink? x y).or (frame.get? x y) := by
  have hset : ∀ (span : List Nat) (frame : Frame), x < frame.width → y < frame.height →
      (span.foldl (fun frame column ↦ frame.set column row (Cell.blank.withStyle style))
        frame).get? x y =
        if y = row ∧ x ∈ span then some (Cell.blank.withStyle style) else frame.get? x y := by
    intro span
    induction span with
    | nil => intro frame _ _; simp
    | cons column rest ih =>
      intro frame hx hy
      rw [List.foldl_cons, ih _ (by simpa using hx) (by simpa using hy),
        Frame.get?_set_of_lt hx hy]
      by_cases hrow : y = row
      · by_cases hrest : x ∈ rest
        · simp [hrow, hrest]
        · simp [hrow, hrest]
      · simp [hrow]
  rw [Frame.fill, hset _ frame hx hy, Stroke.ink?]
  have hspan : x ∈ List.range' left (min (left + width) frame.width - left) ↔
      left ≤ x ∧ x < left + width := by
    rw [List.mem_range'_1]
    omega
  simp only [hspan]
  split_ifs <;> rfl

theorem Frame.size_placeAll (frame : Frame) (left row : Nat) (cells : List Cell) :
    (frame.placeAll left row cells).width = frame.width ∧
      (frame.placeAll left row cells).height = frame.height := by
  induction cells generalizing frame left with
  | nil => exact ⟨rfl, rfl⟩
  | cons cell rest ih =>
    obtain ⟨hwidth, hheight⟩ := ih (frame.place left row cell) (left + cell.width)
    exact ⟨hwidth.trans (by simp), hheight.trans (by simp)⟩

theorem Frame.size_fill (frame : Frame) (left row width : Nat) (style : Style) :
    (frame.fill left row width style).width = frame.width ∧
      (frame.fill left row width style).height = frame.height := by
  unfold Frame.fill
  generalize List.range' left _ = span
  induction span generalizing frame with
  | nil => exact ⟨rfl, rfl⟩
  | cons column rest ih =>
    obtain ⟨hwidth, hheight⟩ := ih (frame.set column row (Cell.blank.withStyle style))
    exact ⟨hwidth.trans (by simp), hheight.trans (by simp)⟩

/-- Drawing does not change the size of a frame. -/
theorem Frame.size_draw (frame : Frame) (stroke : Stroke) :
    (frame.draw stroke).width = frame.width ∧ (frame.draw stroke).height = frame.height := by
  cases stroke with
  | text left row chars style => exact frame.size_placeAll left row _
  | span left row width style => exact frame.size_fill left row width style

theorem Frame.get?_draw (hx : x < frame.width) (hy : y < frame.height) {stroke : Stroke}
    (hfits : stroke.Fits) :
    (frame.draw stroke).get? x y = (stroke.ink? x y).or (frame.get? x y) := by
  cases stroke with
  | text left row text style => exact Frame.get?_put hx hy left row hfits.1 style
  | span left row width style => exact Frame.get?_fill hx hy left row width style

theorem Frame.size_drawAll (frame : Frame) (strokes : List Stroke) :
    (frame.drawAll strokes).width = frame.width ∧
      (frame.drawAll strokes).height = frame.height := by
  induction strokes generalizing frame with
  | nil => exact ⟨rfl, rfl⟩
  | cons stroke rest ih =>
    obtain ⟨hwidth, hheight⟩ := ih (frame.draw stroke)
    obtain ⟨hfirst, hsecond⟩ := frame.size_draw stroke
    exact ⟨hwidth.trans hfirst, hheight.trans hsecond⟩

/-- A place of a frame holds what strokes put there, or what it held before. -/
theorem Frame.get?_drawAll (hx : x < frame.width) (hy : y < frame.height) {strokes : List Stroke}
    (hfits : ∀ stroke ∈ strokes, stroke.Fits) :
    (frame.drawAll strokes).get? x y = (inkOf? x y strokes).or (frame.get? x y) := by
  induction strokes generalizing frame with
  | nil => simp [Frame.drawAll, inkOf?]
  | cons stroke rest ih =>
    obtain ⟨hwidth, hheight⟩ := frame.size_draw stroke
    have hrest := ih (hwidth ▸ hx) (hheight ▸ hy) fun other hother ↦
      hfits other (List.mem_cons_of_mem stroke hother)
    rw [inkOf?, Option.or_assoc, ← Frame.get?_draw hx hy (hfits stroke List.mem_cons_self)]
    exact hrest

/-- Strokes of which none overruns are drawn. -/
theorem Frame.drawAll?_of_not_overruns (frame : Frame) {strokes : List Stroke}
    (h : ∀ stroke ∈ strokes, frame.strokeOverruns stroke = false) :
    frame.drawAll? strokes = some (frame.drawAll strokes) := by
  rw [Frame.drawAll?, if_neg]
  rw [List.any_eq_true]
  rintro ⟨stroke, hstroke, hoverrun⟩
  rw [h stroke hstroke] at hoverrun
  cases hoverrun

/-- Strokes that fit can be drawn into any frame. -/
theorem Frame.drawAll?_of_fits (frame : Frame) {strokes : List Stroke}
    (hfits : ∀ stroke ∈ strokes, stroke.Fits) :
    frame.drawAll? strokes = some (frame.drawAll strokes) := by
  refine frame.drawAll?_of_not_overruns fun stroke hstroke ↦ ?_
  have hstroke := hfits stroke hstroke
  cases stroke with
  | text left row chars style =>
    have hused := columns_fitting_le frame.width left style chars
    rw [Frame.strokeOverruns, Frame.overruns, decide_eq_false_iff_not, Nat.not_lt]
    exact Nat.le_trans (Nat.add_le_add_left hused left) hstroke.2
  | span left row width style => rfl

end Drawing

end LiveBoard.Screen
