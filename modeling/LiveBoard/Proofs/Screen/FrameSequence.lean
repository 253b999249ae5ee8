import LiveBoard.Proofs.Screen.FrameDrawing
import LiveBoard.Proofs.Screen.Writing

/-!
# Sequences of frames

A `Screening` draws frames on a terminal one after the other: it repaints the first one and draws
every other one as the difference to the frame before. `Screening.Sound` is what every frame
leaves for the next one (`Sound.turn`, `Sound.turnAll`), and `Screening.run_shows` is the result:
incremental drawing shows what a repaint of the last frame alone would show.
-/

set_option autoImplicit false
set_option relaxedAutoImplicit false

namespace LiveBoard.Screen

/-- A terminal on which frames are drawn one after the other. -/
structure Screening where
  /-- The terminal. -/
  terminal : Terminal
  /-- What is known about it. -/
  pen : Pen
  /-- The frame drawn last. -/
  frame : Frame
  /-- The marks of all drawings. -/
  marks : List Mark

/-- The first frame is repainted, on a terminal that may show anything. -/
def Screening.open (terminal : Terminal) (first : Frame) : Screening :=
  ⟨terminal.feed (repaint first).bytes, (repaint first).pen, first, (repaint first).marks.toList⟩

/-- Another frame is drawn as the difference to the one before. -/
def Screening.turn (screening : Screening) (next : Frame) : Screening :=
  let drawing := difference screening.frame next screening.pen
  ⟨screening.terminal.feed drawing.bytes, drawing.pen, next,
    screening.marks ++ drawing.marks.toList⟩

/-- Frames are drawn one after the other. -/
def Screening.run (terminal : Terminal) (first : Frame) (rest : List Frame) : Screening :=
  rest.foldl Screening.turn (.open terminal first)

/-- What holds after every frame. -/
structure Screening.Sound (screening : Screening) (width height : Nat) : Prop where
  /-- The frame has the common size and is well paired. -/
  frame : screening.frame.PairedOfSize width height
  /-- The screen is large enough. -/
  holds : screening.terminal.device.Holds width height
  /-- The frame is shown, and what is known about the terminal is true. -/
  inStep : screening.terminal.InStep screening.frame screening.pen
  /-- The marks fit, but for those that hide the cursor. -/
  fits : ∀ mark ∈ screening.marks, mark = .hideCursor ∨ mark.Fits width height

section Runs

variable {width height : Nat} {terminal : Terminal} {screening : Screening} {first next : Frame}

theorem Screening.sound_open (hfirst : first.PairedOfSize width height)
    (hholds : terminal.device.Holds width height) (hwidth : 0 < width) :
    (Screening.open terminal first).Sound width height := by
  obtain ⟨hpaired, rfl, rfl⟩ := hfirst
  have hadds := (Drawing.repaint_rows hpaired hholds hwidth).2.2
  refine ⟨⟨hpaired, rfl, rfl⟩, ?_, Terminal.inStep_feed_repaint hpaired hholds hwidth, ?_⟩
  · rw [Screening.open, Terminal.feed_device]
    exact hholds
  · obtain ⟨marks, hmarks, hfits⟩ := hadds
    intro mark hmark
    rw [Screening.open, hmarks, List.mem_append] at hmark
    rcases hmark with hstart | hdrawn
    · rcases List.mem_cons.mp hstart with rfl | hreset
      · exact Or.inl rfl
      · rcases List.mem_singleton.mp hreset with rfl
        exact Or.inr trivial
    · exact Or.inr (hfits mark hdrawn)

theorem Screening.Sound.turn (h : screening.Sound width height)
    (hnext : next.PairedOfSize width height) : (screening.turn next).Sound width height := by
  obtain ⟨hcurrent, hholds, hstep, hfits⟩ := h
  have hwidth : screening.frame.width = next.width := by rw [hcurrent.width, hnext.width]
  have hheight : screening.frame.height = next.height := by rw [hcurrent.height, hnext.height]
  obtain ⟨hpaired, rfl, rfl⟩ := hnext
  have hpen : screening.pen.Agrees next.width next.height screening.terminal := by
    rw [← hwidth, ← hheight]
    exact hstep.agrees
  have hadds := (Drawing.difference_rows hcurrent.paired hpaired hwidth hheight hholds hstep.shows
    hpen).2.2
  refine ⟨⟨hpaired, rfl, rfl⟩, ?_,
    hstep.feed_difference hcurrent.paired hpaired hwidth hheight hholds, ?_⟩
  · rw [Screening.turn, Terminal.feed_device]
    exact hholds
  · intro mark hmark
    rcases List.mem_append.mp hmark with hold | hnew
    · exact hfits mark hold
    · exact Or.inr (hadds.fits (fun _ h ↦ by cases h) mark hnew)

/-- Every further frame leaves what the next one needs. -/
theorem Screening.Sound.turnAll (h : screening.Sound width height) (rest : List Frame)
    (hrest : ∀ frame ∈ rest, frame.PairedOfSize width height) :
    (rest.foldl Screening.turn screening).Sound width height := by
  induction rest generalizing screening with
  | nil => exact h
  | cons next rest ih =>
    refine ih (h.turn (hrest next List.mem_cons_self)) ?_
    intro frame hframe
    exact hrest frame (List.mem_cons_of_mem _ hframe)

/-- The frame drawn last is the last of those that were drawn. -/
theorem Screening.frame_run (terminal : Terminal) (first : Frame) (rest : List Frame) (count : Nat)
    {frame : Frame} (hframe : (first :: rest)[count]? = some frame) :
    (Screening.run terminal first (rest.take count)).frame = frame := by
  cases count with
  | zero =>
    cases hframe
    rfl
  | succ count =>
    rw [List.getElem?_cons_succ] at hframe
    unfold Screening.run
    rw [List.take_add_one, hframe, List.foldl_append]
    rfl

/-- Assumes: well-paired frames of one size, with at least one column and no more columns and rows
than can be counted, and two screens that are large enough. The frames are drawn on the first
screen one after the other, whatever it showed and whatever it was reading before. After each of
them every place of the window shows its cell, which is what a repaint of that frame alone shows
on the other screen; what is known about the terminal is true; and no column or row of a cursor
address, counted from one, exceeds the limit. -/
theorem Screening.run_shows (terminal other : Terminal) (hwidth : 0 < width)
    (hcolumns : width ≤ columnLimit) (hrows : height ≤ columnLimit)
    (hscreen : width ≤ terminal.device.columns ∧ height ≤ terminal.device.rows)
    (hother : width ≤ other.device.columns ∧ height ≤ other.device.rows)
    (first : Frame) (rest : List Frame)
    (hframes : ∀ frame ∈ first :: rest, frame.PairedOfSize width height) (count : Nat)
    (frame : Frame) (hframe : (first :: rest)[count]? = some frame) :
    let screening := Screening.run terminal first (rest.take count)
    (∀ x < width, ∀ y < height,
      (frame.get? x y).map Cell.look = some (screening.terminal.lines y x) ∧
        screening.terminal.lines y x = (other.feed (repaint frame).bytes).lines y x) ∧
      screening.pen.Agrees width height screening.terminal ∧
      ∀ x y, Mark.moveTo x y ∈ screening.marks → x + 1 ≤ columnLimit ∧ y + 1 ≤ columnLimit := by
  intro screening
  have hopened := Screening.sound_open (hframes first List.mem_cons_self)
    ⟨hscreen.1, hscreen.2, hcolumns⟩ hwidth
  have hsound : screening.Sound width height := by
    refine hopened.turnAll (rest.take count) ?_
    intro next hnext
    exact hframes next (List.mem_cons_of_mem _ (List.mem_of_mem_take hnext))
  have hlast : screening.frame = frame := Screening.frame_run terminal first rest count hframe
  have hsize := hsound.frame
  have hstep := hsound.inStep
  rw [hlast] at hsize hstep
  have halone : (other.feed (repaint frame).bytes).Shows frame := by
    refine (Terminal.inStep_feed_repaint hsize.paired ?_ (by rw [hsize.width]; exact hwidth)).shows
    rw [hsize.width, hsize.height]
    exact ⟨hother.1, hother.2, hcolumns⟩
  refine ⟨?_, ?_, ?_⟩
  · intro x hx y hy
    have hin : (frame.get? x y).isSome := by
      rw [Frame.isSome_get?, hsize.width, hsize.height]
      exact ⟨hx, hy⟩
    obtain ⟨cell, hcell⟩ := Option.isSome_iff_exists.mp hin
    rw [hcell, hstep.shows y x cell hcell, halone y x cell hcell]
    exact ⟨rfl, rfl⟩
  · rw [← hsize.width, ← hsize.height]
    exact hstep.agrees
  · intro x y hmark
    obtain ⟨hx, hy⟩ : x < width ∧ y < height :=
      (hsound.fits _ hmark).resolve_left fun h ↦ by cases h
    omega

end Runs

/-! ### A wide glyph on a torn screen -/

/-- A terminal that shows question marks and whose input broke off after an escape byte. -/
def Terminal.torn (columns rows : Nat) : Terminal where
  device := ⟨columns, rows, fun _ attributes ↦ attributes⟩
  lines := fun _ _ ↦ ⟨'?', 1, .standard⟩
  column := 0
  row := 0
  attributes := ⟨.rgb .black, .standard, true⟩
  cursorShown := true
  reading := .escape

/-- A row of two columns that holds one wide glyph. -/
def Frame.wideRow : Frame := (Frame.blank 2 1).put 0 0 ['日'] .plain

theorem Frame.pairedOfSize_wideRow : Frame.wideRow.PairedOfSize 2 1 := by
  have hwrites := Frame.writes_put (by decide) (Frame.wellPaired_blank 2 1)
    (Frame.openFrom_blank 2 1 0 0) ['日'] .plain
  exact ⟨hwrites.paired, hwrites.width, hwrites.height⟩

theorem Screening.run_shows_wideRow :
    let screening := Screening.run (.torn 80 24) (.blank 2 1) [.wideRow]
    screening.terminal.lines 0 0 = ⟨'日', 2, .standard⟩ ∧
      screening.terminal.lines 0 1 = ⟨Char.ofNat 0, 0, .standard⟩ := by
  have hframes : ∀ frame ∈ [Frame.blank 2 1, .wideRow], frame.PairedOfSize 2 1 := by
    intro frame hframe
    rcases List.mem_cons.mp hframe with rfl | hframe
    · exact ⟨Frame.wellPaired_blank 2 1, rfl, rfl⟩
    · rw [List.mem_singleton.mp hframe]
      exact Frame.pairedOfSize_wideRow
  obtain ⟨hshown, -, -⟩ := Screening.run_shows (.torn 80 24) (.torn 2 1) (by decide) (by decide)
    (by decide) (by decide) (by decide) (.blank 2 1) [.wideRow] hframes 1 .wideRow rfl
  have htake : [Frame.wideRow].take 1 = [.wideRow] := rfl
  rw [htake] at hshown
  have hleft := (hshown 0 (by decide) 0 (by decide)).1
  have hright := (hshown 1 (by decide) 0 (by decide)).1
  have hglyph : Frame.wideRow.get? 0 0 = some ⟨'日', 2, .plain⟩ := by decide +kernel
  have hhalf : Frame.wideRow.get? 1 0 = some (.continuation .plain) := by decide +kernel
  rw [hglyph] at hleft
  rw [hhalf] at hright
  constructor
  · exact (Option.some.inj hleft).symm
  · exact (Option.some.inj hright).symm

end LiveBoard.Screen
