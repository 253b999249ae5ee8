import LiveBoard.Display.Renderer
import LiveBoard.Proofs.Board.Painting
import LiveBoard.Proofs.Display.WorkingOutlet
import LiveBoard.Proofs.Screen.FrameSequence

/-!
# The visible frame

What an outlet accepts is what the terminal receives. Where a write is complete, that is all of a
drawing (`writeAll_complete`); where it fails, the terminal is left with any part of it, perhaps
in the middle of a control sequence or a character, and the next drawing is a repaint, which needs
nothing of the terminal. So the renderer is sound after every call (`Renderer.Sound`,
`Sound.call`), and unless it needs a repaint the screen shows the frame that it takes for visible
(`Renderer.screen_shows_visible`).
-/

set_option autoImplicit false
set_option relaxedAutoImplicit false

namespace LiveBoard.Display

open Screen

/-! ### Complete writes -/

/-- A complete write accepts every byte, in whatever pieces and after whatever interruptions. -/
@[simp]
theorem writeAll_complete (answers : List WriteAnswer) (bytes : List UInt8)
    (hcomplete : (writeAll answers bytes).complete = true) :
    (writeAll answers bytes).accepted = bytes := by
  induction answers generalizing bytes with
  | nil =>
    cases bytes with
    | nil => rfl
    | cons byte rest => rfl
  | cons answer answers ih =>
    cases bytes with
    | nil => rfl
    | cons byte rest =>
      cases answer with
      | everything => rfl
      | interrupted => exact ih (byte :: rest) hcomplete
      | failed => cases hcomplete
      | atMost count =>
        cases count with
        | zero => cases hcomplete
        | succ count =>
          have hrest := ih ((byte :: rest).drop (count + 1)) hcomplete
          change (byte :: rest).take (count + 1) ++ _ = _
          rw [hrest, List.take_append_drop]

theorem Outlet.accepted_send (outlet : Outlet) (bytes : List UInt8)
    (hsent : (outlet.send bytes).1 = true) :
    (outlet.send bytes).2.accepted.toList = outlet.accepted.toList ++ bytes := by
  unfold Outlet.send at hsent ⊢
  dsimp only at hsent ⊢
  by_cases hcomplete : (writeAll outlet.writes bytes).complete = true
  · rw [if_pos hcomplete, Outlet.flush]
    simp [hcomplete]
  · rw [if_neg hcomplete] at hsent
    cases hsent

/-- A drawing that was sent was received after everything before it. -/
theorem Renderer.accepted_send (renderer : Renderer) (bytes : List UInt8)
    (hsent : (renderer.send bytes).1 = true) :
    (renderer.send bytes).2.accepted.toList = renderer.outlet.accepted.toList ++ bytes := by
  unfold Renderer.send at hsent ⊢
  by_cases hempty : bytes.isEmpty = true
  · rw [if_pos hempty, List.isEmpty_iff.mp hempty, List.append_nil]
  · rw [if_neg hempty] at hsent ⊢
    exact renderer.outlet.accepted_send bytes hsent

/-! ### Calls -/

/-- A call of the renderer, at some time. -/
inductive RendererCall
  /-- Stages a view, and draws it if it is due. -/
  | update (view : Board.View) (now : Instant)
  /-- Draws the staged frame if it is due. -/
  | tick (now : Instant)
  /-- Draws the staged frame, due or not. -/
  | flushNow (now : Instant)

/-- The renderer after a call. -/
def Renderer.call (renderer : Renderer) : RendererCall → Renderer
  | .update view now => renderer.update view now
  | .tick now => renderer.tick now
  | .flushNow now => renderer.flushNow now

/-- The renderer after calls. -/
def Renderer.callAll (renderer : Renderer) (calls : List RendererCall) : Renderer :=
  calls.foldl Renderer.call renderer

/-- What a terminal shows that received all bytes that the outlet accepted. -/
def Renderer.screen (renderer : Renderer) (terminal : Terminal) : Terminal :=
  terminal.feed renderer.outlet.accepted.toList

/-- What holds of the renderer between calls. -/
structure Renderer.Sound (renderer : Renderer) (terminal : Terminal) : Prop where
  visible : renderer.visible.PairedOfSize Board.frameWidth Board.frameHeight
  next : renderer.next.PairedOfSize Board.frameWidth Board.frameHeight
  inStep : renderer.needsRepaint = false →
    (renderer.screen terminal).InStep renderer.visible renderer.pen

section Sound

variable {renderer : Renderer} {terminal : Terminal}

theorem Renderer.sound_new (outlet : Outlet) (refreshPerSecond : Nat) (terminal : Terminal) :
    (Renderer.new outlet refreshPerSecond).Sound terminal := by
  have hblank : (Frame.blank Board.frameWidth Board.frameHeight).PairedOfSize Board.frameWidth
      Board.frameHeight := ⟨Frame.wellPaired_blank _ _, rfl, rfl⟩
  refine ⟨hblank, hblank, ?_⟩
  intro hrepaint
  cases hrepaint

/-- Assumes: a screen that is large enough. A drawing that is sent brings the terminal into step
with the frame that was staged; one that is not sent is followed by a repaint. -/
theorem Renderer.Sound.flush (h : renderer.Sound terminal)
    (hholds : terminal.device.Holds Board.frameWidth Board.frameHeight) (now : Instant) :
    (renderer.flush now).Sound terminal := by
  refine ⟨h.next, h.next, ?_⟩
  intro hsent
  have hcomplete : (renderer.send renderer.drawing.bytes).1 = true := by
    simpa [Renderer.flush] using hsent
  have hscreen : (renderer.flush now).screen terminal =
      (renderer.screen terminal).feed renderer.drawing.bytes := by
    change terminal.feed (renderer.send renderer.drawing.bytes).2.accepted.toList = _
    rw [renderer.accepted_send _ hcomplete, Terminal.feed_append]
    rfl
  rw [hscreen]
  have hdevice : (renderer.screen terminal).device.Holds renderer.next.width
      renderer.next.height := by
    rw [Renderer.screen, Terminal.feed_device, h.next.width, h.next.height]
    exact hholds
  change ((renderer.screen terminal).feed renderer.drawing.bytes).InStep renderer.next
    renderer.drawing.pen
  unfold Renderer.drawing
  by_cases hrepaint : renderer.needsRepaint = true
  · rw [if_pos hrepaint]
    refine Terminal.inStep_feed_repaint h.next.paired hdevice ?_
    rw [h.next.width]
    decide
  · rw [if_neg hrepaint]
    have hstep := h.inStep (by simpa using hrepaint)
    exact hstep.feed_difference h.visible.paired h.next.paired
      (by rw [h.visible.width, h.next.width]) (by rw [h.visible.height, h.next.height]) hdevice

theorem Renderer.Sound.tick (h : renderer.Sound terminal)
    (hholds : terminal.device.Holds Board.frameWidth Board.frameHeight) (now : Instant) :
    (renderer.tick now).Sound terminal := by
  unfold Renderer.tick
  split
  · exact h.flush hholds now
  · exact h

/-- Staging a view touches neither the screen nor the frame that is visible. -/
theorem Renderer.Sound.stage (h : renderer.Sound terminal) (view : Board.View) :
    (renderer.stage view).Sound terminal := by
  refine ⟨h.visible, ?_, h.inStep⟩
  change (view.paint (.blank renderer.next.width renderer.next.height)).PairedOfSize _ _
  rw [h.next.width, h.next.height]
  exact view.pairedOfSize_paint (by decide)

theorem Renderer.Sound.call (h : renderer.Sound terminal)
    (hholds : terminal.device.Holds Board.frameWidth Board.frameHeight) (call : RendererCall) :
    (renderer.call call).Sound terminal := by
  cases call with
  | update view now => exact (h.stage view).tick hholds now
  | tick now => exact h.tick hholds now
  | flushNow now =>
    change (renderer.flushNow now).Sound terminal
    unfold Renderer.flushNow
    split
    · exact h.flush hholds now
    · exact h

theorem Renderer.Sound.callAll (h : renderer.Sound terminal)
    (hholds : terminal.device.Holds Board.frameWidth Board.frameHeight)
    (calls : List RendererCall) : (renderer.callAll calls).Sound terminal := by
  induction calls generalizing renderer with
  | nil => exact h
  | cons call rest ih => exact ih (h.call hholds call)

/-- Unless a repaint is needed, every place of the window shows the visible frame. -/
theorem Renderer.Sound.look_eq (h : renderer.Sound terminal)
    (hrepaint : renderer.needsRepaint = false) {x y : Nat} (hx : x < Board.frameWidth)
    (hy : y < Board.frameHeight) :
    (renderer.visible.get? x y).map Cell.look = some ((renderer.screen terminal).lines y x) := by
  have hin : (renderer.visible.get? x y).isSome := by
    rw [Frame.isSome_get?, h.visible.width, h.visible.height]
    exact ⟨hx, hy⟩
  obtain ⟨cell, hcell⟩ := Option.isSome_iff_exists.mp hin
  rw [hcell, (h.inStep hrepaint).shows y x cell hcell]
  rfl

end Sound

/-- Assumes: a screen with room for the frame. After any calls, at any times and with any answers of
the outlet, every place of the window shows the frame that the renderer takes for visible, unless a
repaint is needed. In the same way every flush that succeeds shows the frame that was staged, also
where the one before it was torn. -/
theorem Renderer.screen_shows_visible (outlet : Outlet) (refreshPerSecond : Nat)
    (terminal : Terminal) (hcolumns : Board.frameWidth ≤ terminal.device.columns)
    (hrows : Board.frameHeight ≤ terminal.device.rows) (calls : List RendererCall) :
    let renderer := (Renderer.new outlet refreshPerSecond).callAll calls
    (renderer.needsRepaint = false → ∀ x < Board.frameWidth, ∀ y < Board.frameHeight,
      (renderer.visible.get? x y).map Cell.look = some ((renderer.screen terminal).lines y x)) ∧
    ∀ now, (renderer.flush now).needsRepaint = false →
      ∀ x < Board.frameWidth, ∀ y < Board.frameHeight,
        (renderer.next.get? x y).map Cell.look =
          some (((renderer.flush now).screen terminal).lines y x) := by
  intro renderer
  have hholds : terminal.device.Holds Board.frameWidth Board.frameHeight :=
    ⟨hcolumns, hrows, by decide⟩
  have hsound : renderer.Sound terminal :=
    (Renderer.sound_new outlet refreshPerSecond terminal).callAll hholds calls
  constructor
  · intro hrepaint x hx y hy
    exact hsound.look_eq hrepaint hx hy
  · intro now hrepaint x hx y hy
    exact (hsound.flush hholds now).look_eq hrepaint hx hy

/-! ### A torn frame -/

/-- An outlet whose first write breaks off after the escape byte of the second control sequence. -/
def Outlet.tearing : Outlet := ⟨[.atMost 7, .failed], [], #[], 0⟩

section Tear

variable {renderer : Renderer}

theorem Renderer.update_of_unthrottled (hinterval : renderer.throttle.interval = 0)
    (view : Board.View) (now : Instant) :
    renderer.update view now = (renderer.stage view).flush now := by
  have hinterval' : (renderer.stage view).throttle.interval = 0 := hinterval
  have hdue : (renderer.stage view).throttle.isDue now = true := by
    unfold Throttle.isDue Throttle.remaining
    rw [hinterval']
    split <;> simp
  have hstaged : (renderer.stage view).staged = true := rfl
  unfold Renderer.update Renderer.tick
  rw [hstaged, hdue]
  rfl

/-- A repaint begins by hiding the cursor and resetting the style. -/
theorem bytes_repaint {frame : Frame} {width height : Nat}
    (hframe : frame.PairedOfSize width height) (hwidth : 0 < width) (hlimit : width ≤ columnLimit) :
    ∃ rest, (repaint frame).bytes =
      [0x1B, 0x5B, 0x3F, 0x32, 0x35, 0x6C] ++ [0x1B, 0x5B, 0x30, 0x6D] ++ rest := by
  obtain ⟨hpaired, rfl, rfl⟩ := hframe
  have hholds : (Terminal.torn frame.width frame.height).device.Holds frame.width frame.height :=
    ⟨Nat.le_refl _, Nat.le_refl _, hlimit⟩
  obtain ⟨marks, hmarks, -⟩ := (Drawing.repaint_rows hpaired hholds hwidth).2.2
  refine ⟨bytesOfMarks marks, ?_⟩
  unfold Drawing.bytes
  rw [hmarks]
  rfl

/-- Of two updates without a throttle the first is torn, and the second is complete. -/
theorem Renderer.needsRepaint_tearing (view : Board.View) :
    ((Renderer.new .tearing 0).callAll [.update view 0, .update view 0]).needsRepaint = false := by
  set staged := (Renderer.new .tearing 0).stage view
  set torn := staged.flush 0
  have hfirst : (Renderer.new .tearing 0).update view 0 = torn :=
    Renderer.update_of_unthrottled rfl view 0
  have hsecond : torn.update view 0 = (torn.stage view).flush 0 :=
    Renderer.update_of_unthrottled rfl view 0
  have hpainted : staged.next.PairedOfSize Board.frameWidth Board.frameHeight :=
    view.pairedOfSize_paint (by decide)
  obtain ⟨rest, hbytes⟩ := bytes_repaint hpainted (by decide) (by decide)
  have houtlet : torn.outlet = (staged.send (repaint staged.next).bytes).2 := rfl
  have hcalls : ∀ renderer : Renderer, renderer.callAll [.update view 0, .update view 0] =
      (renderer.update view 0).update view 0 := fun _ ↦ rfl
  rw [hbytes] at houtlet
  rw [hcalls, hfirst, hsecond]
  refine Renderer.needsRepaint_flush (Outlet.works_of_over ?_ ?_) 0
  · change torn.outlet.writes = []
    rw [houtlet]
    rfl
  · change torn.outlet.flushes = []
    rw [houtlet]
    rfl

theorem Renderer.screen_shows_visible_tearing :
    let renderer := (Renderer.new .tearing 0).callAll
      [.update Board.State.initial.view 0, .update Board.State.initial.view 0]
    ∀ x < Board.frameWidth, ∀ y < Board.frameHeight,
      (renderer.visible.get? x y).map Cell.look =
        some ((renderer.screen (.torn 80 24)).lines y x) :=
  (Renderer.screen_shows_visible .tearing 0 (.torn 80 24) (by decide) (by decide)
    [.update Board.State.initial.view 0, .update Board.State.initial.view 0]).1
    (Renderer.needsRepaint_tearing Board.State.initial.view)

end Tear

end LiveBoard.Display
