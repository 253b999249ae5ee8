import LiveBoard.Display.Renderer
import LiveBoard.Proofs.Board.Painting

/-!
# Staged frames

A frame that is not staged any more is visible. `Renderer.Tidy` is that invariant, with the size
of the frames; under it an update stages the painting of its view (`Tidy.next_update`), and once
nothing is staged the visible frame is the painting of the last view (`Tidy.visible_flushNow`).
-/

set_option autoImplicit false
set_option relaxedAutoImplicit false

namespace LiveBoard.Display

open Screen

/-- The frames have the usual size, and the frame staged last is visible unless it is still
staged. -/
structure Renderer.Tidy (renderer : Renderer) : Prop where
  width : renderer.next.width = Board.frameWidth
  height : renderer.next.height = Board.frameHeight
  visible : renderer.staged = false → renderer.visible = renderer.next

section Tidy

variable {renderer : Renderer}

theorem Renderer.tidy_new (outlet : Outlet) (refreshPerSecond : Nat) :
    (Renderer.new outlet refreshPerSecond).Tidy :=
  ⟨rfl, rfl, fun _ ↦ rfl⟩

/-- Staging touches nothing that concerns the terminal. -/
theorem Renderer.stage_fields (renderer : Renderer) (view : Board.View) :
    (renderer.stage view).outlet = renderer.outlet ∧
      (renderer.stage view).visible = renderer.visible ∧
      (renderer.stage view).pen = renderer.pen ∧
      (renderer.stage view).throttle = renderer.throttle ∧
      (renderer.stage view).needsRepaint = renderer.needsRepaint :=
  ⟨rfl, rfl, rfl, rfl, rfl⟩

/-- What is drawn is visible, its pen is what is known about the terminal, and nothing is staged. -/
theorem Renderer.flush_fields (renderer : Renderer) (now : Instant) :
    (renderer.flush now).visible = renderer.next ∧
      (renderer.flush now).pen = renderer.drawing.pen ∧
      (renderer.flush now).throttle.interval = renderer.throttle.interval ∧
      (renderer.flush now).staged = false :=
  ⟨rfl, rfl, rfl, rfl⟩

@[simp]
theorem Renderer.staged_flushNow (renderer : Renderer) (now : Instant) :
    (renderer.flushNow now).staged = false := by
  unfold Renderer.flushNow
  cases hstaged : renderer.staged with
  | true => rfl
  | false => exact hstaged

@[simp]
theorem Renderer.next_tick (renderer : Renderer) (now : Instant) :
    (renderer.tick now).next = renderer.next := by
  unfold Renderer.tick
  split <;> rfl

@[simp]
theorem Renderer.next_flushNow (renderer : Renderer) (now : Instant) :
    (renderer.flushNow now).next = renderer.next := by
  unfold Renderer.flushNow
  split <;> rfl

theorem Renderer.Tidy.tick (h : renderer.Tidy) (now : Instant) : (renderer.tick now).Tidy := by
  unfold Renderer.tick
  split
  · exact ⟨h.width, h.height, fun _ ↦ rfl⟩
  · exact h

theorem Renderer.Tidy.flushNow (h : renderer.Tidy) (now : Instant) :
    (renderer.flushNow now).Tidy := by
  unfold Renderer.flushNow
  split
  · exact ⟨h.width, h.height, fun _ ↦ rfl⟩
  · exact h

/-- After a flush nothing is staged and the frame that was staged is visible. -/
theorem Renderer.Tidy.visible_flushNow (h : renderer.Tidy) (now : Instant) :
    (renderer.flushNow now).staged = false ∧ (renderer.flushNow now).visible = renderer.next := by
  unfold Renderer.flushNow
  by_cases hstaged : renderer.staged = true
  · rw [if_pos hstaged]
    exact ⟨rfl, rfl⟩
  · rw [if_neg hstaged]
    have hclear : renderer.staged = false := by simpa using hstaged
    exact ⟨hclear, h.visible hclear⟩

/-- A view is staged by its painting. -/
theorem Renderer.Tidy.next_stage (h : renderer.Tidy) (view : Board.View) :
    (renderer.stage view).next = view.painting := by
  change view.paint (.blank renderer.next.width renderer.next.height) = _
  rw [h.width, h.height]
  rfl

theorem Renderer.Tidy.next_update (h : renderer.Tidy) (view : Board.View) (now : Instant) :
    (renderer.update view now).next = view.painting :=
  (Renderer.next_tick _ now).trans (h.next_stage view)

theorem Renderer.Tidy.update (h : renderer.Tidy) (view : Board.View) (now : Instant) :
    (renderer.update view now).Tidy := by
  have hpainting : view.painting.PairedOfSize Board.frameWidth Board.frameHeight :=
    view.pairedOfSize_paint (by decide)
  have hstaged : (renderer.stage view).Tidy := by
    refine ⟨?_, ?_, ?_⟩
    · rw [h.next_stage view, hpainting.width]
    · rw [h.next_stage view, hpainting.height]
    · intro hclear
      cases hclear
  exact hstaged.tick now

end Tidy

end LiveBoard.Display
