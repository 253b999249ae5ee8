import LiveBoard.Display.Renderer

/-!
# Outlets that work

An outlet works if it fails no write and no flush (`Outlet.Works`); it may still take bytes in
pieces and be interrupted. Whatever is sent to it is accepted, and it goes on working
(`Outlet.Works.send`). So a frame that is drawn on it needs no repaint
(`Renderer.needsRepaint_flush`).
-/

set_option autoImplicit false
set_option relaxedAutoImplicit false

namespace LiveBoard.Display

/-- Whether a write goes on after an answer: it accepted something, or is to be repeated. -/
def WriteAnswer.goesOn : WriteAnswer → Bool
  | .failed => false
  | .atMost 0 => false
  | _ => true

/-- The outlet fails no write and no flush. -/
structure Outlet.Works (outlet : Outlet) : Prop where
  writes : ∀ answer ∈ outlet.writes, answer.goesOn = true
  flushes : ∀ succeeds ∈ outlet.flushes, succeeds = true

/-- Once its answers are used up, an outlet accepts everything. -/
theorem Outlet.works_of_over {outlet : Outlet} (hwrites : outlet.writes = [])
    (hflushes : outlet.flushes = []) : outlet.Works := by
  constructor
  · rw [hwrites]
    exact fun _ hmem ↦ absurd hmem List.not_mem_nil
  · rw [hflushes]
    exact fun _ hmem ↦ absurd hmem List.not_mem_nil

/-- A write uses up answers from the front. -/
theorem writeAll_answers (answers : List WriteAnswer) (bytes : List UInt8) :
    (writeAll answers bytes).answers <:+ answers := by
  induction answers generalizing bytes with
  | nil => cases bytes <;> exact List.suffix_refl _
  | cons answer answers ih =>
    cases bytes with
    | nil => exact List.suffix_refl _
    | cons byte rest =>
      cases answer with
      | everything => exact List.suffix_cons _ _
      | interrupted => exact (ih (byte :: rest)).trans (List.suffix_cons _ _)
      | failed => exact List.suffix_cons _ _
      | atMost count =>
        cases count with
        | zero => exact List.suffix_cons _ _
        | succ count => exact (ih _).trans (List.suffix_cons _ _)

/-- Assumes: answers after which a write goes on. It goes on to its end. -/
theorem writeAll_goesOn (answers : List WriteAnswer) (bytes : List UInt8)
    (hanswers : ∀ answer ∈ answers, answer.goesOn = true) :
    (writeAll answers bytes).complete = true := by
  induction answers generalizing bytes with
  | nil => cases bytes <;> rfl
  | cons answer answers ih =>
    have hrest : ∀ other ∈ answers, other.goesOn = true :=
      fun other hmem ↦ hanswers other (List.mem_cons_of_mem _ hmem)
    have hfirst := hanswers answer List.mem_cons_self
    cases bytes with
    | nil => rfl
    | cons byte rest =>
      cases answer with
      | everything => rfl
      | interrupted => exact ih (byte :: rest) hrest
      | failed => cases hfirst
      | atMost count =>
        cases count with
        | zero => cases hfirst
        | succ count => exact ih _ hrest

theorem Outlet.Works.send {outlet : Outlet} (h : outlet.Works) (bytes : List UInt8) :
    (outlet.send bytes).1 = true ∧ (outlet.send bytes).2.Works := by
  have hcomplete := writeAll_goesOn outlet.writes bytes h.writes
  have hleft : ∀ answer ∈ (writeAll outlet.writes bytes).answers, answer.goesOn = true :=
    fun answer hmem ↦ h.writes answer ((writeAll_answers outlet.writes bytes).subset hmem)
  unfold Outlet.send
  dsimp only
  rw [if_pos hcomplete]
  refine ⟨?_, hleft, fun succeeds hmem ↦ h.flushes succeeds (List.mem_of_mem_tail hmem)⟩
  unfold Outlet.flush
  cases hflushes : outlet.flushes with
  | nil => rfl
  | cons succeeds rest => exact h.flushes succeeds (hflushes ▸ List.mem_cons_self)

section Works

variable {renderer : Renderer}

theorem Renderer.works_send (h : renderer.outlet.Works) (bytes : List UInt8) :
    (renderer.send bytes).1 = true ∧ (renderer.send bytes).2.Works := by
  unfold Renderer.send
  split
  · exact ⟨rfl, h⟩
  · exact h.send bytes

/-- What is drawn on an outlet that works needs no repaint. -/
theorem Renderer.needsRepaint_flush (h : renderer.outlet.Works) (now : Instant) :
    (renderer.flush now).needsRepaint = false := by
  change (!(renderer.send renderer.drawing.bytes).1) = false
  rw [(Renderer.works_send h _).1]
  rfl

theorem Renderer.works_flush (h : renderer.outlet.Works) (now : Instant) :
    (renderer.flush now).outlet.Works :=
  (Renderer.works_send h _).2

end Works

end LiveBoard.Display
