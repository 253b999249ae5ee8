import LiveBoard.Proofs.Display.RendererCalls

/-!
# Frames that were lost

A frame counts as drawn also where its write fails (`Renderer.LosesIn`). The repaint that is owed
then is part of the next frame that is drawn, and frames are drawn only where a view was staged. So
without a further view no call changes anything any more, and what the terminal shows need not be
the visible frame, although the outlet works again (`Renderer.lost_frame_stays_lost`). With a
further view the next frame is drawn as a whole (`Renderer.Repays`, `Renderer.repays_callAll`), and
once nothing is staged the screen shows the view that came last
(`Renderer.repainted_with_next_view`).
-/

set_option autoImplicit false
set_option relaxedAutoImplicit false

namespace LiveBoard.Display

open Screen

/-- A frame is drawn in a call, and the write fails. -/
structure Renderer.LosesIn (renderer : Renderer) (call : RendererCall) : Prop where
  draws : renderer.call call = (renderer.prepare call).flush call.now
  failed : ((renderer.prepare call).send (renderer.prepare call).drawing.bytes).1 = false

/-- Since a frame was lost, either nothing was sent and the repaint is still owed, or a repaint of
one of the views was sent first. -/
def Renderer.Repays (lost renderer : Renderer) (views : List Board.View) : Prop :=
  (renderer.needsRepaint = true ∧ renderer.outlet.accepted = lost.outlet.accepted) ∨
    ∃ view ∈ views, lost.outlet.accepted.toList ++ (repaint view.painting).bytes <+:
      renderer.outlet.accepted.toList

section Losses

variable {renderer lost : Renderer} {call : RendererCall} {views more : List Board.View}

theorem Renderer.LosesIn.needsRepaint (h : renderer.LosesIn call) :
    (renderer.call call).needsRepaint = true := by
  rw [h.draws]
  change (!((renderer.prepare call).send (renderer.prepare call).drawing.bytes).1) = true
  rw [h.failed]
  rfl

theorem Renderer.LosesIn.staged (h : renderer.LosesIn call) :
    (renderer.call call).staged = false := by
  rw [h.draws]
  rfl

/-- A flush does not draw the frame that was lost again. -/
theorem Renderer.LosesIn.flushNow (h : renderer.LosesIn call) (now : Instant) :
    (renderer.call call).flushNow now = renderer.call call := by
  have hview : (RendererCall.flushNow now).view? = none := rfl
  exact Renderer.call_of_clear hview h.staged

/-- On an outlet that works a frame is sent after everything before it. -/
theorem Renderer.accepted_flush (h : renderer.outlet.Works) (now : Instant) :
    (renderer.flush now).outlet.accepted.toList =
      renderer.outlet.accepted.toList ++ renderer.drawing.bytes :=
  renderer.accepted_send _ (Renderer.works_send h _).1

theorem Renderer.Repays.mono (h : lost.Repays renderer views) :
    lost.Repays renderer (views ++ more) := by
  rcases h with howed | ⟨view, hmem, hsent⟩
  · exact Or.inl howed
  · exact Or.inr ⟨view, List.mem_append_left _ hmem, hsent⟩

theorem Renderer.repays_prepare (call : RendererCall) :
    lost.Repays (renderer.prepare call) views ↔ lost.Repays renderer views := by
  unfold Renderer.prepare
  split <;> rfl

/-- Assumes: an outlet that works. A frame that is drawn pays with its repaint what is owed. -/
theorem Renderer.Repays.flush (h : lost.Repays renderer views) (hworks : renderer.outlet.Works)
    {view : Board.View} (hmem : view ∈ views) (hnext : renderer.next = view.painting)
    (now : Instant) : lost.Repays (renderer.flush now) views := by
  refine Or.inr ?_
  rw [Renderer.accepted_flush hworks]
  rcases h with ⟨howes, hnothing⟩ | ⟨first, hfirst, hsent⟩
  · refine ⟨view, hmem, ?_⟩
    have hdrawing : renderer.drawing = repaint view.painting := by
      unfold Renderer.drawing
      rw [if_pos howes, hnext]
    exact ⟨[], by rw [List.append_nil, hdrawing, hnothing]⟩
  · exact ⟨first, hfirst, hsent.trans (List.prefix_append _ _)⟩

/-- Assumes: a renderer that owes a repaint and has nothing staged, over an outlet that works. What
is sent first in any further calls is a repaint of one of their views. -/
theorem Renderer.repays_callAll (htidy : lost.Tidy) (howes : lost.needsRepaint = true)
    (hclear : lost.staged = false) (hworks : lost.outlet.Works) (calls : List RendererCall) :
    lost.Repays (lost.callAll calls) (viewsOf calls) := by
  induction calls using List.reverseRecOn with
  | nil => exact Or.inl ⟨howes, rfl⟩
  | append_singleton calls call ih =>
    rw [lost.callAll_append, viewsOf_concat]
    change lost.Repays ((lost.callAll calls).call call) _
    have hprepared : lost.Repays ((lost.callAll calls).prepare call)
        (viewsOf calls ++ call.view?.toList) := (Renderer.repays_prepare call).mpr ih.mono
    rcases (lost.callAll calls).call_cases call with ⟨hsame, -⟩ | ⟨hdrawn, hstaged, -⟩
    · rw [hsame]
      exact hprepared
    · rw [hdrawn]
      -- a frame is staged, so a view came, and its painting is what is drawn
      cases hlast : (viewsOf calls ++ call.view?.toList).getLast? with
      | none =>
        obtain ⟨hnone, hview⟩ := List.append_eq_nil_iff.mp (List.getLast?_eq_none_iff.mp hlast)
        rw [Renderer.prepare_of_no_view (by simpa using hview),
          Renderer.callAll_of_clear hclear hnone, hclear] at hstaged
        cases hstaged
      | some view =>
        refine hprepared.flush (Renderer.works_prepare (Renderer.works_callAll hworks calls) call)
          (List.mem_of_getLast? hlast) ?_ call.now
        have hnext := htidy.next_callAll (calls ++ [call])
        rw [lost.callAll_append, viewsOf_concat, hlast] at hnext
        exact ((lost.callAll calls).next_call call).symm.trans hnext

end Losses

/-- Assumes: a screen with room for the frame, a frame whose write fails in some call, and an outlet
that works from then on. Without a further view no call does anything. With further views, once a
call leaves nothing staged, the screen shows the view that came last, and what was sent first is a
repaint of one of these views. -/
theorem Renderer.repainted_with_next_view (outlet : Outlet) (refreshPerSecond : Nat)
    (terminal : Terminal) (hroom : terminal.device.Holds Board.frameWidth Board.frameHeight)
    (calls : List RendererCall) (call : RendererCall)
    (hloses : ((Renderer.new outlet refreshPerSecond).callAll calls).LosesIn call)
    (hworks : (((Renderer.new outlet refreshPerSecond).callAll calls).call call).outlet.Works) :
    let lost := ((Renderer.new outlet refreshPerSecond).callAll calls).call call
    (∀ later, viewsOf later = [] → lost.callAll later = lost) ∧
    ∀ later closing view, (viewsOf later).getLast? = some view →
      closing.Closes (lost.callAll later) →
      let shown := (lost.callAll later).call closing
      shown.visible = view.painting ∧
      (∀ x < Board.frameWidth, ∀ y < Board.frameHeight,
        (view.painting.get? x y).map Cell.look = some ((shown.screen terminal).lines y x)) ∧
      ∃ first ∈ viewsOf later, lost.outlet.accepted.toList ++ (repaint first.painting).bytes <+:
        shown.outlet.accepted.toList := by
  intro lost
  have htidy : lost.Tidy :=
    ((Renderer.tidy_new outlet refreshPerSecond).callAll calls).call call
  have hsound : lost.Sound terminal :=
    ((Renderer.sound_new outlet refreshPerSecond terminal).callAll hroom calls).call hroom call
  refine ⟨fun later ↦ Renderer.callAll_of_clear hloses.staged, ?_⟩
  intro later closing view hlast hcloses shown
  have hviews : viewsOf later ≠ [] := by
    rintro hnone
    rw [hnone] at hlast
    cases hlast
  have hvisible : shown.visible = view.painting := by
    refine ((htidy.callAll later).visible_closes hcloses).trans ?_
    rw [htidy.next_callAll later, hlast, Option.elim_some]
  refine ⟨hvisible, ?_, ?_⟩
  · intro x hx y hy
    rw [← hvisible]
    exact hsound.look_closed hroom hworks hviews hcloses hx hy
  · -- the closing call brings no view, and leaves no repaint owed
    have hrepays := Renderer.repays_callAll htidy hloses.needsRepaint hloses.staged hworks
      (later ++ [closing])
    rw [lost.callAll_append, viewsOf_concat, hcloses.view, Option.toList_none,
      List.append_nil] at hrepays
    have hpaid : shown.needsRepaint = false :=
      (Renderer.upToDate_callAll hworks later hviews).needsRepaint_closes hcloses
    rcases hrepays with ⟨howed, -⟩ | hsent
    · exact absurd (howed.symm.trans hpaid) Bool.noConfusion
    · exact hsent

/-! ### A write that fails once -/

/-- An outlet whose first write fails. -/
def Outlet.refusing : Outlet := ⟨[.failed], [], #[], 0⟩

/-- The renderer that lost its first frame. -/
def Renderer.refused : Renderer := (Renderer.new .refusing 0).call (.update emptyView 0)

/-- The first frame is lost on an outlet whose first write fails, and the outlet works then. -/
theorem Renderer.losesIn_refusing (view : Board.View) :
    (Renderer.new .refusing 0).LosesIn (.update view 0) ∧
      ((Renderer.new .refusing 0).call (.update view 0)).outlet = ⟨[], [], #[], 0⟩ := by
  set staged := (Renderer.new .refusing 0).stage view
  have hdraws : (Renderer.new .refusing 0).call (.update view 0) = staged.flush 0 :=
    Renderer.update_of_unthrottled rfl view 0
  have hpainted : staged.next.PairedOfSize Board.frameWidth Board.frameHeight :=
    view.pairedOfSize_paint (by decide)
  obtain ⟨rest, hbytes⟩ := bytes_repaint hpainted (by decide) (by decide)
  have hsent : staged.send staged.drawing.bytes = (false, ⟨[], [], #[], 0⟩) := by
    change staged.send (repaint staged.next).bytes = _
    rw [hbytes]
    rfl
  refine ⟨⟨hdraws, ?_⟩, ?_⟩
  · exact congrArg Prod.fst hsent
  · rw [hdraws]
    exact congrArg Prod.snd hsent

theorem Renderer.visible_refusing (view : Board.View) :
    ((Renderer.new .refusing 0).call (.update view 0)).visible = view.painting := by
  rw [(Renderer.losesIn_refusing view).1.draws]
  exact (Renderer.tidy_new .refusing 0).next_stage view

theorem Renderer.outlet_refused : Renderer.refused.outlet = ⟨[], [], #[], 0⟩ :=
  (Renderer.losesIn_refusing emptyView).2

theorem Renderer.visible_refused : Renderer.refused.visible = emptyView.painting :=
  Renderer.visible_refusing emptyView

theorem Renderer.works_refused : Renderer.refused.outlet.Works := by
  rw [Renderer.outlet_refused]
  exact Outlet.works_of_over rfl rfl

/-- A view that comes after a frame was lost is shown by a repaint. -/
theorem Renderer.repainted_with_next_view_refusing :
    let shown := (Renderer.refused.callAll [.tick 1, .update otherView 2]).call (.flushNow 3)
    Renderer.refused.callAll [.tick 1, .flushNow 2] = Renderer.refused ∧
      shown.visible = otherView.painting ∧
      ∀ x < Board.frameWidth, ∀ y < Board.frameHeight,
        (otherView.painting.get? x y).map Cell.look =
          some ((shown.screen (.torn 80 24)).lines y x) := by
  have hlost := Renderer.repainted_with_next_view .refusing 0 (.torn 80 24)
    ⟨by decide, by decide, by decide⟩ [] (.update emptyView 0)
    (Renderer.losesIn_refusing emptyView).1 Renderer.works_refused
  obtain ⟨hnothing, hshown⟩ := hlost
  have hrefused : ((Renderer.new .refusing 0).callAll []).call (.update emptyView 0) =
      Renderer.refused := rfl
  rw [hrefused] at hnothing hshown
  obtain ⟨hvisible, hscreen, -⟩ := hshown [.tick 1, .update otherView 2] (.flushNow 3) otherView
    rfl (RendererCall.closes_flushNow _ 3)
  exact ⟨hnothing [.tick 1, .flushNow 2] rfl, hvisible, hscreen⟩

/-- A frame whose write failed is not shown by a flush on an outlet that works again: nothing is
sent, and the screen does not show the visible frame. -/
theorem Renderer.lost_frame_stays_lost :
    let flushed := Renderer.refused.flushNow 1
    (Renderer.new .refusing 0).LosesIn (.update emptyView 0) ∧ Renderer.refused.outlet.Works ∧
      flushed.visible = emptyView.painting ∧ flushed.outlet.accepted = #[] ∧
      ¬ ∀ x < Board.frameWidth, ∀ y < Board.frameHeight,
        (flushed.visible.get? x y).map Cell.look =
          some ((flushed.screen (.torn 80 24)).lines y x) := by
  intro flushed
  have hloses := (Renderer.losesIn_refusing emptyView).1
  have hsame : flushed = Renderer.refused := hloses.flushNow 1
  have haccepted : Renderer.refused.outlet.accepted = #[] := by rw [Renderer.outlet_refused]
  rw [hsame]
  refine ⟨hloses, Renderer.works_refused, Renderer.visible_refused, haccepted, fun hshown ↦ ?_⟩
  -- the corner of the frame is the label of a column, the corner of the screen is what it was
  have hcorner := hshown 0 (by decide) 0 (by decide)
  rw [Renderer.visible_refused, Renderer.screen, haccepted] at hcorner
  have hpainted : (emptyView.painting.get? 0 0).map Cell.look =
      some ⟨'C', 1, Board.labelStyle.attributes⟩ := by
    rw [Board.View.get?_painting_title]
    decide +kernel
  rw [hpainted] at hcorner
  cases Option.some.inj hcorner

end LiveBoard.Display
