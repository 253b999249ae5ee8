import LiveBoard.Proofs.Display.RendererCalls

/-!
# Coalescing of views

A view that comes while another is staged replaces it, and is counted as coalesced with it. So every
view is counted once: as a frame that was drawn, as coalesced, or as the one that is staged
(`Renderer.Counts`, `Counts.call`, `Counts.callAll`). The newest view is never lost: it is staged or
visible (`Renderer.views_coalesced`). What is visible in the end does therefore not depend on the
times of the calls, on the throttle or on the calls that bring no view, and neither does what the
terminal shows if the outlets work.
-/

set_option autoImplicit false
set_option relaxedAutoImplicit false

namespace LiveBoard.Display

open Screen

/-! ### Counting -/

/-- The number of views that came is the number of frames drawn, of views coalesced, and one more
where a frame is staged. -/
def Renderer.Counts (renderer : Renderer) (views : Nat) : Prop :=
  views = renderer.stats.frames + renderer.stats.coalesced + if renderer.staged then 1 else 0

section Counts

variable {renderer : Renderer} {views : Nat}

theorem Renderer.Counts.stage (h : renderer.Counts views) (view : Board.View) :
    (renderer.stage view).Counts (views + 1) := by
  unfold Renderer.Counts at h ⊢
  change views + 1 =
    renderer.stats.frames + (renderer.stats.coalesced + if renderer.staged then 1 else 0) + 1
  rw [h, Nat.add_assoc renderer.stats.frames]

/-- A staged frame that is drawn is counted as drawn. -/
theorem Renderer.Counts.flush (h : renderer.Counts views) (hstaged : renderer.staged = true)
    (now : Instant) : (renderer.flush now).Counts views := by
  unfold Renderer.Counts at h ⊢
  rw [if_pos hstaged] at h
  change views = renderer.stats.frames + 1 + renderer.stats.coalesced + 0
  omega

theorem Renderer.Counts.prepare (h : renderer.Counts views) (call : RendererCall) :
    (renderer.prepare call).Counts (views + call.view?.toList.length) := by
  unfold Renderer.prepare
  cases call.view? with
  | some view => exact h.stage view
  | none => exact h

theorem Renderer.Counts.call (h : renderer.Counts views) (call : RendererCall) :
    (renderer.call call).Counts (views + call.view?.toList.length) := by
  have hprepared := h.prepare call
  rcases renderer.call_cases call with ⟨hsame, -⟩ | ⟨hdrawn, hstaged, -⟩
  · rw [hsame]
    exact hprepared
  · rw [hdrawn]
    exact hprepared.flush hstaged call.now

theorem Renderer.Counts.callAll (h : renderer.Counts 0) (calls : List RendererCall) :
    (renderer.callAll calls).Counts (viewsOf calls).length := by
  induction calls using List.reverseRecOn with
  | nil => exact h
  | append_singleton calls call ih =>
    rw [renderer.callAll_append, viewsOf_concat, List.length_append]
    exact ih.call call

theorem Renderer.counts_new (outlet : Outlet) (refreshPerSecond : Nat) :
    (Renderer.new outlet refreshPerSecond).Counts 0 := rfl

end Counts

/-! ### The newest view -/

/-- Once nothing is staged, the view that came last is visible. -/
theorem Renderer.Tidy.visible_closed {renderer : Renderer} (h : renderer.Tidy)
    (calls : List RendererCall) (now : Instant) :
    ((renderer.callAll calls).flushNow now).visible =
      (viewsOf calls).getLast?.elim renderer.next Board.View.painting :=
  ((h.callAll calls).visible_closes (RendererCall.closes_flushNow _ now)).trans
    (h.next_callAll calls)

/-- Assumes nothing of the throttle, the times of the calls or the answers of the outlet. Every view
is counted once. The view that came last is staged or visible, by its painting on a blank frame, and
there is a time to wait for exactly where a frame is staged. So after the same views the same frame
is visible on any two sides once nothing is staged, and any two screens with room for it show the
same if both outlets work. -/
theorem Renderer.views_coalesced (outlet : Outlet) (refreshPerSecond : Nat)
    (calls : List RendererCall) :
    let renderer := (Renderer.new outlet refreshPerSecond).callAll calls
    (viewsOf calls).length = renderer.stats.frames + renderer.stats.coalesced +
      (if renderer.staged then 1 else 0) ∧
    (∀ view, (viewsOf calls).getLast? = some view →
      (if renderer.staged then renderer.next else renderer.visible) = view.painting) ∧
    (∀ now, renderer.pendingFor now = none ↔ renderer.staged = false) ∧
    ∀ (otherOutlet : Outlet) (otherRefresh : Nat) (otherCalls : List RendererCall),
      viewsOf otherCalls = viewsOf calls → ∀ now otherNow,
      let closed := renderer.flushNow now
      let otherClosed :=
        ((Renderer.new otherOutlet otherRefresh).callAll otherCalls).flushNow otherNow
      otherClosed.visible = closed.visible ∧
      (outlet.Works → otherOutlet.Works → viewsOf calls ≠ [] →
        ∀ terminal otherTerminal : Terminal,
          terminal.device.Holds Board.frameWidth Board.frameHeight →
          otherTerminal.device.Holds Board.frameWidth Board.frameHeight →
          ∀ x < Board.frameWidth, ∀ y < Board.frameHeight,
            (otherClosed.screen otherTerminal).lines y x = (closed.screen terminal).lines y x) := by
  intro renderer
  have hnew := Renderer.tidy_new outlet refreshPerSecond
  have htidy : renderer.Tidy := hnew.callAll calls
  refine ⟨(Renderer.counts_new outlet refreshPerSecond).callAll calls, ?_, ?_, ?_⟩
  · intro view hlast
    have hnext : renderer.next = view.painting := by
      rw [hnew.next_callAll calls, hlast, Option.elim_some]
    cases hstaged : renderer.staged with
    | true => exact hnext
    | false => exact (htidy.visible hstaged).trans hnext
  · intro now
    unfold Renderer.pendingFor
    cases renderer.staged <;> simp
  · intro otherOutlet otherRefresh otherCalls hviews now otherNow closed otherClosed
    have hvisible : otherClosed.visible = closed.visible := by
      rw [(Renderer.tidy_new otherOutlet otherRefresh).visible_closed otherCalls otherNow,
        hnew.visible_closed calls now, hviews]
      rfl
    refine ⟨hvisible, ?_⟩
    intro hworks hotherWorks hsome terminal otherTerminal hroom hotherRoom x hx y hy
    have hlook : (closed.visible.get? x y).map Cell.look =
        some ((closed.screen terminal).lines y x) :=
      (Renderer.sound_new outlet refreshPerSecond terminal).look_closed hroom hworks hsome
        (RendererCall.closes_flushNow _ now) hx hy
    have hotherLook : (otherClosed.visible.get? x y).map Cell.look =
        some ((otherClosed.screen otherTerminal).lines y x) :=
      (Renderer.sound_new otherOutlet otherRefresh otherTerminal).look_closed hotherRoom
        hotherWorks (hviews ▸ hsome) (RendererCall.closes_flushNow _ otherNow) hx hy
    rw [hvisible, hlook] at hotherLook
    exact (Option.some.inj hotherLook).symm

/-! ### A burst -/

/-- An outlet that is interrupted once and then takes three bytes at first. -/
def Outlet.halting : Outlet := ⟨[.interrupted, .atMost 3], [true], #[], 0⟩

/-- Two views at once, of which a throttle draws the second one later. -/
def RendererCall.burst (first second : Board.View) : List RendererCall :=
  [.update first 0, .update second 1, .tick 2]

/-- The same views, with time for each to be drawn. -/
def RendererCall.leisurely (first second : Board.View) : List RendererCall :=
  [.tick 0, .update first 1, .flushNow 5, .update second 9]

theorem Renderer.views_coalesced_burst :
    let calls := RendererCall.burst emptyView otherView
    let renderer := (Renderer.new .halting 4).callAll calls
    let other := (Renderer.new .unlimited 0).callAll (RendererCall.leisurely emptyView otherView)
    (if renderer.staged then renderer.next else renderer.visible) = otherView.painting ∧
      (other.flushNow 10).visible = (renderer.flushNow 3).visible ∧
      ∀ x < Board.frameWidth, ∀ y < Board.frameHeight,
        ((other.flushNow 10).screen (.torn 48 10)).lines y x =
          ((renderer.flushNow 3).screen (.torn 80 24)).lines y x := by
  have hhalting : Outlet.halting.Works := ⟨by decide, by decide⟩
  have hunlimited : Outlet.unlimited.Works := Outlet.works_of_over rfl rfl
  obtain ⟨-, hnewest, -, hsame⟩ :=
    Renderer.views_coalesced .halting 4 (RendererCall.burst emptyView otherView)
  obtain ⟨hvisible, hscreen⟩ :=
    hsame .unlimited 0 (RendererCall.leisurely emptyView otherView) rfl 3 10
  exact ⟨hnewest otherView rfl, hvisible, hscreen hhalting hunlimited (List.cons_ne_nil _ _)
    (.torn 80 24) (.torn 48 10) ⟨by decide, by decide, by decide⟩ ⟨by decide, by decide, by decide⟩⟩

end LiveBoard.Display
