import LiveBoard.Proofs.Display.RendererCalls
import LiveBoard.Proofs.Viewer.Interplay

/-!
# Waiting for the slot of a staged frame

In the loop the coordinator waits for a message until the staged frame is due, or for a shorter time
where the settings say so. As long as no message is taken, nothing happens to the frame: the wait
ends when its deadline is reached, or when nobody can send any more, and the coordinator then turns
to drawing (`Interplay.Waits.after`). The deadline of a wait that was not cut is the instant from
which the frame is due, so what comes after such a wait draws it, and before this instant nothing
does (`Interplay.wakes_for_slot`).
-/

set_option autoImplicit false
set_option relaxedAutoImplicit false

namespace LiveBoard.Viewer

open Display Feed

/-! ### Waits -/

/-- The coordinator is about to wait for a message, with a frame staged, and the last repaint is not
ahead of the time. -/
structure Interplay.Awaits (state : Interplay) (now : Instant) : Prop where
  task : state.coordinator.task = .watching
  clear : state.handoff.cancelled = false
  staged : state.coordinator.renderer.staged = true
  since : ∀ last ∈ state.coordinator.renderer.throttle.last, last ≤ now

/-- Whether the coordinator draws in a move what is staged and due. -/
def Interplay.ticks (state : Interplay) : Move → Bool
  | .coordinator _ => state.coordinator.task == .drawing
  | _ => false

/-- In moves no message is taken and nothing is drawn. -/
def Interplay.Pauses (settings : Settings) (state : Interplay) : List Move → Prop
  | [] => True
  | move :: rest =>
    state.handled move = [] ∧ state.ticks move = false ∧
      (state.step settings move).Pauses settings rest

/-- The coordinator waits until a deadline, or is done with it and has not drawn yet; nothing has
happened to the renderer. -/
structure Interplay.Waits (deadline : Instant) (renderer : Renderer) (state : Interplay) :
    Prop where
  task : state.coordinator.task = .receiving deadline ∨ state.coordinator.task = .abandoning ∨
    state.coordinator.task = .drawing
  renderer : state.coordinator.renderer = renderer

section Waits

variable {settings : Settings} {state : Interplay} {deadline now : Instant} {renderer : Renderer}

theorem Interplay.Awaits.step (h : state.Awaits now) :
    (state.step settings (.coordinator now)).coordinator =
      { state.coordinator with
        task := .receiving (now + state.coordinator.waitTime settings now) } := by
  rw [Interplay.step_act, Coordinator.act_watching h.task h.clear]

theorem Interplay.Awaits.waits (h : state.Awaits now) :
    (state.step settings (.coordinator now)).Waits
      (now + state.coordinator.waitTime settings now) state.coordinator.renderer := by
  constructor
  · rw [h.step]
    exact Or.inl rfl
  · rw [h.step]

/-- Without a message, a wait goes on or is over, and nothing happens to the renderer. -/
theorem Interplay.Waits.step (h : state.Waits deadline renderer) (settings : Settings) {move : Move}
    (hhandled : state.handled move = []) (hticks : state.ticks move = false) :
    (state.step settings move).Waits deadline renderer := by
  by_cases hmove : ∃ time, move = .coordinator time
  · obtain ⟨time, rfl⟩ := hmove
    rw [Interplay.step_act]
    rcases h.task with htask | htask | htask
    · rw [Coordinator.act_empty htask (Coordinator.queue_of_taken htask hhandled)]
      refine ⟨?_, h.renderer⟩
      dsimp only
      split_ifs
      · exact Or.inr (Or.inl rfl)
      · exact Or.inr (Or.inr rfl)
      · exact Or.inl rfl
    · rw [Coordinator.act_abandoning htask]
      exact ⟨Or.inr (Or.inr rfl), h.renderer⟩
    · unfold Interplay.ticks at hticks
      rw [htask] at hticks
      cases hticks
  · have hbusy : state.coordinator.task ≠ .idle := by
      rcases h.task with htask | htask | htask <;>
      · rw [htask]
        exact Task.noConfusion
    have hsame := Interplay.coordinator_step settings (not_exists.mp hmove) hbusy
    exact ⟨by rw [hsame]; exact h.task, by rw [hsame]; exact h.renderer⟩

theorem Interplay.Waits.after (h : state.Waits deadline renderer) {moves : List Move}
    (hpauses : state.Pauses settings moves) :
    (state.after settings moves).Waits deadline renderer := by
  induction moves generalizing state with
  | nil => exact h
  | cons move rest ih =>
    obtain ⟨hhandled, hticks, hrest⟩ := hpauses
    exact ih (h.step settings hhandled hticks) hrest

/-- Without a message, and with somebody to send one, a wait is over from its deadline on. -/
theorem Interplay.wakes_iff (htask : state.coordinator.task = .receiving deadline)
    (hqueue : state.handoff.queue = []) (hsender : senderGone state.listener = false)
    (later : Instant) :
    (state.step settings (.coordinator later)).coordinator.task = .drawing ↔ deadline ≤ later := by
  rw [Interplay.step_act, Coordinator.act_empty htask hqueue]
  dsimp only
  rw [hsender, if_neg Bool.false_ne_true]
  by_cases hlate : deadline ≤ later
  · rw [if_pos hlate]
    exact iff_of_true rfl hlate
  · rw [if_neg hlate]
    exact iff_of_false Task.noConfusion hlate

theorem Interplay.renderer_step_drawing (htask : state.coordinator.task = .drawing)
    (later : Instant) :
    (state.step settings (.coordinator later)).coordinator.renderer =
      state.coordinator.renderer.tick later := by
  rw [Interplay.step_act, Coordinator.act_drawing htask]

end Waits

/-! ### The slot -/

/-- A coordinator that runs with a renderer, at the head of its loop. -/
def Interplay.watchingWith (renderer : Renderer) : Interplay where
  coordinator :=
    { Coordinator.new .unlimited .standard with
      phase := .running, task := .watching, renderer := renderer }
  listener := some .start
  handoff := .new

/-- A renderer that has drawn the empty board, and was given it again a millisecond later. -/
def givenAgain : Renderer :=
  (((Renderer.new .unlimited 4).update emptyView 0).flushNow 0).update emptyView oneMillisecond

theorem givenAgain_fields :
    givenAgain.throttle = (Throttle.perSecond 4).mark 0 ∧ givenAgain.staged = true :=
  Renderer.update_early (.new .unlimited 4) emptyView rfl (Nat.zero_le oneMillisecond) (by decide)

/-- The coordinator wakes for the slot of the staged frame.

A wait that begins with a frame staged is as long as the time to the slot, or the one that the
settings allow if this is shorter. As long as no message is taken and nothing is drawn, the wait
goes on or is over, and nothing happens to the renderer: with somebody to send a message it is over
from its deadline on, and not before. What is drawn next is the staged frame if the wait was not cut
and its deadline is reached, and nothing before the slot.

No call that asks the throttle draws before an interval is over since the last repaint. For every
throttle, what remains is no longer than the interval and does not grow, and a repaint is due later
on exactly when what remained is over. -/
theorem Interplay.wakes_for_slot (settings : Settings) :
    (∀ (state : Interplay) (now : Instant), state.Awaits now →
      let renderer := state.coordinator.renderer
      let remaining := renderer.throttle.remaining now
      let wait := state.coordinator.waitTime settings now
      let waiting := state.step settings (.coordinator now)
      wait = min remaining settings.handoffWait ∧
      waiting.coordinator = { state.coordinator with task := .receiving (now + wait) } ∧
      ∀ moves, waiting.Pauses settings moves →
        let paused := waiting.after settings moves
        paused.Waits (now + wait) renderer ∧
        (paused.coordinator.task = .receiving (now + wait) → paused.handoff.queue = [] →
          senderGone paused.listener = false → ∀ later,
            ((paused.step settings (.coordinator later)).coordinator.task = .drawing ↔
              now + wait ≤ later)) ∧
        (paused.coordinator.task = .drawing → ∀ later, now ≤ later →
          (wait = remaining → now + wait ≤ later →
            (paused.step settings (.coordinator later)).coordinator.renderer =
              renderer.flush later) ∧
          (later < now + remaining →
            (paused.step settings (.coordinator later)).coordinator.renderer = renderer))) ∧
    (∀ (renderer : Renderer) (last later : Instant), renderer.throttle.last = some last →
      last ≤ later → later < last + renderer.throttle.interval →
        renderer.tick later = renderer ∧
        ∀ view, renderer.update view later = renderer.stage view) ∧
    ∀ (throttle : Throttle) (now later : Instant), (∀ last ∈ throttle.last, last ≤ now) →
      now ≤ later →
        throttle.remaining now ≤ throttle.interval ∧
        throttle.remaining later ≤ throttle.remaining now ∧
        (throttle.isDue later = true ↔ now + throttle.remaining now ≤ later) := by
  refine ⟨?_, fun renderer last later ↦ Renderer.early_calls, fun throttle now later hsince hlater ↦
    ⟨throttle.remaining_le now, throttle.remaining_anti hlater,
      Throttle.isDue_later_iff hsince hlater⟩⟩
  intro state now h renderer remaining wait waiting
  refine ⟨Coordinator.waitTime_of_staged h.staged, h.step, fun moves hpauses ↦ ?_⟩
  have hwaits := h.waits.after hpauses
  refine ⟨hwaits, Interplay.wakes_iff, fun htask later hlater ↦ ?_⟩
  have hdue := Throttle.isDue_later_iff h.since hlater
  rw [Interplay.renderer_step_drawing htask, hwaits.renderer]
  constructor
  · intro hwhole hlate
    rw [hwhole] at hlate
    exact Renderer.tick_of_isDue h.staged (hdue.mpr hlate)
  · intro hearly
    have hwait : renderer.throttle.isDue later = false := by
      rw [← Bool.not_eq_true, hdue]
      exact Nat.not_le_of_lt hearly
    exact Renderer.call_of_not_isDue (.tick later) rfl hwait

/-- With four repaints in a second, what comes in its first millisecond is shown when a quarter of
it is over. -/
theorem Interplay.wakes_for_slot_quarter :
    let slot := 250 * oneMillisecond
    let paused := ((Interplay.watchingWith givenAgain).step .standard
      (.coordinator oneMillisecond)).after .standard [.coordinator slot]
    (Interplay.watchingWith givenAgain).Awaits oneMillisecond ∧
      paused.coordinator.task = .drawing ∧
      (paused.step .standard (.coordinator slot)).coordinator.renderer =
        givenAgain.flush slot := by
  -- nothing but the throttle of the renderer matters
  obtain ⟨renderer, hrenderer, hthrottle, hstaged⟩ : ∃ renderer, renderer = givenAgain ∧
      renderer.throttle = (Throttle.perSecond 4).mark 0 ∧ renderer.staged = true :=
    ⟨givenAgain, rfl, givenAgain_fields⟩
  rw [← hrenderer]
  intro slot paused
  have hawaits : (Interplay.watchingWith renderer).Awaits oneMillisecond := by
    refine ⟨rfl, rfl, hstaged, ?_⟩
    change ∀ last ∈ renderer.throttle.last, last ≤ oneMillisecond
    rw [hthrottle]
    intro last hlast
    obtain rfl : 0 = last := Option.some.inj hlast
    exact Nat.zero_le _
  have hremaining : renderer.throttle.remaining oneMillisecond = 249 * oneMillisecond := by
    rw [hthrottle]
    decide
  obtain ⟨hwait, hbegins, hpaused⟩ :=
    (Interplay.wakes_for_slot .standard).1 _ oneMillisecond hawaits
  have hwhole : (Interplay.watchingWith renderer).coordinator.waitTime .standard oneMillisecond =
      249 * oneMillisecond := by
    rw [hwait]
    change min (renderer.throttle.remaining oneMillisecond) _ = _
    rw [hremaining]
    decide
  have hslot : oneMillisecond + (Interplay.watchingWith renderer).coordinator.waitTime .standard
      oneMillisecond ≤ slot := by
    rw [hwhole]
    decide
  obtain ⟨-, hwakes, -⟩ := hpaused [] trivial
  have hdrawing : paused.coordinator.task = .drawing :=
    (hwakes (congrArg Coordinator.task hbegins) rfl rfl slot).mpr hslot
  obtain ⟨-, -, hdraws⟩ := hpaused [.coordinator slot] ⟨rfl, rfl, trivial⟩
  obtain ⟨hshown, -⟩ := hdraws hdrawing slot (by decide)
  exact ⟨hawaits, hdrawing, hshown (hwhole.trans hremaining.symm) hslot⟩

end LiveBoard.Viewer
