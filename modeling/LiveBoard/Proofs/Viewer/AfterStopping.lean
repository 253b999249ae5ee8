import LiveBoard.Proofs.Viewer.BoundedTail
import LiveBoard.Proofs.Viewer.CoordinatorTransitions
import LiveBoard.Proofs.Viewer.Delivery
import LiveBoard.Proofs.Viewer.Padding

/-!
# After a coordinator has stopped

A coordinator that has stopped holds neither the terminal nor the listener, and it cannot be started
again (`Coordinator.Relinquished`). It can be run again, though, and a run takes what is queued and
draws it. At most one message is still to come, from a listener that was left to itself while it
polled or sent; without one nothing changes (`Interplay.stopped_for_good`). With one, a further run
draws on a terminal that was given back (`Interplay.late_message_drawn`).
-/

set_option autoImplicit false
set_option relaxedAutoImplicit false

namespace LiveBoard.Viewer

open Display Feed Screen

/-! ### A coordinator that ended a run -/

/-- A run has ended: the terminal is given back and the listener is let go. Another run may be going
on, which stops at once. -/
structure Coordinator.Relinquished (coordinator : Coordinator) : Prop where
  phase : coordinator.phase = .stopping ∨ coordinator.phase = .stopped
  surface : coordinator.surface = none
  released : coordinator.holdsListener = false
  clear : coordinator.phase = .stopped → coordinator.renderer.staged = false
  task : match coordinator.task with
    | .idle => True
    | .stopping => True
    | .draining _ => coordinator.phase = .stopping
    | .finishing _ => coordinator.phase = .stopping
    | _ => False

section Relinquished

variable {coordinator : Coordinator}

/-- Once it has stopped, a coordinator is not started again. -/
theorem Coordinator.start_refused (hphase : coordinator.phase ≠ .starting) (settings : Settings)
    (spawning : Except String Unit) (now : Instant) :
    coordinator.start settings spawning now = (.error .alreadyStarted, coordinator) := by
  unfold Coordinator.start
  rw [if_pos (by simp [hphase])]

theorem Coordinator.Relinquished.phase_ne (h : coordinator.Relinquished) :
    coordinator.phase ≠ .starting ∧ coordinator.phase ≠ .running := by
  rcases h.phase with hphase | hphase
  · rw [hphase]
    exact ⟨Phase.noConfusion, Phase.noConfusion⟩
  · rw [hphase]
    exact ⟨Phase.noConfusion, Phase.noConfusion⟩

/-- The end of a run lets go of the terminal, as the join has let go of the listener. -/
theorem Coordinator.relinquished_finish (hreleased : coordinator.holdsListener = false)
    (settings : Settings) (report : Option ListenerExit) (now : Instant) :
    (coordinator.finish settings report now).Relinquished := by
  have hsurface : (coordinator.finish settings report now).surface = none :=
    ((coordinator.drawn now).concluded_fields settings report).1
  refine ⟨Or.inr rfl, hsurface, Coordinator.holdsListener_finish.trans hreleased, ?_, trivial⟩
  intro _
  rw [Coordinator.renderer_finish]
  exact coordinator.renderer.staged_flushNow now

theorem Coordinator.Relinquished.act (h : coordinator.Relinquished) (settings : Settings)
    (handoff : Handoff) (listener : Option Listener) (now : Instant) :
    (coordinator.act settings handoff listener now).1.Relinquished := by
  have htask := h.task
  cases hcase : coordinator.task with
  | idle =>
    rw [Coordinator.act_of_idle hcase]
    exact h
  | stopping =>
    rw [Coordinator.act_stopping_of_released hcase h.released]
    exact ⟨Or.inl rfl, h.surface, rfl, Phase.noConfusion, rfl⟩
  | draining report =>
    rw [hcase] at htask
    cases hqueue : handoff.queue with
    | nil =>
      rw [Coordinator.act_draining_nil hcase hqueue]
      exact ⟨Or.inl htask, h.surface, h.released, h.clear, htask⟩
    | cons payload rest =>
      rw [Coordinator.act_draining_cons hcase hqueue]
      refine ⟨Or.inl htask, h.surface, h.released, ?_, ?_⟩
      · intro hstopped
        exact absurd (htask.symm.trans hstopped) Phase.noConfusion
      · have hdraining : (coordinator.handle payload now).task = .draining report := hcase
        rw [hdraining]
        exact htask
  | finishing report =>
    rw [Coordinator.act_finishing hcase]
    exact Coordinator.relinquished_finish h.released settings report now
  | _ =>
    rw [hcase] at htask
    exact htask.elim

/-- Another run does not take messages in a loop. -/
theorem Coordinator.Relinquished.beginRun (h : coordinator.Relinquished) :
    coordinator.beginRun.Relinquished := by
  rw [Coordinator.beginRun_of_not_running h.phase_ne.2]
  exact ⟨h.phase, h.surface, h.released, h.clear, trivial⟩

end Relinquished

/-! ### What can still happen -/

/-- The number of messages that wait or may still be sent once the run is cancelled. -/
def Interplay.pending (state : Interplay) : Nat := state.handoff.queue.length + state.sendsLeft

/-- The coordinator has ended a run, and no more than one message is still to come. -/
structure Interplay.Spent (state : Interplay) : Prop where
  relinquished : state.coordinator.Relinquished
  cancelled : state.handoff.cancelled = true
  pending : state.pending ≤ 1

section Spent

variable {state : Interplay}

/-- In a cancelled run, what is handled is taken off what is still to come. -/
theorem Interplay.step_pending (hcancelled : state.handoff.cancelled = true) (settings : Settings)
    (move : Move) :
    (state.handled move).length + (state.step settings move).pending ≤ state.pending := by
  have hsends := (Interplay.step_left hcancelled settings move).2
  have hqueue := congrArg List.length (state.step_queue settings move)
  rw [List.length_append, List.length_append] at hqueue
  unfold Interplay.pending
  omega

theorem Interplay.Spent.step (h : state.Spent) (settings : Settings) (move : Move) :
    (state.step settings move).Spent := by
  have hcancelled := Interplay.step_cancelled h.cancelled settings move
  have hpending : (state.step settings move).pending ≤ 1 := by
    have hstep := Interplay.step_pending h.cancelled settings move
    have hbefore := h.pending
    omega
  refine ⟨?_, hcancelled, hpending⟩
  have hrelinquished := h.relinquished
  rcases state.coordinator_cases settings move with
    ⟨now, -, hnext⟩ | ⟨spawning, now, -, hstarting, -⟩ | ⟨-, -, hnext⟩ | ⟨spare, hnext⟩
  · rw [hnext]
    exact hrelinquished.act settings state.handoff state.listener now
  · exact absurd hstarting hrelinquished.phase_ne.1
  · rw [hnext]
    exact hrelinquished.beginRun
  · obtain ⟨hphase, hsurface, hreleased, hclear, htask⟩ := hrelinquished
    rw [hnext]
    exact ⟨hphase, hsurface, hreleased, hclear, htask⟩

/-- The terminal is not written to any more. -/
theorem Interplay.Spent.terminal_step (h : state.Spent) (settings : Settings)
    (move : Move) :
    (state.step settings move).coordinator.terminal = state.coordinator.terminal := by
  cases hends : state.endsRun move with
  | false => exact (Interplay.step_terminal settings hends).1
  | true =>
    obtain ⟨now, report, rfl, -, hnext⟩ := Interplay.endsRun_cases settings hends
    obtain ⟨-, -, hterminal⟩ := (state.coordinator.drawn now).concluded_fields settings report
    have hsame : (state.coordinator.drawn now).releaseSurface = state.coordinator.drawn now := by
      unfold Coordinator.releaseSurface
      rw [show (state.coordinator.drawn now).surface = none from h.relinquished.surface]
    rw [hnext, Coordinator.finish_eq, hterminal, hsame]
    rfl

/-- Where no message is handled, nothing is drawn. -/
theorem Interplay.Spent.renderer_step (h : state.Spent) (settings : Settings) {move : Move}
    (hclear : state.coordinator.renderer.staged = false) (hnothing : state.handled move = []) :
    (state.step settings move).coordinator.renderer = state.coordinator.renderer := by
  rcases state.coordinator_cases settings move with
    ⟨now, rfl, hnext⟩ | ⟨spawning, now, -, hfirst, -⟩ | ⟨-, -, hnext⟩ | ⟨spare, hnext⟩
  · have htick : (RendererCall.tick now).view? = none := rfl
    have hflush : (RendererCall.flushNow now).view? = none := rfl
    rw [hnext]
    rcases state.coordinator.act_view settings state.handoff state.listener now with
      ⟨payload, htaken, -⟩ | ⟨-, -, hsame | hticked | ⟨-, hflushed⟩⟩
    · exact absurd (htaken.symm.trans hnothing) (List.cons_ne_nil _ _)
    · exact hsame
    · exact hticked.trans (Renderer.call_of_clear htick hclear)
    · exact hflushed.trans (Renderer.call_of_clear hflush hclear)
  · exact absurd hfirst h.relinquished.phase_ne.1
  · rw [hnext]
    rfl
  · rw [hnext]

/-- What moves after the end of a run leave as it is. -/
theorem Interplay.Spent.after (h : state.Spent) (settings : Settings) (moves : List Move) :
    (state.after settings moves).Spent ∧
      (state.after settings moves).coordinator.terminal = state.coordinator.terminal ∧
      (Interplay.gather settings Interplay.handled state moves).length ≤ state.pending ∧
      (state.coordinator.renderer.staged = false →
        Interplay.gather settings Interplay.handled state moves = [] →
        (state.after settings moves).coordinator.renderer = state.coordinator.renderer) := by
  induction moves generalizing state with
  | nil => exact ⟨h, rfl, Nat.zero_le _, fun _ _ ↦ rfl⟩
  | cons move rest ih =>
    have hpending := Interplay.step_pending h.cancelled settings move
    obtain ⟨hspent, hterminal, hhandled, hrenderer⟩ := ih (h.step settings move)
    refine ⟨hspent, hterminal.trans (h.terminal_step settings move), ?_, ?_⟩
    · rw [Interplay.gather, List.length_append]
      omega
    · intro hclear hnothing
      rw [Interplay.gather, List.append_eq_nil_iff] at hnothing
      have hsame := h.renderer_step settings hclear hnothing.1
      refine (hrenderer ?_ hnothing.2).trans hsame
      rw [hsame]
      exact hclear

end Spent

/-! ### Reachable states -/

/-- What leads to the end of a run, and what holds after it. -/
structure Interplay.Retires (state : Interplay) : Prop where
  orderly : state.Orderly
  leaving : state.coordinator.isLeaving = true → state.handoff.cancelled = true
  finishing : state.coordinator.isFinishing = true → state.pending ≤ 1
  stopped : state.coordinator.phase = .stopped → state.Spent

section Retires

variable {state : Interplay}

theorem Interplay.retires_new (outlet : Outlet) (settings : Settings) (surface : Option Bool) :
    (Interplay.new (.fresh outlet settings surface)).Retires := by
  have horderly := Interplay.orderly_new outlet settings surface
  cases surface <;> exact ⟨horderly, Bool.noConfusion, Bool.noConfusion, Phase.noConfusion⟩

/-- The coordinator has let go of the listener before it ends the run. -/
theorem Interplay.Retires.finish (h : state.Retires) (settings : Settings) {move : Move}
    (hends : state.endsRun move = true) : (state.step settings move).Spent := by
  obtain ⟨now, report, rfl, htask, hnext⟩ := Interplay.endsRun_cases settings hends
  have hcoherent := h.orderly.coherent
  unfold Coordinator.Coherent at hcoherent
  rw [htask] at hcoherent
  have hcancelled := h.leaving (Coordinator.isLeaving_of_isFinishing hends)
  have hpending := Interplay.step_pending hcancelled settings (.coordinator now)
  have hbefore := h.finishing hends
  refine ⟨?_, Interplay.step_cancelled hcancelled settings _, by omega⟩
  rw [hnext]
  exact Coordinator.relinquished_finish hcoherent.2 settings report now

theorem Interplay.Retires.step (h : state.Retires) (settings : Settings) (move : Move) :
    (state.step settings move).Retires := by
  refine ⟨h.orderly.step settings move, Interplay.step_isLeaving h.leaving settings move, ?_, ?_⟩
  · intro hfinishing
    rcases state.coordinator_cases settings move with
      ⟨now, rfl, hnext⟩ | ⟨spawning, now, -, -, -, -, hidle, -⟩ | ⟨-, -, hnext⟩ | ⟨spare, hnext⟩
    · rw [hnext] at hfinishing
      have hqueue := (Coordinator.act_transition settings state.coordinator state.handoff
        state.listener now).finishing hfinishing
      have hempty : (state.step settings (.coordinator now)).handoff.queue = [] := hqueue
      have hsends := (state.step settings (.coordinator now)).sendsLeft_le
      unfold Interplay.pending
      rw [hempty, List.length_nil, Nat.zero_add]
      exact hsends
    · unfold Coordinator.isFinishing at hfinishing
      rw [hidle] at hfinishing
      cases hfinishing
    · rw [hnext] at hfinishing
      rw [Coordinator.isFinishing_beginRun] at hfinishing
      cases hfinishing
    · rw [hnext] at hfinishing
      have hcancelled := h.leaving (Coordinator.isLeaving_of_isFinishing hfinishing)
      have hbefore := h.finishing hfinishing
      have hpending := Interplay.step_pending hcancelled settings move
      omega
  · intro hstopped
    by_cases hbefore : state.coordinator.phase = .stopped
    · exact (h.stopped hbefore).step settings move
    · rcases state.coordinator_cases settings move with
        ⟨now, rfl, hnext⟩ | ⟨spawning, now, -, -, -, hrunning, -⟩ | ⟨-, -, hnext⟩ | ⟨spare, hnext⟩
      · rw [hnext] at hstopped
        rcases (Coordinator.act_transition settings state.coordinator state.handoff state.listener
          now).stopped hstopped with hphase | hfinishing
        · exact absurd hphase hbefore
        · exact h.finish settings hfinishing
      · exact absurd (hrunning.symm.trans hstopped) Phase.noConfusion
      · rw [hnext] at hstopped
        exact absurd hstopped hbefore
      · rw [hnext] at hstopped
        exact absurd hstopped hbefore

theorem Interplay.Retires.after (h : state.Retires) (settings : Settings) (moves : List Move) :
    (state.after settings moves).Retires := by
  induction moves generalizing state with
  | nil => exact h
  | cons move rest ih => exact ih (h.step settings move)

end Retires

/-- Assumes: a coordinator that has stopped, also one that left its listener to itself. Whatever the
listener still does and however often the coordinator is started and run again, every start is
refused, the terminal surface writes nothing, and one message at most is handled. As long as none
is, the board and the renderer stay as they are. -/
theorem Interplay.stopped_for_good (settings : Settings) (outlet : Outlet) (surface : Option Bool)
    (before after : List Move) :
    let state := (Interplay.new (.fresh outlet settings surface)).after settings before
    let final := state.after settings after
    state.coordinator.phase = .stopped →
    (∀ spawning now, final.coordinator.start settings spawning now =
      (.error .alreadyStarted, final.coordinator)) ∧
    final.coordinator.terminal = state.coordinator.terminal ∧
    (Interplay.gather settings Interplay.handled state after).length ≤
      state.handoff.queue.length + state.sendsLeft ∧
    state.handoff.queue.length + state.sendsLeft ≤ 1 ∧
    (Interplay.gather settings Interplay.handled state after = [] →
      final.coordinator.board = state.coordinator.board ∧
        final.coordinator.renderer = state.coordinator.renderer) := by
  intro state final hstopped
  have hretires := (Interplay.retires_new outlet settings surface).after settings before
  have hspent : state.Spent := hretires.stopped hstopped
  obtain ⟨hafter, hterminal, hhandled, hrenderer⟩ := hspent.after settings after
  refine ⟨?_, hterminal, hhandled, hspent.pending, ?_⟩
  · intro spawning now
    exact Coordinator.start_refused hafter.relinquished.phase_ne.1 settings spawning now
  · intro hnothing
    refine ⟨?_, hrenderer (hspent.relinquished.clear hstopped) hnothing⟩
    have hboard := state.after_board settings after
    rw [hnothing] at hboard
    exact hboard

/-! ### A listener that was left to itself -/

/-- The run is cancelled while the listener polls, and ends without waiting for it any longer. -/
def Move.abandonment : List Move :=
  Move.detachedPoll ++ [.coordinator (2 * oneSecond), .coordinator (2 * oneSecond)]

/-- Another run after that. -/
def Move.secondRun : List Move :=
  [.run, .coordinator (2 * oneSecond), .coordinator (2 * oneSecond), .coordinator (2 * oneSecond),
    .coordinator (2 * oneSecond)]

/-- The poll returns a message before the second run, and the listener sends it. -/
def Move.lateDelivery : List Move :=
  [.listener (2 * oneSecond) (.polled (.returns (.ok (some (.payload timestampOnly))))),
    .listener (2 * oneSecond) .nothing] ++ Move.secondRun

theorem Interplay.stopped_for_good_abandoned :
    let state := (Interplay.new (.fresh .unlimited unthrottled (some true))).after unthrottled
      Move.abandonment
    let final := state.after unthrottled Move.secondRun
    final.coordinator.board = state.coordinator.board ∧
      final.coordinator.renderer = state.coordinator.renderer := by
  intro state final
  have hstopped : state.coordinator.phase = .stopped := by decide +kernel
  have hnothing : Interplay.gather unthrottled Interplay.handled state Move.secondRun = [] := by
    decide +kernel
  obtain ⟨-, -, -, -, hsame⟩ := Interplay.stopped_for_good unthrottled .unlimited (some true)
    Move.abandonment Move.secondRun hstopped
  exact hsame hnothing

/-- The title changes in one place, so something is drawn. -/
theorem Transcript.drawing_timestampOnly_ne_nil :
    (Transcript.start.drawing timestampOnly).bytes ≠ [] := by
  have hpaired : ∀ view : Board.View,
      view.painting.PairedOfSize Board.frameWidth Board.frameHeight :=
    fun view ↦ view.pairedOfSize_paint (by decide)
  unfold Transcript.drawing
  generalize hcurrent : Transcript.start.board.view = current
  generalize hnext : (Transcript.start.board.receive timestampOnly).view = next
  have hshown : current.painting.get? 24 0 = some ⟨'0', 1, Board.labelStyle⟩ := by
    rw [Board.View.get?_painting_title, ← hcurrent]
    decide +kernel
  have hwanted : next.painting.get? 24 0 = some ⟨'1', 1, Board.labelStyle⟩ := by
    rw [Board.View.get?_painting_title, ← hnext]
    decide +kernel
  have hwidth : current.painting.width = next.painting.width := by
    rw [(hpaired current).width, (hpaired next).width]
  have hglyph := Drawing.glyph_mem_difference (hpaired next).paired hwidth hshown hwanted
    (by decide) rfl Transcript.start.pen
  intro hnone
  exact absurd (List.flatMap_eq_nil_iff.mp hnone _ hglyph) (by decide)

/-- A message that comes after the coordinator has stopped is applied by the next run and drawn on
the terminal, which was given back. -/
theorem Interplay.late_message_drawn :
    let state := (Interplay.new (.fresh .unlimited unthrottled (some true))).after unthrottled
      Move.abandonment
    let final := state.after unthrottled Move.lateDelivery
    (state.coordinator.phase = .stopped ∧ state.coordinator.task = .idle ∧
      state.coordinator.surface = none) ∧
    final.coordinator.board ≠ state.coordinator.board ∧
    ∃ drawn, drawn ≠ [] ∧ final.coordinator.renderer.outlet.accepted.toList =
      state.coordinator.renderer.outlet.accepted.toList ++ drawn := by
  intro state final
  have hworks : Outlet.unlimited.Works := Outlet.works_of_over rfl rfl
  have hnew : (Interplay.new (.fresh .unlimited unthrottled (some true))).Transcribes
      .unlimited [] := Interplay.transcribes_new .unlimited rfl (some true)
  have hstate : state.Transcribes .unlimited [] := by
    have hnothing : Interplay.gather unthrottled Interplay.handled
        (Interplay.new (.fresh .unlimited unthrottled (some true))) Move.abandonment = [] := by
      decide +kernel
    have htold := hnew.after hworks unthrottled Move.abandonment
    rwa [hnothing] at htold
  have hfinal : final.Transcribes .unlimited [timestampOnly] := by
    have hlate : Interplay.gather unthrottled Interplay.handled state Move.lateDelivery =
        [timestampOnly] := by decide +kernel
    have htold := hstate.after hworks unthrottled Move.lateDelivery
    rwa [hlate] at htold
  have hstarted : state.listener ≠ none ∧ final.listener ≠ none := by decide +kernel
  refine ⟨⟨by decide +kernel, by decide +kernel, by decide +kernel⟩, ?_,
    (Transcript.start.drawing timestampOnly).bytes, Transcript.drawing_timestampOnly_ne_nil, ?_⟩
  · rw [hstate.board, hfinal.board]
    decide +kernel
  · rw [(hstate.started hstarted.1).bytes, (hfinal.started hstarted.2).bytes, List.append_assoc]
    rfl

end LiveBoard.Viewer
