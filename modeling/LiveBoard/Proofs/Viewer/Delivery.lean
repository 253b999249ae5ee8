import LiveBoard.Proofs.Viewer.Interplay

/-!
# Delivery

Every message that polls return reaches the board, once and in order, if the listener has ended by
the time the coordinator stops waiting for it. Nobody sends any more then, so the drain empties
the queue and nothing is added until the run returns (`Interplay.Ending`). `Interplay.Orderly`
collects what holds of all reachable states besides, and `Interplay.payloads_delivered` is the
result.
-/

set_option autoImplicit false
set_option relaxedAutoImplicit false

namespace LiveBoard.Viewer

open Feed

/-! ### The board -/

section Board

variable (settings : Settings) (state : Interplay)

theorem Interplay.step_board (move : Move) :
    (state.step settings move).coordinator.board =
      (state.handled move).foldl Board.State.receive state.coordinator.board := by
  rcases state.step_cases settings move with
    ⟨now, rfl, hstep⟩ | ⟨now, reply, listener, rfl, -, hstep⟩ | hrests
  · rw [hstep]
    exact state.coordinator.act_board settings state.handoff state.listener now
  · rw [hstep]
    rfl
  · rw [hrests.handled, hrests.board]
    rfl

/-- The board follows the messages that the coordinator handled. -/
theorem Interplay.after_board (moves : List Move) :
    (state.after settings moves).coordinator.board =
      (Interplay.gather settings Interplay.handled state moves).foldl Board.State.receive
        state.coordinator.board := by
  induction moves generalizing state with
  | nil => rfl
  | cons move rest ih =>
    unfold Interplay.gather
    rw [List.foldl_append, ← Interplay.step_board]
    exact ih (state.step settings move)

end Board

/-! ### Reachable states -/

/-- What holds between any two moves. -/
structure Interplay.Orderly (state : Interplay) : Prop where
  sane : state.Sane
  tidy : state.coordinator.renderer.Tidy
  coherent : state.coordinator.Coherent
  painted : state.listener ≠ none → state.coordinator.Painted

section Orderly

variable {state : Interplay}

theorem Interplay.orderly_new (outlet : Display.Outlet) (settings : Settings)
    (surface : Option Bool) :
    (Interplay.new (.fresh outlet settings surface)).Orderly := by
  have htidy := Display.Renderer.tidy_new outlet settings.refreshPerSecond
  cases surface with
  | none => exact ⟨⟨fun _ ↦ rfl, rfl⟩, htidy, trivial, fun hnone ↦ absurd rfl hnone⟩
  | some alternate => exact ⟨⟨fun _ ↦ rfl, rfl⟩, htidy, trivial, fun hnone ↦ absurd rfl hnone⟩

theorem Coordinator.Coherent.of_idle {coordinator : Coordinator}
    (hidle : coordinator.task = .idle) : coordinator.Coherent := by
  unfold Coordinator.Coherent
  rw [hidle]
  trivial

theorem Interplay.Orderly.step (h : state.Orderly) (settings : Settings) (move : Move) :
    (state.step settings move).Orderly := by
  have hsane := h.sane.step settings move
  cases move with
  | start spawning now =>
    rcases state.step_start settings spawning now with
      ⟨started, hstep, -, -, -, hidle, hboard, hrenderer⟩ | ⟨spare, hstep⟩
    · have htidy : started.renderer.Tidy := by
        rw [hrenderer]
        exact (h.tidy.update _ now).flushNow now
      have hnext : started.renderer.next = started.board.view.painting := by
        rw [hrenderer, Display.Renderer.next_flushNow, h.tidy.next_update, hboard]
      rw [hstep] at hsane ⊢
      exact ⟨hsane, htidy, .of_idle hidle, fun _ ↦ ⟨htidy, hnext⟩⟩
    · rw [hstep] at hsane ⊢
      exact ⟨hsane, h.tidy, h.coherent, fun hsome ↦ ⟨h.tidy, (h.painted hsome).next⟩⟩
  | run =>
    rcases state.step_run settings with ⟨-, hstep⟩ | hstep
    · have hcoherent : state.coordinator.beginRun.Coherent := by
        rcases state.coordinator.beginRun_cases with hbegun | hbegun <;>
        · rw [hbegun]
          trivial
      rw [hstep] at hsane ⊢
      exact ⟨hsane, h.tidy, hcoherent, fun hsome ↦ ⟨h.tidy, (h.painted hsome).next⟩⟩
    · rw [hstep]
      exact h
  | coordinator now =>
    exact ⟨hsane, Coordinator.tidy_act h.tidy, h.coherent.act, fun hsome ↦ (h.painted hsome).act⟩
  | listener now reply =>
    rcases state.step_listener settings now reply with ⟨listener, hlistener, hstep⟩ | ⟨-, hstep⟩
    · have hsome : state.listener ≠ none := by
        rw [hlistener]
        exact Option.some_ne_none listener
      rw [hstep] at hsane ⊢
      exact ⟨hsane, h.tidy, h.coherent, fun _ ↦ h.painted hsome⟩
    · rw [hstep]
      exact h
  | cancel => exact ⟨hsane, h.tidy, h.coherent, h.painted⟩

theorem Interplay.Orderly.after (h : state.Orderly) (settings : Settings) (moves : List Move) :
    (state.after settings moves).Orderly := by
  induction moves generalizing state with
  | nil => exact h
  | cons move rest ih => exact ih (h.step settings move)

end Orderly

/-! ### The end of a run -/

/-- The coordinator has stopped waiting for a listener that has ended. -/
structure Interplay.Ending (state : Interplay) : Prop where
  orderly : state.Orderly
  listener : ∃ listener, state.listener = some listener ∧ listener.isFinished = true
  phase : state.coordinator.phase = .stopping ∨ state.coordinator.phase = .stopped
  released : state.coordinator.holdsListener = false
  task : match state.coordinator.task with
    | .draining _ => True
    | .finishing _ => state.handoff.queue = []
    | .idle => state.handoff.queue = [] ∧ state.coordinator.renderer.staged = false
    | .stopping => state.handoff.queue = [] ∧ state.coordinator.renderer.staged = false
    | _ => False

section Ending

variable {state : Interplay}

theorem Interplay.Orderly.ending (h : state.Orderly) {report : Option ListenerExit}
    {listener : Listener} (hdraining : state.coordinator.task = .draining report)
    (hlistener : state.listener = some listener) (hfinished : listener.isFinished = true) :
    state.Ending := by
  have hcoherent := h.coherent
  unfold Coordinator.Coherent at hcoherent
  rw [hdraining] at hcoherent
  refine ⟨h, ⟨listener, hlistener, hfinished⟩, Or.inl hcoherent.1, hcoherent.2, ?_⟩
  rw [hdraining]
  trivial

/-- The drain goes on, or the queue is empty and stays so. -/
theorem Interplay.Ending.step_coordinator (h : state.Ending) (settings : Settings)
    (now : Instant) : (state.step settings (.coordinator now)).Ending := by
  have horderly := h.orderly.step settings (.coordinator now)
  rw [Interplay.step_act] at horderly ⊢
  have htask := h.task
  cases hcase : state.coordinator.task with
  | idle =>
    rw [Coordinator.act_of_idle hcase]
    exact h
  | draining report =>
    cases hqueue : state.handoff.queue with
    | cons payload rest =>
      rw [Coordinator.act_draining_cons hcase hqueue] at horderly ⊢
      refine ⟨horderly, h.listener, h.phase, h.released, ?_⟩
      have hdraining : (state.coordinator.handle payload now).task = .draining report := hcase
      dsimp only
      rw [hdraining]
      trivial
    | nil =>
      rw [Coordinator.act_draining_nil hcase hqueue] at horderly ⊢
      exact ⟨horderly, h.listener, h.phase, h.released, hqueue⟩
  | finishing report =>
    rw [hcase] at htask
    obtain ⟨hstaged, -⟩ := h.orderly.tidy.visible_flushNow now
    rw [Coordinator.act_finishing hcase] at horderly ⊢
    refine ⟨horderly, h.listener, Or.inr rfl, Coordinator.holdsListener_finish.trans h.released, ?_⟩
    dsimp only
    rw [Coordinator.task_finish, Coordinator.renderer_finish]
    exact ⟨htask, hstaged⟩
  | stopping =>
    rw [Coordinator.act_stopping_of_released hcase h.released] at horderly ⊢
    exact ⟨horderly, h.listener, Or.inl rfl, rfl, trivial⟩
  | _ =>
    rw [hcase] at htask
    exact htask.elim

theorem Interplay.Ending.step (h : state.Ending) (settings : Settings) (move : Move) :
    (state.step settings move).Ending := by
  have horderly := h.orderly.step settings move
  obtain ⟨listener, hlistener, hfinished⟩ := h.listener
  have hphase := h.phase
  have htask := h.task
  cases move with
  | start spawning now =>
    rcases state.step_start settings spawning now with
      ⟨started, -, hstarting, -⟩ | ⟨spare, hstep⟩
    · rw [hstarting] at hphase
      rcases hphase with hphase | hphase <;> cases hphase
    · rw [hstep] at horderly ⊢
      exact ⟨horderly, h.listener, hphase, h.released, htask⟩
  | run =>
    rcases state.step_run settings with ⟨hidle, hstep⟩ | hstep
    · have hbegin : state.coordinator.beginRun = { state.coordinator with task := .stopping } := by
        refine Coordinator.beginRun_of_not_running fun hrunning ↦ ?_
        rw [hrunning] at hphase
        rcases hphase with hphase | hphase <;> cases hphase
      rw [hidle] at htask
      rw [hstep, hbegin] at horderly ⊢
      exact ⟨horderly, h.listener, hphase, h.released, htask⟩
    · rw [hstep]
      exact h
  | coordinator now => exact h.step_coordinator settings now
  | listener now reply =>
    have hsame := listener.act_of_isFinished settings.listener state.handoff now reply hfinished
    rcases state.step_listener settings now reply with ⟨other, hother, hstep⟩ | ⟨-, hstep⟩
    · obtain rfl : listener = other := Option.some.inj (hlistener.symm.trans hother)
      rw [hsame, ← hlistener] at hstep
      rw [hstep]
      exact h
    · rw [hstep]
      exact h
  | cancel => exact ⟨horderly, h.listener, hphase, h.released, htask⟩

theorem Interplay.Ending.after (h : state.Ending) (settings : Settings) (moves : List Move) :
    (state.after settings moves).Ending := by
  induction moves generalizing state with
  | nil => exact h
  | cons move rest ih => exact ih (h.step settings move)

end Ending

/-- Assumes nothing of the settings, the source, the clock or the order of the moves. At any time
the messages handled, those in the queue and the one that the listener holds are those that polls
returned, in order. And if the listener has ended, by itself or by breaking down, when the
coordinator stops waiting for it, then once the run has returned the queue is empty, the board is
what all messages that polls returned make of the initial one, and its painting is visible with
nothing left staged. -/
theorem Interplay.payloads_delivered (settings : Settings) (outlet : Display.Outlet)
    (surface : Option Bool) :
    let initial := Interplay.new (.fresh outlet settings surface)
    (∀ moves,
      Interplay.gather settings Interplay.handled initial moves ++
          (initial.after settings moves).handoff.queue ++ (initial.after settings moves).held =
        payloadsOf (Interplay.gather settings Interplay.returned initial moves)) ∧
    ∀ before after report listener,
      (initial.after settings before).coordinator.task = .draining report →
      (initial.after settings before).listener = some listener → listener.isFinished = true →
      let final := initial.after settings (before ++ after)
      final.coordinator.task = .idle →
        final.handoff.queue = [] ∧
        final.coordinator.board =
          (payloadsOf (Interplay.gather settings Interplay.returned initial
            (before ++ after))).foldl Board.State.receive .initial ∧
        final.coordinator.renderer.visible = final.coordinator.board.view.painting ∧
        final.coordinator.renderer.staged = false := by
  intro initial
  have horderly : initial.Orderly := Interplay.orderly_new outlet settings surface
  have hboard : initial.coordinator.board = .initial := by
    cases surface <;> rfl
  have hconserved : ∀ moves, Interplay.gather settings Interplay.handled initial moves ++
      (initial.after settings moves).handoff.queue ++ (initial.after settings moves).held =
        payloadsOf (Interplay.gather settings Interplay.returned initial moves) :=
    horderly.sane.gather_conserves settings
  refine ⟨hconserved, ?_⟩
  intro before after report listener hdraining hlistener hfinished final hidle
  have hending : final.Ending := by
    have hfinal : final = (initial.after settings before).after settings after :=
      initial.after_append settings before after
    rw [hfinal]
    exact ((horderly.after settings before).ending hdraining hlistener hfinished).after settings
      after
  have htask := hending.task
  rw [hidle] at htask
  obtain ⟨hqueue, hstaged⟩ := htask
  obtain ⟨last, hlast, hended⟩ := hending.listener
  have hheld : final.held = [] := by
    unfold Interplay.held
    rw [hlast]
    exact Listener.held_of_isFinished hended
  have hpainted : final.coordinator.Painted := hending.orderly.painted (by simp [hlast])
  refine ⟨hqueue, ?_, ?_, hstaged⟩
  · have hall := hconserved (before ++ after)
    rw [show (initial.after settings (before ++ after)).handoff.queue = [] from hqueue,
      show (initial.after settings (before ++ after)).held = [] from hheld, List.append_nil,
      List.append_nil] at hall
    rw [← hall, ← hboard]
    exact initial.after_board settings (before ++ after)
  · rw [hpainted.tidy.visible hstaged, hpainted.next]

/-! ### A message taken at the last moment -/

/-- Moves of a run that is cancelled while a message is polled: the listener sends the message
when the coordinator waits for it already. -/
def Move.lateMessage : List Move :=
  [.start (.ok ()) 0, .run, .listener 0 (.connected (.ok ())), .listener 0 .nothing, .cancel,
    .listener 0 (.polled (.returns (.ok (some (.payload [0x7B]))))), .coordinator 0,
    .coordinator 0, .listener 0 .nothing, .listener 0 .nothing, .listener 0 .nothing,
    .coordinator 0]

theorem Interplay.payloads_delivered_late :
    let final := (Interplay.new (.fresh .unlimited .standard none)).after .standard
      (Move.lateMessage ++ [.coordinator 0, .coordinator 0, .coordinator 0])
    final.handoff.queue = [] ∧
      final.coordinator.board = [[0x7B]].foldl Board.State.receive .initial := by
  intro final
  obtain ⟨-, hdelivered⟩ := Interplay.payloads_delivered .standard .unlimited none
  obtain ⟨hqueue, hboard, -⟩ := hdelivered Move.lateMessage
    [.coordinator 0, .coordinator 0, .coordinator 0] (some .cancelled) ⟨.ended .cancelled, 0⟩
    rfl rfl rfl rfl
  exact ⟨hqueue, hboard⟩

end LiveBoard.Viewer
