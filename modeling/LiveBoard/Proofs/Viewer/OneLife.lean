import LiveBoard.Proofs.Viewer.AfterStopping
import LiveBoard.Proofs.Viewer.GivingBack
import LiveBoard.Proofs.Viewer.TimelyReturn

/-!
# One life

A coordinator lives once, in whatever order it is started, run and cancelled from outside. Of the
starts at most one succeeds, and it hands over the only sender, so a `Company` of listeners, each
over the source that it was started with, has at most one member. While the coordinator is running
it holds on to that listener and has drawn the initial board. Without a listener nothing is drawn
(`Interplay.Barren`), and once a run has begun there is no way back to before the start
(`Interplay.Begun`). So a run that comes first stops within three actions and makes every start
fail. `Company.one_life` is the result.
-/

set_option autoImplicit false
set_option relaxedAutoImplicit false

namespace LiveBoard.Viewer

open Display Feed

/-! ### The coordinator -/

/-- The renderer after a start: it has drawn the initial board, and nothing else. -/
def opening (outlet : Outlet) (settings : Settings) (now : Instant) : Renderer :=
  ((Renderer.new outlet settings.refreshPerSecond).stage emptyView).flush now

/-- The order in which a coordinator goes through its phases. -/
def Phase.rank : Phase → Nat
  | .starting => 0
  | .running => 1
  | .stopping => 2
  | .stopped => 3

/-- The number of actions that end a run without a listener. -/
def Coordinator.actionsLeft (coordinator : Coordinator) : Nat :=
  match coordinator.task with
  | .stopping => 3
  | .draining _ => 2
  | .finishing _ => 1
  | _ => 0

theorem Coordinator.actionsLeft_le (coordinator : Coordinator) : coordinator.actionsLeft ≤ 3 := by
  unfold Coordinator.actionsLeft
  split <;> decide

section Coordinator

variable (settings : Settings) (coordinator : Coordinator) (handoff : Handoff)
  (listener : Option Listener) (now : Instant)

/-- A start whose listener starts succeeds and gives the sender away, or it is refused and changes
nothing. -/
theorem Coordinator.start_cases :
    (∃ next, coordinator.start settings (.ok ()) now = (.ok (), next) ∧
      coordinator.spareSender = true ∧ next.spareSender = false) ∨
    coordinator.start settings (.ok ()) now = (.error .alreadyStarted, coordinator) := by
  unfold Coordinator.start
  by_cases hstarted : (coordinator.phase ≠ .starting || !coordinator.spareSender) = true
  · rw [if_pos hstarted]
    exact Or.inr rfl
  · rw [if_neg hstarted]
    simp only [Bool.or_eq_true, decide_eq_true_eq, Bool.not_eq_true', not_or, not_not,
      Bool.not_eq_false] at hstarted
    exact Or.inl ⟨_, rfl, hstarted.2, rfl⟩

/-- A coordinator that is running after an action was so before, with the same listener. -/
theorem Coordinator.Transition.running {settings : Settings} {coordinator next : Coordinator}
    {handoff shared : Handoff} {listener : Option Listener} {now : Instant}
    (htransition : Coordinator.Transition settings listener now coordinator handoff next shared)
    (hcoherent : coordinator.Coherent) (hrunning : next.phase = .running) :
    coordinator.phase = .running ∧ next.holdsListener = coordinator.holdsListener := by
  unfold Coordinator.Coherent at hcoherent
  cases htransition with
  | stops htask hholds hnext hphase hstill =>
    exact absurd (hphase.symm.trans hrunning) Phase.noConfusion
  | stopsAlone htask hholds hnext hphase hgone =>
    exact absurd (hphase.symm.trans hrunning) Phase.noConfusion
  | joins wait look htask hready hgone hnext hphase hlet =>
    rw [htask] at hcoherent
    exact absurd ((hphase.trans hcoherent).symm.trans hrunning) Phase.noConfusion
  | detaches wait htask hlate hnext hphase hlet =>
    rw [htask] at hcoherent
    exact absurd ((hphase.trans hcoherent).symm.trans hrunning) Phase.noConfusion
  | finishes report htask hnext hphase hholds houtcome =>
    exact absurd (hphase.symm.trans hrunning) Phase.noConfusion
  | _ =>
    rename_i hturns
    exact ⟨hturns.phase.symm.trans hrunning, hturns.holds⟩

/-- What an action does to the renderer is a call of it, or nothing. -/
theorem Coordinator.renderer_act :
    ∃ calls, (coordinator.act settings handoff listener now).1.renderer =
      coordinator.renderer.callAll calls := by
  rcases coordinator.act_view settings handoff listener now with
    ⟨payload, -, -, hupdated⟩ | ⟨-, -, hsame | hticked | ⟨-, hflushed⟩⟩
  · exact ⟨[.update (coordinator.board.receive payload).view now], hupdated⟩
  · exact ⟨[], hsame⟩
  · exact ⟨[.tick now], hticked⟩
  · exact ⟨[.flushNow now], hflushed⟩

end Coordinator

/-! ### Without a listener -/

/-- No listener was started and nothing was drawn. A run may be going on, which stops at once. -/
structure Interplay.Barren (state : Interplay) (outlet : Outlet) (settings : Settings) : Prop where
  listener : state.listener = none
  queue : state.handoff.queue = []
  board : state.coordinator.board = .initial
  renderer : state.coordinator.renderer = .new outlet settings.refreshPerSecond
  released : state.coordinator.holdsListener = false
  phase : state.coordinator.phase ≠ .running
  task : match state.coordinator.task with
    | .idle => state.coordinator.phase = .stopped → state.coordinator.outcome = some .interrupted
    | .stopping => True
    | .draining report => report = none
    | .finishing report => report = none
    | _ => False

/-- A run has begun, so that between two runs the coordinator is not before its start. -/
def Interplay.Begun (state : Interplay) : Prop :=
  state.coordinator.task = .idle → state.coordinator.phase ≠ .starting

section Barren

variable {state : Interplay} {outlet : Outlet} {settings : Settings}

theorem Interplay.barren_new (outlet : Outlet) (settings : Settings) (surface : Option Bool) :
    (Interplay.new (.fresh outlet settings surface)).Barren outlet settings := by
  cases surface <;>
    exact ⟨rfl, rfl, rfl, rfl, rfl, Phase.noConfusion, Phase.noConfusion⟩

/-- The coordinator goes on to the end of the run, where there is no report to be had. -/
theorem Interplay.Barren.act (h : state.Barren outlet settings) (now : Instant) :
    (state.step settings (.coordinator now)).Barren outlet settings ∧
      (state.step settings (.coordinator now)).coordinator.actionsLeft =
        state.coordinator.actionsLeft - 1 := by
  obtain ⟨hlistener, hqueue, hboard, hrenderer, hreleased, hphase, htask⟩ := h
  rw [Interplay.step_act]
  unfold Coordinator.actionsLeft
  cases hcase : state.coordinator.task with
  | idle =>
    rw [Coordinator.act_of_idle hcase]
    dsimp only
    rw [hcase]
    exact ⟨⟨hlistener, hqueue, hboard, hrenderer, hreleased, hphase, htask⟩, rfl⟩
  | stopping =>
    rw [Coordinator.act_stopping_of_released hcase hreleased]
    exact ⟨⟨hlistener, hqueue, hboard, hrenderer, rfl, Phase.noConfusion, rfl⟩, rfl⟩
  | draining report =>
    rw [hcase] at htask
    rw [Coordinator.act_draining_nil hcase hqueue]
    exact ⟨⟨hlistener, hqueue, hboard, hrenderer, hreleased, hphase, htask⟩, rfl⟩
  | finishing report =>
    rw [hcase] at htask
    rw [Coordinator.act_finishing hcase]
    obtain rfl : report = none := htask
    have hclear : state.coordinator.renderer.staged = false := by
      rw [hrenderer]
      rfl
    have hnone : (RendererCall.flushNow now).view? = none := rfl
    refine ⟨⟨hlistener, hqueue, Coordinator.board_finish.trans hboard, ?_,
      Coordinator.holdsListener_finish.trans hreleased, Phase.noConfusion, fun _ ↦ rfl⟩, ?_⟩
    · exact Coordinator.renderer_finish.trans
        ((Renderer.call_of_clear hnone hclear).trans hrenderer)
    · dsimp only
      rw [Coordinator.task_finish]
  | _ =>
    rw [hcase] at htask
    exact htask.elim

/-- As long as no start succeeds nothing is drawn, and none does once a run has begun. -/
theorem Interplay.Barren.step (h : state.Barren outlet settings) (move : Move) :
    (state.step settings move).Barren outlet settings ∨
      ((state.step settings move).listener = some .start ∧ ¬ state.Begun) := by
  cases move with
  | start spawning now =>
    rcases state.step_start settings spawning now with
      ⟨started, hstep, hstarting, hidle, -⟩ | ⟨spare, hstep⟩
    · rw [hstep]
      exact Or.inr ⟨rfl, fun hbegun ↦ hbegun hidle hstarting⟩
    · rw [hstep]
      exact Or.inl ⟨h.listener, h.queue, h.board, h.renderer, h.released, h.phase, h.task⟩
  | run =>
    rcases state.step_run settings with ⟨-, hstep⟩ | hstep
    · rw [hstep]
      refine Or.inl ⟨h.listener, h.queue, h.board, h.renderer, h.released, h.phase, ?_⟩
      rw [Coordinator.beginRun_of_not_running h.phase]
      trivial
    · rw [hstep]
      exact Or.inl h
  | coordinator now => exact Or.inl (h.act now).1
  | listener now reply =>
    rcases state.step_listener settings now reply with ⟨listener, hlistener, -⟩ | ⟨-, hstep⟩
    · rw [h.listener] at hlistener
      cases hlistener
    · rw [hstep]
      exact Or.inl h
  | cancel =>
    exact Or.inl ⟨h.listener, h.queue, h.board, h.renderer, h.released, h.phase, h.task⟩

/-- Nothing leads back to before the start. -/
theorem Interplay.step_started (hstarted : state.coordinator.phase ≠ .starting)
    (settings : Settings) (move : Move) :
    (state.step settings move).coordinator.phase ≠ .starting := by
  rcases state.coordinator_cases settings move with
    ⟨now, -, hnext⟩ | ⟨spawning, now, -, hstarting, -⟩ | ⟨-, -, hnext⟩ | ⟨spare, hnext⟩
  · rw [hnext]
    exact fun hstarting ↦ hstarted (Coordinator.phase_act hstarting)
  · exact absurd hstarting hstarted
  · rw [hnext]
    exact hstarted
  · rw [hnext]
    exact hstarted

theorem Interplay.after_started (hstarted : state.coordinator.phase ≠ .starting)
    (settings : Settings) (moves : List Move) :
    (state.after settings moves).coordinator.phase ≠ .starting := by
  induction moves generalizing state with
  | nil => exact hstarted
  | cons move rest ih => exact ih (Interplay.step_started hstarted settings move)

theorem Interplay.busy_run (settings : Settings) (state : Interplay) :
    (state.step settings .run).coordinator.task ≠ .idle :=
  (Interplay.step_busy settings rfl).mpr (Or.inr rfl)

theorem Interplay.begun_run (settings : Settings) (state : Interplay) :
    (state.step settings .run).Begun :=
  fun hidle ↦ absurd hidle (state.busy_run settings)

theorem Interplay.Begun.step (h : state.Begun) (settings : Settings) (move : Move) :
    (state.step settings move).Begun := by
  by_cases hidle : state.coordinator.task = .idle
  · exact fun _ ↦ Interplay.step_started (h hidle) settings move
  · intro hnext
    cases hends : state.endsRun move with
    | true =>
      obtain ⟨now, report, -, -, hfinished⟩ := Interplay.endsRun_cases settings hends
      rw [hfinished, Coordinator.phase_finish]
      exact Phase.noConfusion
    | false => exact absurd hnext ((Interplay.step_busy settings hends).mpr (Or.inl hidle))

/-- Every action of the coordinator brings a run without a listener closer to its end. -/
theorem Interplay.Barren.actionsLeft_step (h : state.Barren outlet settings) {move : Move}
    (hmove : move ≠ .run) :
    (state.step settings move).coordinator.actionsLeft ≤
      state.coordinator.actionsLeft - [move].countP Move.isCoordinator := by
  by_cases hidle : state.coordinator.task = .idle
  · -- no action is left, and only a run would make some
    have hnext : (state.step settings move).coordinator.task = .idle := by
      by_contra hbusy
      have hgoing := Interplay.endsRun_of_idle hidle move
      rcases (Interplay.step_busy settings hgoing).mp hbusy with hbefore | hrun
      · exact hbefore hidle
      · exact hmove hrun
    unfold Coordinator.actionsLeft
    rw [hnext]
    exact Nat.zero_le _
  · cases move with
    | coordinator now => exact Nat.le_of_eq (h.act now).2
    | _ =>
      rw [Interplay.coordinator_step settings (fun _ ↦ Move.noConfusion) hidle]
      exact Nat.le_refl _

/-- A run without a listener draws nothing, stops within its actions and is the last. -/
theorem Interplay.Barren.after (h : state.Barren outlet settings) (hbegun : state.Begun)
    (moves : List Move) :
    (state.after settings moves).Barren outlet settings ∧ (state.after settings moves).Begun ∧
      (Move.run ∉ moves → (state.after settings moves).coordinator.actionsLeft ≤
        state.coordinator.actionsLeft - moves.countP Move.isCoordinator) := by
  induction moves generalizing state with
  | nil => exact ⟨h, hbegun, fun _ ↦ Nat.le_refl _⟩
  | cons move rest ih =>
    have hnext : (state.step settings move).Barren outlet settings := by
      rcases h.step move with hbarren | ⟨-, hfirst⟩
      · exact hbarren
      · exact absurd hbegun hfirst
    obtain ⟨hbarren, hafter, hleft⟩ := ih hnext (hbegun.step settings move)
    refine ⟨hbarren, hafter, fun hrun ↦ ?_⟩
    rw [List.mem_cons, not_or] at hrun
    have hstep := h.actionsLeft_step (Ne.symm hrun.1)
    have hrest := hleft hrun.2
    have hcount : (move :: rest).countP Move.isCoordinator =
        [move].countP Move.isCoordinator + rest.countP Move.isCoordinator := by
      rw [← List.countP_append]
      rfl
    rw [hcount]
    change ((state.step settings move).after settings rest).coordinator.actionsLeft ≤ _
    omega

theorem Interplay.Barren.idle (h : state.Barren outlet settings)
    (hnone : state.coordinator.actionsLeft = 0) : state.coordinator.task = .idle := by
  have htask := h.task
  unfold Coordinator.actionsLeft at hnone
  cases hcase : state.coordinator.task with
  | idle => rfl
  | stopping =>
    rw [hcase] at hnone
    cases hnone
  | draining report =>
    rw [hcase] at hnone
    cases hnone
  | finishing report =>
    rw [hcase] at hnone
    cases hnone
  | _ =>
    rw [hcase] at htask
    exact htask.elim

end Barren

/-! ### With a listener -/

/-- What holds between any two moves, from before the start to after the last run. -/
structure Interplay.Lives (state : Interplay) (outlet : Outlet) (settings : Settings) : Prop where
  retires : state.Retires
  unstarted : state.listener = none → state.Barren outlet settings
  between : state.coordinator.task = .idle → state.coordinator.phase ≠ .stopping
  running : state.coordinator.phase = .running → state.coordinator.holdsListener = true ∧
    ∃ now calls, state.coordinator.renderer = (opening outlet settings now).callAll calls ∧
      (state.coordinator.task = .idle → calls = [])

section Lives

variable {state : Interplay} {outlet : Outlet} {settings : Settings}

theorem Interplay.lives_new (outlet : Outlet) (settings : Settings) (surface : Option Bool) :
    (Interplay.new (.fresh outlet settings surface)).Lives outlet settings := by
  have hretires := Interplay.retires_new outlet settings surface
  have hbarren := Interplay.barren_new outlet settings surface
  refine ⟨hretires, fun _ ↦ hbarren, ?_, fun hrunning ↦ absurd hrunning hbarren.phase⟩
  cases surface <;> exact fun _ ↦ Phase.noConfusion

/-- A listener that was started stays. -/
theorem Interplay.step_listener_none (settings : Settings) {move : Move}
    (hnone : (state.step settings move).listener = none) : state.listener = none := by
  rcases state.step_cases settings move with
    ⟨now, -, hstep⟩ | ⟨now, reply, listener, -, -, hstep⟩ | hrests
  · rw [hstep] at hnone
    exact hnone
  · rw [hstep] at hnone
    cases hnone
  · rcases hrests.started with ⟨hsame, -⟩ | ⟨hstarted, -⟩
    · exact hsame.symm.trans hnone
    · rw [hstarted] at hnone
      cases hnone

theorem Interplay.Lives.unstarted_step (h : state.Lives outlet settings) {move : Move}
    (hnone : (state.step settings move).listener = none) :
    (state.step settings move).Barren outlet settings := by
  rcases (h.unstarted (Interplay.step_listener_none settings hnone)).step move with
    hbarren | ⟨hstarted, -⟩
  · exact hbarren
  · rw [hnone] at hstarted
    cases hstarted

/-- Within a run the renderer goes on from what was drawn at the start. -/
theorem Interplay.Lives.act (h : state.Lives outlet settings) (now : Instant) :
    (state.step settings (.coordinator now)).Lives outlet settings := by
  by_cases hidle : state.coordinator.task = .idle
  · have hsame : state.step settings (.coordinator now) = state := by
      rw [Interplay.step_act, Coordinator.act_of_idle hidle]
    rw [hsame]
    exact h
  · have htransition := state.coordinator.act_transition settings state.handoff state.listener now
    -- where the action ends the run, the coordinator is neither stopping nor running
    have hends : (state.step settings (.coordinator now)).coordinator.task = .idle →
        (state.step settings (.coordinator now)).coordinator.phase = .stopped := by
      intro hnext
      rcases htransition.idle hnext with ⟨hbefore, -⟩ | ⟨-, hstopped⟩
      · exact absurd hbefore hidle
      · exact hstopped
    refine ⟨h.retires.step settings _, h.unstarted_step, ?_, ?_⟩
    · intro hnext hstopping
      exact Phase.noConfusion ((hends hnext).symm.trans hstopping)
    · intro hrunning
      obtain ⟨hbefore, hholds⟩ := htransition.running h.retires.orderly.coherent hrunning
      obtain ⟨hheld, start, calls, hrenderer, -⟩ := h.running hbefore
      obtain ⟨further, hfurther⟩ :=
        state.coordinator.renderer_act settings state.handoff state.listener now
      refine ⟨hholds.trans hheld, start, calls ++ further, ?_, ?_⟩
      · rw [Renderer.callAll_append, ← hrenderer]
        exact hfurther
      · intro hnext
        exact absurd ((hends hnext).symm.trans hrunning) Phase.noConfusion

/-- A start draws the initial board. -/
theorem Interplay.Lives.start (h : state.Lives outlet settings) (spawning : Except String Unit)
    (now : Instant) : (state.step settings (.start spawning now)).Lives outlet settings := by
  refine ⟨h.retires.step settings _, h.unstarted_step, ?_, ?_⟩ <;>
    rcases state.step_start settings spawning now with
      ⟨started, hstep, hstarting, hidle, hrunning, -, -, hrenderer⟩ | ⟨spare, hstep⟩
  · rw [hstep]
    exact fun _ hstopping ↦ Phase.noConfusion (hrunning.symm.trans hstopping)
  · rw [hstep]
    exact h.between
  · have hbarren := h.unstarted (h.retires.orderly.sane.unstarted hstarting)
    have hview : Board.State.initial.view = emptyView := rfl
    -- on a variable, or the kernel would draw the board to see that no call changes it
    have hnil : ∀ renderer : Renderer, renderer.callAll [] = renderer := fun _ ↦ rfl
    have hopened : started.renderer = (opening outlet settings now).callAll [] := by
      rw [hnil, hrenderer, hbarren.renderer, hbarren.board, hview, opening]
      exact Renderer.flushNow_update rfl emptyView now
    have hbefore : state.Holds := fun hsome ↦ absurd hbarren.listener hsome
    have hholds : (state.step settings (.start spawning now)).Holds :=
      hbefore.step_start spawning now
    rw [hstep] at hholds ⊢
    exact fun _ ↦ ⟨hholds (Option.some_ne_none _), now, [], hopened, fun _ ↦ rfl⟩
  · rw [hstep]
    exact h.running

theorem Interplay.Lives.step (h : state.Lives outlet settings) (move : Move) :
    (state.step settings move).Lives outlet settings := by
  have hretires := h.retires.step settings move
  have hunstarted : (state.step settings move).listener = none →
      (state.step settings move).Barren outlet settings := h.unstarted_step
  cases move with
  | coordinator now => exact h.act now
  | start spawning now => exact h.start spawning now
  | run =>
    have hbusy := state.busy_run settings
    rcases state.step_run settings with ⟨-, hstep⟩ | hstep
    · rw [hstep] at hretires hunstarted hbusy ⊢
      refine ⟨hretires, hunstarted, fun hidle ↦ absurd hidle hbusy, fun hrunning ↦ ?_⟩
      obtain ⟨hholds, start, calls, hrenderer, -⟩ := h.running hrunning
      exact ⟨hholds, start, calls, hrenderer, fun hidle ↦ absurd hidle hbusy⟩
    · rw [hstep]
      exact h
  | listener now reply =>
    rcases state.step_listener settings now reply with ⟨listener, -, hstep⟩ | ⟨-, hstep⟩
    · rw [hstep] at hretires hunstarted ⊢
      exact ⟨hretires, hunstarted, h.between, h.running⟩
    · rw [hstep]
      exact h
  | cancel => exact ⟨hretires, hunstarted, h.between, h.running⟩

theorem Interplay.Lives.after (h : state.Lives outlet settings) (moves : List Move) :
    (state.after settings moves).Lives outlet settings := by
  induction moves generalizing state with
  | nil => exact h
  | cons move rest ih => exact ih (h.step move)

/-- Between two runs the coordinator is at a later phase than before, or at the same. -/
theorem Interplay.Lives.rank_le (h : state.Lives outlet settings) (moves : List Move)
    (hidle : state.coordinator.task = .idle)
    (hlater : (state.after settings moves).coordinator.task = .idle) :
    state.coordinator.phase.rank ≤ (state.after settings moves).coordinator.phase.rank := by
  have hbetween := (h.after moves).between hlater
  cases hphase : state.coordinator.phase with
  | starting => exact Nat.zero_le _
  | running =>
    have hbefore : state.coordinator.phase ≠ .starting := by
      rw [hphase]
      exact Phase.noConfusion
    have hstarted := Interplay.after_started hbefore settings moves
    cases hnext : (state.after settings moves).coordinator.phase with
    | starting => exact absurd hnext hstarted
    | _ => exact Nat.le_of_ble_eq_true rfl
  | stopping => exact absurd hphase (h.between hidle)
  | stopped =>
    obtain ⟨hspent, -⟩ := (h.retires.stopped hphase).after settings moves
    rcases hspent.relinquished.phase with hstopping | hstopped
    · exact absurd hstopping hbetween
    · rw [hstopped]

end Lives

/-! ### Companies -/

/-- The coordinator, all the listeners that were started, each with its source, and what they
share. -/
structure Company (σ : Type) where
  coordinator : Coordinator
  /-- The listeners in the order in which they were started. -/
  listeners : List (σ × Listener)
  handoff : Handoff

/-- What may happen next. -/
inductive Occasion (σ : Type)
  /-- The coordinator is started over a source, and the listener thread starts. -/
  | start (source : σ) (now : Instant)
  /-- A run begins. -/
  | run
  /-- Somebody else cancels the run. -/
  | cancel
  /-- The coordinator acts. -/
  | coordinator (now : Instant)
  /-- A listener acts, with what its source replies if it is asked. -/
  | listener (index : Nat) (now : Instant) (reply : Reply)

/-- Whether the coordinator acts. -/
def Occasion.isCoordinator {σ : Type} : Occasion σ → Bool
  | .coordinator _ => true
  | _ => false

section Companies

variable {σ : Type}

/-- A coordinator before its start. -/
def Company.new (coordinator : Coordinator) : Company σ := ⟨coordinator, [], .new⟩

/-- The listener that was started last. -/
def Company.latest (company : Company σ) : Option Listener :=
  company.listeners.getLast?.map Prod.snd

/-- What a start is answered. -/
def Company.answer (settings : Settings) (company : Company σ) (now : Instant) :
    Except ViewerError Unit :=
  (company.coordinator.start settings (.ok ()) now).1

/-- The source that a start is given, if it succeeds. -/
def Company.accepted (settings : Settings) (company : Company σ) : Occasion σ → List σ
  | .start source now =>
    if company.coordinator.task = .idle then
      match company.answer settings now with
      | .ok () => [source]
      | .error _ => []
    else []
  | _ => []

/-- The source over which a listener acts. It is connected, polled and closed on no other
occasion. -/
def Company.served (company : Company σ) : Occasion σ → List σ
  | .listener index _ _ => (company.listeners[index]?.map Prod.fst).toList
  | _ => []

/-- The company after an occasion. A coordinator is started and run only between runs. -/
def Company.step (settings : Settings) (company : Company σ) : Occasion σ → Company σ
  | .start source now =>
    if company.coordinator.task = .idle then
      { company with
        coordinator := (company.coordinator.start settings (.ok ()) now).2
        listeners := company.listeners ++
          (company.accepted settings (.start source now)).map (·, .start) }
    else company
  | .run =>
    if company.coordinator.task = .idle then
      { company with coordinator := company.coordinator.beginRun }
    else company
  | .cancel => { company with handoff := company.handoff.cancel }
  | .coordinator now =>
    let (coordinator, handoff) :=
      company.coordinator.act settings company.handoff company.latest now
    { company with coordinator := coordinator, handoff := handoff }
  | .listener index now reply =>
    match company.listeners[index]? with
    | some (source, listener) =>
      let (listener, handoff) := listener.act settings.listener company.handoff now reply
      { company with
        listeners := company.listeners.set index (source, listener)
        handoff := handoff }
    | none => company

/-- The company after occasions. -/
def Company.after (settings : Settings) (company : Company σ) (occasions : List (Occasion σ)) :
    Company σ :=
  occasions.foldl (Company.step settings) company

/-- All that is observed on occasions, one after the other. -/
def Company.gather {α : Type} (settings : Settings) (observe : Company σ → Occasion σ → List α)
    (company : Company σ) : List (Occasion σ) → List α
  | [] => []
  | occasion :: rest =>
    observe company occasion ++
      Company.gather settings observe (company.step settings occasion) rest

@[simp]
theorem Company.after_append (settings : Settings) (company : Company σ)
    (first second : List (Occasion σ)) :
    company.after settings (first ++ second) =
      (company.after settings first).after settings second :=
  List.foldl_append

/-! ### Companies and the two sides -/

/-- The coordinator and the listener that was started last. -/
def Company.interplay (company : Company σ) : Interplay :=
  ⟨company.coordinator, company.latest, company.handoff⟩

/-- The moves of an occasion, where there is one listener at most. -/
def Occasion.moves : Occasion σ → List Move
  | .start _ now => [.start (.ok ()) now]
  | .run => [.run]
  | .cancel => [.cancel]
  | .coordinator now => [.coordinator now]
  | .listener 0 now reply => [.listener now reply]
  | .listener (_ + 1) _ _ => []

variable {settings : Settings} {company : Company σ}

theorem Occasion.countP_moves (occasions : List (Occasion σ)) :
    (occasions.flatMap Occasion.moves).countP Move.isCoordinator =
      occasions.countP Occasion.isCoordinator := by
  induction occasions with
  | nil => rfl
  | cons occasion rest ih =>
    have hone : occasion.moves.countP Move.isCoordinator =
        [occasion].countP Occasion.isCoordinator := by
      cases occasion with
      | listener index now reply => cases index <;> rfl
      | _ => rfl
    rw [List.flatMap_cons, List.countP_append, ih, hone, ← List.countP_append]
    rfl

theorem Occasion.run_mem_moves {occasion : Occasion σ} (hrun : .run ∈ occasion.moves) :
    occasion = .run := by
  cases occasion with
  | run => rfl
  | listener index now reply => cases index <;> simp [Occasion.moves] at hrun
  | _ => simp [Occasion.moves] at hrun

/-- A start is accepted by a coordinator that was not started, or it is refused. -/
theorem Company.start_cases (settings : Settings) (company : Company σ) (source : σ)
    (now : Instant) :
    (∃ next, company.step settings (.start source now) =
        ⟨next, company.listeners ++ [(source, .start)], company.handoff⟩ ∧
      company.accepted settings (.start source now) = [source] ∧
      company.coordinator.spareSender = true ∧ next.spareSender = false ∧
      company.interplay.step settings (.start (.ok ()) now) =
        ⟨next, some .start, company.handoff⟩) ∨
    (company.step settings (.start source now) = company ∧
      company.accepted settings (.start source now) = [] ∧
      company.interplay.step settings (.start (.ok ()) now) = company.interplay) := by
  unfold Company.step Company.accepted Company.answer Interplay.step Company.interplay
  dsimp only
  by_cases hidle : company.coordinator.task = .idle
  · rw [if_pos hidle, if_pos hidle, if_pos hidle]
    rcases company.coordinator.start_cases settings now with
      ⟨next, hstart, hspare, hgone⟩ | hrefused
    · rw [hstart]
      exact Or.inl ⟨next, rfl, rfl, hspare, hgone, rfl⟩
    · rw [hrefused]
      dsimp only
      rw [List.map_nil, List.append_nil]
      exact Or.inr ⟨rfl, rfl, rfl⟩
  · rw [if_neg hidle, if_neg hidle, if_neg hidle]
    exact Or.inr ⟨rfl, rfl, rfl⟩

/-- With one listener at most, a company is an interplay. -/
theorem Company.interplay_step (hsole : company.listeners.length ≤ 1) (occasion : Occasion σ) :
    (company.step settings occasion).interplay =
      company.interplay.after settings occasion.moves := by
  cases occasion with
  | start source now =>
    change _ = company.interplay.step settings (.start (.ok ()) now)
    rcases company.start_cases settings source now with
      ⟨next, hstep, -, -, -, hinterplay⟩ | ⟨hstep, -, hinterplay⟩
    · rw [hstep, hinterplay]
      unfold Company.interplay Company.latest
      dsimp only
      rw [List.getLast?_concat]
      rfl
    · rw [hstep, hinterplay]
  | run =>
    change (company.step settings .run).interplay = company.interplay.step settings .run
    unfold Company.step Interplay.step
    by_cases hidle : company.coordinator.task = .idle
    · rw [if_pos hidle, if_pos (show company.interplay.coordinator.task = .idle from hidle)]
      rfl
    · rw [if_neg hidle, if_neg (show ¬ company.interplay.coordinator.task = .idle from hidle)]
  | cancel => rfl
  | coordinator now => rfl
  | listener index now reply =>
    -- the only listener is also the one that was started last
    obtain ⟨coordinator, listeners, handoff⟩ := company
    match listeners, hsole with
    | [], _ => cases index <;> rfl
    | [(source, listener)], _ => cases index <;> rfl

/-- The listeners are those of the starts that succeeded, in order. -/
theorem Company.step_sources (settings : Settings) (company : Company σ) (occasion : Occasion σ) :
    (company.step settings occasion).listeners.map Prod.fst =
      company.listeners.map Prod.fst ++ company.accepted settings occasion := by
  cases occasion with
  | start source now =>
    rcases company.start_cases settings source now with
      ⟨next, hstep, haccepted, -⟩ | ⟨hstep, haccepted, -⟩
    · rw [hstep, haccepted, List.map_append]
      rfl
    · rw [hstep, haccepted, List.append_nil]
  | run =>
    unfold Company.step Company.accepted
    dsimp only
    rw [List.append_nil]
    split_ifs <;> rfl
  | cancel => exact (List.append_nil _).symm
  | coordinator now => exact (List.append_nil _).symm
  | listener index now reply =>
    unfold Company.step Company.accepted
    dsimp only
    rw [List.append_nil]
    cases hlistener : company.listeners[index]? with
    | none => rfl
    | some pair =>
      have hsource : (company.listeners.map Prod.fst)[index]? = some pair.1 := by
        rw [List.getElem?_map, hlistener]
        rfl
      obtain ⟨hindex, hget⟩ := List.getElem?_eq_some_iff.mp hsource
      dsimp only
      rw [List.map_set, ← hget]
      exact List.set_getElem_self hindex

/-- The spare sender goes with a start that succeeds, and stays otherwise. -/
theorem Company.step_sender (settings : Settings) (company : Company σ) (occasion : Occasion σ) :
    (company.accepted settings occasion = [] ∧
      (company.step settings occasion).coordinator.spareSender =
        company.coordinator.spareSender) ∨
    ∃ source, company.accepted settings occasion = [source] ∧
      company.coordinator.spareSender = true ∧
      (company.step settings occasion).coordinator.spareSender = false := by
  cases occasion with
  | start source now =>
    rcases company.start_cases settings source now with
      ⟨next, hstep, haccepted, hspare, hgone, -⟩ | ⟨hstep, haccepted, -⟩
    · rw [hstep]
      exact Or.inr ⟨source, haccepted, hspare, hgone⟩
    · rw [hstep]
      exact Or.inl ⟨haccepted, rfl⟩
  | run =>
    refine Or.inl ⟨rfl, ?_⟩
    unfold Company.step
    dsimp only
    split_ifs <;> rfl
  | cancel => exact Or.inl ⟨rfl, rfl⟩
  | coordinator now =>
    exact Or.inl ⟨rfl, company.coordinator.act_spareSender settings company.handoff company.latest
      now⟩
  | listener index now reply =>
    refine Or.inl ⟨rfl, ?_⟩
    unfold Company.step
    dsimp only
    split <;> rfl

/-! ### What holds at any time -/

/-- What holds of a company in which the starts over these sources succeeded: it has one listener at
most, which has the sender. -/
structure Company.Lives (company : Company σ) (outlet : Outlet) (settings : Settings)
    (accepted : List σ) : Prop where
  interplay : company.interplay.Lives outlet settings
  sources : company.listeners.map Prod.fst = accepted
  sender : (accepted = [] ∧ company.coordinator.spareSender = true) ∨
    ((∃ source, accepted = [source]) ∧ company.coordinator.spareSender = false)

variable {outlet : Outlet} {accepted : List σ}

theorem Company.lives_new (outlet : Outlet) (settings : Settings) (surface : Option Bool) :
    (Company.new (.fresh outlet settings surface) : Company σ).Lives outlet settings [] := by
  have hinterplay := Interplay.lives_new outlet settings surface
  cases surface <;> exact ⟨hinterplay, rfl, Or.inl ⟨rfl, rfl⟩⟩

theorem Company.Lives.length_le (h : company.Lives outlet settings accepted) :
    accepted.length ≤ 1 := by
  rcases h.sender with ⟨rfl, -⟩ | ⟨⟨source, rfl⟩, -⟩
  · exact Nat.zero_le 1
  · exact Nat.le_refl 1

theorem Company.Lives.eq_singleton (h : company.Lives outlet settings accepted) {source : σ}
    (hmem : source ∈ accepted) : accepted = [source] := by
  rcases h.sender with ⟨rfl, -⟩ | ⟨⟨other, rfl⟩, -⟩
  · cases hmem
  · rw [List.mem_singleton.mp hmem]

theorem Company.Lives.sole (h : company.Lives outlet settings accepted) :
    company.listeners.length ≤ 1 := by
  rw [← List.length_map Prod.fst, h.sources]
  exact h.length_le

theorem Company.Lives.step (h : company.Lives outlet settings accepted) (occasion : Occasion σ) :
    (company.step settings occasion).Lives outlet settings
      (accepted ++ company.accepted settings occasion) := by
  refine ⟨?_, ?_, ?_⟩
  · rw [Company.interplay_step h.sole]
    exact h.interplay.after occasion.moves
  · rw [company.step_sources settings occasion, h.sources]
  · rcases company.step_sender settings occasion with ⟨hnone, hsame⟩ | ⟨source, hone, hspare, hgone⟩
    · rw [hnone, hsame, List.append_nil]
      exact h.sender
    · rcases h.sender with ⟨rfl, -⟩ | ⟨-, hbefore⟩
      · exact Or.inr ⟨⟨source, hone⟩, hgone⟩
      · exact Bool.noConfusion (hbefore.symm.trans hspare)

/-- A listener acts over the source that it was started with. -/
theorem Company.Lives.served (h : company.Lives outlet settings accepted) {occasion : Occasion σ}
    {source : σ} (hmem : source ∈ company.served occasion) : source ∈ accepted := by
  cases occasion with
  | listener index now reply =>
    unfold Company.served at hmem
    rw [Option.mem_toList, ← List.getElem?_map, h.sources] at hmem
    exact List.mem_of_getElem? hmem
  | _ => cases hmem

theorem Company.Lives.after (h : company.Lives outlet settings accepted)
    (occasions : List (Occasion σ)) :
    (company.after settings occasions).Lives outlet settings
        (accepted ++ Company.gather settings (Company.accepted settings) company occasions) ∧
      (company.after settings occasions).interplay =
        company.interplay.after settings (occasions.flatMap Occasion.moves) ∧
      ∀ source ∈ Company.gather settings Company.served company occasions,
        source ∈ accepted ++
          Company.gather settings (Company.accepted settings) company occasions := by
  induction occasions generalizing company accepted with
  | nil =>
    refine ⟨?_, rfl, fun source hmem ↦ absurd hmem List.not_mem_nil⟩
    unfold Company.gather
    rw [List.append_nil]
    exact h
  | cons occasion rest ih =>
    obtain ⟨hlives, hinterplay, hserved⟩ := ih (h.step occasion)
    rw [Company.gather, ← List.append_assoc]
    refine ⟨hlives, ?_, ?_⟩
    · rw [List.flatMap_cons, Interplay.after_append, ← Company.interplay_step h.sole]
      exact hinterplay
    · intro source hmem
      rw [Company.gather, List.mem_append] at hmem
      rcases hmem with hfirst | hlater
      · exact List.mem_append_left _ (List.mem_append_left _ (h.served hfirst))
      · exact hserved source hlater

/-- Without a successful start there is no listener. -/
theorem Company.Lives.listener_eq_none (h : company.Lives outlet settings []) :
    company.interplay.listener = none := by
  have hempty : company.listeners = [] := List.map_eq_nil_iff.mp h.sources
  unfold Company.interplay Company.latest
  rw [hempty]
  rfl

/-- The sender is spare as long as there is no listener. -/
theorem Company.Lives.spareSender_iff (h : company.Lives outlet settings accepted) :
    company.coordinator.spareSender = true ↔ company.listeners = [] := by
  rw [← List.map_eq_nil_iff, h.sources]
  rcases h.sender with ⟨hnone, hspare⟩ | ⟨⟨source, hone⟩, hgone⟩
  · exact iff_of_true hspare hnone
  · rw [hone, hgone]
    exact iff_of_false Bool.false_ne_true (List.cons_ne_nil source [])

/-- While the coordinator is running the listener has the sender. -/
theorem Company.Lives.running (h : company.Lives outlet settings accepted)
    (hrunning : company.coordinator.phase = .running) :
    company.coordinator.spareSender = false := by
  rcases h.sender with ⟨rfl, -⟩ | ⟨-, hgone⟩
  · exact absurd hrunning (h.interplay.unstarted h.listener_eq_none).phase
  · exact hgone

/-- A start that is refused changes nothing. -/
theorem Company.step_refused {source : σ} {now : Instant}
    (hrefused : company.answer settings now = .error .alreadyStarted) :
    company.step settings (.start source now) = company := by
  rcases company.start_cases settings source now with
    ⟨next, -, haccepted, -⟩ | ⟨hstep, -⟩
  · unfold Company.accepted at haccepted
    dsimp only at haccepted
    rw [hrefused] at haccepted
    split_ifs at haccepted
  · exact hstep

/-- A run that comes before any successful start draws nothing, keeps every start from succeeding
and is over after three actions of the coordinator. -/
theorem Company.Lives.run_first (h : company.Lives outlet settings [])
    (rest : List (Occasion σ)) :
    let late := (company.step settings .run).after settings rest
    late.coordinator.renderer = .new outlet settings.refreshPerSecond ∧
      Company.gather settings (Company.accepted settings) (company.step settings .run) rest = [] ∧
      (late.coordinator.task = .idle → late.coordinator.outcome = some .interrupted ∧
        ∀ now, late.answer settings now = .error .alreadyStarted) ∧
      (.run ∉ rest → 3 ≤ rest.countP Occasion.isCoordinator → late.coordinator.task = .idle) := by
  intro late
  have hrun : (company.step settings .run).Lives outlet settings [] := h.step .run
  have hfirst : (company.step settings .run).interplay = company.interplay.step settings .run :=
    Company.interplay_step h.sole .run
  have hbegun : (company.step settings .run).interplay.Begun := by
    rw [hfirst]
    exact company.interplay.begun_run settings
  have hbarren := hrun.interplay.unstarted hrun.listener_eq_none
  obtain ⟨hlives, hinterplay, -⟩ := hrun.after rest
  obtain ⟨hlate, hnever, hleft⟩ := hbarren.after hbegun (rest.flatMap Occasion.moves)
  rw [← hinterplay] at hlate hnever hleft
  refine ⟨hlate.renderer, ?_, ?_, ?_⟩
  · rw [← List.nil_append (Company.gather _ _ _ rest), ← hlives.sources]
    have hnone := hlate.listener
    unfold Company.interplay Company.latest at hnone
    rw [Option.map_eq_none_iff, List.getLast?_eq_none_iff] at hnone
    rw [hnone]
    rfl
  · intro hidle
    have hstarted : late.coordinator.phase ≠ .starting := hnever hidle
    refine ⟨?_, fun now ↦ ?_⟩
    · have htask := hlate.task
      rw [show late.interplay.coordinator.task = .idle from hidle] at htask
      refine htask ?_
      cases hphase : late.coordinator.phase with
      | starting => exact absurd hphase hstarted
      | running => exact absurd hphase hlate.phase
      | stopping => exact absurd hphase (hlives.interplay.between hidle)
      | stopped => exact hphase
    · unfold Company.answer
      rw [Coordinator.start_refused hstarted]
  · intro hrest hcount
    have hmoves : Move.run ∉ rest.flatMap Occasion.moves := by
      intro hmem
      obtain ⟨occasion, hoccasion, hmove⟩ := List.mem_flatMap.mp hmem
      rw [Occasion.run_mem_moves hmove] at hoccasion
      exact hrest hoccasion
    have hbound := (company.step settings .run).coordinator.actionsLeft_le
    have hreached := hleft hmoves
    rw [Occasion.countP_moves] at hreached
    change _ ≤ (company.step settings .run).coordinator.actionsLeft - _ at hreached
    exact hlate.idle (by omega)

/-- Assumes: starts over any sources whose listener threads start, runs and cancellations from
outside, in any order, with whatever the coordinator and the listeners do meanwhile. One start at
most succeeds, its source alone is ever served, and its listener is the only one that ever has a
sender. Between runs the phase goes forward only, and it is never that of stopping. A start that is
refused because of an earlier one changes nothing. A coordinator that is running holds on to its
listener, has no sender to spare, and its renderer has gone on from the initial board, drawn; before
the run it has drawn only that. One that has stopped has cancelled the run and released the surface.
And where a run begins before any start succeeded, nothing is drawn, then or later, no start
succeeds any more, and once the coordinator has acted three times the run has ended. Whenever no run
is going on after that the outcome is that of an interrupted run and a start is refused. -/
theorem Company.one_life (settings : Settings) (outlet : Outlet) (surface : Option Bool)
    (before rest : List (Occasion σ)) :
    let origin : Company σ := .new (.fresh outlet settings surface)
    let state := origin.after settings before
    let final := origin.after settings (before ++ rest)
    let accepted := Company.gather settings (Company.accepted settings) origin
    let served := Company.gather settings Company.served origin
    (accepted (before ++ rest)).length ≤ 1 ∧
    (∀ source ∈ served (before ++ rest), accepted (before ++ rest) = [source]) ∧
    final.listeners.map Prod.fst = accepted (before ++ rest) ∧
    (final.coordinator.spareSender = true ↔ final.listeners = []) ∧
    (final.coordinator.task = .idle → final.coordinator.phase ≠ .stopping ∧
      (state.coordinator.task = .idle →
        state.coordinator.phase.rank ≤ final.coordinator.phase.rank)) ∧
    (∀ source now, final.answer settings now = .error .alreadyStarted →
      final.step settings (.start source now) = final) ∧
    (final.coordinator.phase = .running →
      final.coordinator.holdsListener = true ∧ final.coordinator.spareSender = false ∧
      ∃ now calls, final.coordinator.renderer = (opening outlet settings now).callAll calls ∧
        (final.coordinator.task = .idle → calls = [])) ∧
    (final.coordinator.phase = .stopped →
      final.handoff.cancelled = true ∧ final.coordinator.surface = none) ∧
    (accepted before = [] →
      let late := (state.step settings .run).after settings rest
      late.coordinator.renderer = .new outlet settings.refreshPerSecond ∧
      Company.gather settings (Company.accepted settings) (state.step settings .run) rest = [] ∧
      (late.coordinator.task = .idle → late.coordinator.outcome = some .interrupted ∧
        ∀ now, late.answer settings now = .error .alreadyStarted) ∧
      (.run ∉ rest → 3 ≤ rest.countP Occasion.isCoordinator →
        late.coordinator.task = .idle)) := by
  intro origin state final accepted served
  have horigin : origin.Lives outlet settings [] := Company.lives_new outlet settings surface
  obtain ⟨hstate, -⟩ := horigin.after before
  obtain ⟨hfinal, -, hserved⟩ := horigin.after (before ++ rest)
  obtain ⟨-, hinterplay, -⟩ := hstate.after rest
  rw [← Company.after_append] at hinterplay
  refine ⟨hfinal.length_le, fun source hmem ↦ hfinal.eq_singleton (hserved source hmem),
    hfinal.sources, hfinal.spareSender_iff, ?_, ?_, ?_, ?_, ?_⟩
  · intro hidle
    refine ⟨hfinal.interplay.between hidle, fun hbefore ↦ ?_⟩
    have hrank := hstate.interplay.rank_le (rest.flatMap Occasion.moves) hbefore
    rw [← hinterplay] at hrank
    exact hrank hidle
  · exact fun source now ↦ Company.step_refused
  · intro hrunning
    obtain ⟨hholds, hopened⟩ := hfinal.interplay.running hrunning
    exact ⟨hholds, hfinal.running hrunning, hopened⟩
  · intro hstopped
    have hspent := hfinal.interplay.retires.stopped hstopped
    exact ⟨hspent.cancelled, hspent.relinquished.surface⟩
  · intro hnone
    have hbarren : state.Lives outlet settings [] := by
      have hsame : ([] ++ accepted before : List σ) = [] := hnone
      rw [← hsame]
      exact hstate
    exact hbarren.run_first rest

end Companies

/-- The second of two starts is refused, and so is one after a run. -/
theorem Company.one_life_refused :
    let new : Company Nat := .new (.fresh .unlimited .standard none)
    let started := new.after .standard [.start 1 0, .start 2 0]
    let stopped := (new.step .standard .run).after .standard
      [.coordinator 0, .coordinator 0, .coordinator 0]
    (started.listeners.map Prod.fst = [1] ∧ started.coordinator.holdsListener = true) ∧
    stopped.coordinator.outcome = some .interrupted ∧
      stopped.answer .standard 0 = .error .alreadyStarted := by
  intro new started stopped
  constructor
  · have hrunning : started.coordinator.phase = .running := by decide +kernel
    obtain ⟨-, -, hsources, -, -, -, hholds, -⟩ :=
      Company.one_life .standard .unlimited none [.start 1 0] [.start 2 0]
    exact ⟨hsources, (hholds hrunning).1⟩
  · obtain ⟨-, -, -, -, -, -, -, -, hfirst⟩ := Company.one_life .standard .unlimited none
      ([] : List (Occasion Nat)) [.coordinator 0, .coordinator 0, .coordinator 0]
    obtain ⟨-, -, houtcome, hidle⟩ := hfirst rfl
    have hover : stopped.coordinator.task = .idle := hidle (by simp) (by decide)
    exact ⟨(houtcome hover).1, (houtcome hover).2 0⟩

end LiveBoard.Viewer
