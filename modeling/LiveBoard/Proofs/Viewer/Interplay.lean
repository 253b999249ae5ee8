import LiveBoard.Proofs.Feed.ListenerActions
import LiveBoard.Proofs.Viewer.CoordinatorTransitions

/-!
# The two sides together

`Interplay` is the coordinator and the listener with what they share. A `Move` is one action of
either side, with the time and the reply of the source, a cancellation by anybody else, or the
start of the coordinator or of a run. A list of moves is thus one interleaving of the two sides
over one source and one clock, and all of them are lists of moves. `Interplay.after` is the state
that moves lead to, and `Interplay.gather` collects what can be observed on the way: the results
that polls return, the messages that are put into the queue and those that are taken off it.

What a move can do is said once (`step_cases`): the coordinator acts, the listener acts, or the
messages stay where they are (`Interplay.Rests`); and so is what becomes of the coordinator
(`coordinator_cases`). No message is lost, doubled or overtaken on the way (`step_conserves`,
`gather_conserves`).
-/

set_option autoImplicit false
set_option relaxedAutoImplicit false

namespace LiveBoard.Viewer

open Feed

/-- The coordinator, the listener once it was started, and what they share. -/
structure Interplay where
  coordinator : Coordinator
  listener : Option Listener
  handoff : Handoff

/-- What may happen next. -/
inductive Move
  /-- The coordinator is started, and the listener starts or fails to for some reason. -/
  | start (spawning : Except String Unit) (now : Instant)
  /-- A run begins. -/
  | run
  /-- The coordinator acts. -/
  | coordinator (now : Instant)
  /-- The listener acts, with what the source replies if it is asked. -/
  | listener (now : Instant) (reply : Reply)
  /-- Somebody else cancels the run. -/
  | cancel

/-- Whether a run begins. -/
def Move.isRun : Move → Bool
  | .run => true
  | _ => false

/-- A coordinator before its start, with a terminal surface that was entered or without one. -/
def Coordinator.fresh (outlet : Display.Outlet) (settings : Settings) (surface : Option Bool) :
    Coordinator :=
  match surface with
  | some alternate => (Coordinator.new outlet settings).withSurface alternate
  | none => .new outlet settings

/-- A coordinator before its start. -/
def Interplay.new (coordinator : Coordinator) : Interplay := ⟨coordinator, none, .new⟩

/-- The state after a move. A coordinator is started and run only between runs. -/
def Interplay.step (settings : Settings) (state : Interplay) : Move → Interplay
  | .start spawning now =>
    if state.coordinator.task = .idle then
      let (result, coordinator) := state.coordinator.start settings spawning now
      let listener := match result with
        | .ok () => some .start
        | .error _ => state.listener
      { state with coordinator := coordinator, listener := listener }
    else state
  | .run =>
    if state.coordinator.task = .idle then
      { state with coordinator := state.coordinator.beginRun }
    else state
  | .coordinator now =>
    let (coordinator, handoff) :=
      state.coordinator.act settings state.handoff state.listener now
    { state with coordinator := coordinator, handoff := handoff }
  | .listener now reply =>
    match state.listener with
    | some listener =>
      let (listener, handoff) := listener.act settings.listener state.handoff now reply
      { state with listener := some listener, handoff := handoff }
    | none => state
  | .cancel => { state with handoff := state.handoff.cancel }

/-- The state after moves. -/
def Interplay.after (settings : Settings) (state : Interplay) (moves : List Move) : Interplay :=
  moves.foldl (Interplay.step settings) state

/-! ### What can be observed -/

/-- The results that polls return in a move. -/
def Interplay.returned (state : Interplay) : Move → List PollResult
  | .listener _ reply =>
    match state.listener with
    | some listener => listener.returned reply
    | none => []
  | _ => []

/-- The messages that are put into the queue in a move. -/
def Interplay.enqueued (state : Interplay) : Move → List Payload
  | .listener .. =>
    match state.listener with
    | some listener => listener.enqueued state.handoff
    | none => []
  | _ => []

/-- The messages that the coordinator handles in a move. -/
def Interplay.handled (state : Interplay) : Move → List Payload
  | .coordinator _ => state.coordinator.taken state.handoff
  | _ => []

/-- The message that was polled and is not yet sent. -/
def Interplay.held (state : Interplay) : List Payload :=
  match state.listener with
  | some listener => listener.held
  | none => []

/-- All that is observed in moves, one after the other. -/
def Interplay.gather {α : Type} (settings : Settings) (observe : Interplay → Move → List α)
    (state : Interplay) : List Move → List α
  | [] => []
  | move :: rest =>
    observe state move ++ Interplay.gather settings observe (state.step settings move) rest

@[simp]
theorem Interplay.after_append (settings : Settings) (state : Interplay)
    (first second : List Move) :
    state.after settings (first ++ second) = (state.after settings first).after settings second :=
  List.foldl_append

@[simp]
theorem Interplay.gather_append {α : Type} (settings : Settings)
    (observe : Interplay → Move → List α) (state : Interplay) (first second : List Move) :
    Interplay.gather settings observe state (first ++ second) =
      Interplay.gather settings observe state first ++
        Interplay.gather settings observe (state.after settings first) second := by
  induction first generalizing state with
  | nil => rfl
  | cons move rest ih =>
    change observe state move ++ Interplay.gather settings observe _ (rest ++ second) = _
    rw [ih, ← List.append_assoc]
    rfl

@[simp]
theorem Interplay.gather_singleton {α : Type} (settings : Settings)
    (observe : Interplay → Move → List α) (state : Interplay) (move : Move) :
    Interplay.gather settings observe state [move] = observe state move :=
  List.append_nil _

/-! ### What a move can do -/

@[simp]
theorem Interplay.step_act (settings : Settings) (state : Interplay) (now : Instant) :
    state.step settings (.coordinator now) =
      { state with
        coordinator :=
          (state.coordinator.act settings state.handoff state.listener now).1
        handoff := (state.coordinator.act settings state.handoff state.listener now).2 } :=
  rfl

@[simp]
theorem Interplay.step_start_of_busy (settings : Settings) {state : Interplay}
    (hbusy : state.coordinator.task ≠ .idle) (spawning : Except String Unit) (now : Instant) :
    state.step settings (.start spawning now) = state :=
  if_neg hbusy

@[simp]
theorem Interplay.step_run_of_idle (settings : Settings) {state : Interplay}
    (hidle : state.coordinator.task = .idle) :
    state.step settings .run = { state with coordinator := state.coordinator.beginRun } :=
  if_pos hidle

@[simp]
theorem Interplay.step_run_of_busy (settings : Settings) {state : Interplay}
    (hbusy : state.coordinator.task ≠ .idle) : state.step settings .run = state :=
  if_neg hbusy

/-- A start either succeeds, on a coordinator that was not started, or changes nothing but the spare
sender. -/
theorem Interplay.step_start (settings : Settings) (state : Interplay)
    (spawning : Except String Unit) (now : Instant) :
    (∃ started,
      state.step settings (.start spawning now) = ⟨started, some .start, state.handoff⟩ ∧
      state.coordinator.phase = .starting ∧ state.coordinator.task = .idle ∧
      started.phase = .running ∧ started.task = .idle ∧
      started.board = state.coordinator.board ∧
      started.renderer = (state.coordinator.renderer.update state.coordinator.board.view
        now).flushNow now) ∨
    ∃ spare, state.step settings (.start spawning now) =
      { state with coordinator := { state.coordinator with spareSender := spare } } := by
  by_cases hidle : state.coordinator.task = .idle
  · unfold Interplay.step
    dsimp only
    rw [if_pos hidle]
    unfold Coordinator.start
    by_cases hstarted :
        (state.coordinator.phase ≠ .starting || !state.coordinator.spareSender) = true
    · rw [if_pos hstarted]
      exact Or.inr ⟨state.coordinator.spareSender, rfl⟩
    · rw [if_neg hstarted]
      cases spawning with
      | error reason => exact Or.inr ⟨false, rfl⟩
      | ok _ =>
        have hphase : state.coordinator.phase = .starting := by
          by_contra hother
          exact hstarted (by simp [hother])
        exact Or.inl ⟨_, rfl, hphase, hidle, rfl, hidle, rfl, rfl⟩
  · rw [Interplay.step_start_of_busy settings hidle]
    exact Or.inr ⟨state.coordinator.spareSender, rfl⟩

theorem Interplay.step_run (settings : Settings) (state : Interplay) :
    (state.coordinator.task = .idle ∧
      state.step settings .run = { state with coordinator := state.coordinator.beginRun }) ∨
    state.step settings .run = state := by
  by_cases hidle : state.coordinator.task = .idle
  · exact Or.inl ⟨hidle, Interplay.step_run_of_idle settings hidle⟩
  · exact Or.inr (Interplay.step_run_of_busy settings hidle)

theorem Interplay.step_listener (settings : Settings) (state : Interplay) (now : Instant)
    (reply : Reply) :
    (∃ listener, state.listener = some listener ∧
      state.step settings (.listener now reply) =
        ⟨state.coordinator, some (listener.act settings.listener state.handoff now reply).1,
          (listener.act settings.listener state.handoff now reply).2⟩) ∨
    (state.listener = none ∧ state.step settings (.listener now reply) = state) := by
  unfold Interplay.step
  cases hlistener : state.listener with
  | some listener => exact Or.inl ⟨listener, rfl, rfl⟩
  | none => exact Or.inr ⟨rfl, rfl⟩

/-- In a run only the coordinator changes what it does. -/
theorem Interplay.coordinator_step (settings : Settings) {state : Interplay} {move : Move}
    (hmove : ∀ now, move ≠ .coordinator now) (hbusy : state.coordinator.task ≠ .idle) :
    (state.step settings move).coordinator = state.coordinator := by
  cases move with
  | start spawning now => rw [Interplay.step_start_of_busy settings hbusy]
  | run => rw [Interplay.step_run_of_busy settings hbusy]
  | coordinator now => exact absurd rfl (hmove now)
  | listener now reply =>
    rcases state.step_listener settings now reply with ⟨listener, -, hstep⟩ | ⟨-, hstep⟩ <;>
      rw [hstep]
  | cancel => rfl

/-- The coordinator acts in a move, is started, begins a run, or stays as it is but for the spare
sender. -/
theorem Interplay.coordinator_cases (settings : Settings) (state : Interplay) (move : Move) :
    (∃ now, move = .coordinator now ∧ (state.step settings move).coordinator =
      (state.coordinator.act settings state.handoff state.listener now).1) ∨
    (∃ spawning now, move = .start spawning now ∧ state.coordinator.phase = .starting ∧
      state.coordinator.task = .idle ∧
      (state.step settings move).coordinator.phase = .running ∧
      (state.step settings move).coordinator.task = .idle ∧
      (state.step settings move).coordinator.renderer =
        (state.coordinator.renderer.update state.coordinator.board.view now).flushNow now) ∨
    (move = .run ∧ state.coordinator.task = .idle ∧
      (state.step settings move).coordinator = state.coordinator.beginRun) ∨
    ∃ spare, (state.step settings move).coordinator =
      { state.coordinator with spareSender := spare } := by
  have hsame : state.coordinator =
      { state.coordinator with spareSender := state.coordinator.spareSender } := rfl
  cases move with
  | coordinator now => exact Or.inl ⟨now, rfl, rfl⟩
  | start spawning now =>
    rcases state.step_start settings spawning now with
      ⟨started, hstep, hstarting, hidle, hrunning, htask, -, hrenderer⟩ | ⟨spare, hstep⟩
    · rw [hstep]
      exact Or.inr (Or.inl ⟨spawning, now, rfl, hstarting, hidle, hrunning, htask, hrenderer⟩)
    · rw [hstep]
      exact Or.inr (Or.inr (Or.inr ⟨spare, rfl⟩))
  | run =>
    rcases state.step_run settings with ⟨hidle, hstep⟩ | hstep
    · rw [hstep]
      exact Or.inr (Or.inr (Or.inl ⟨rfl, hidle, rfl⟩))
    · rw [hstep]
      exact Or.inr (Or.inr (Or.inr ⟨_, hsame⟩))
  | listener now reply =>
    rcases state.step_listener settings now reply with ⟨listener, -, hstep⟩ | ⟨-, hstep⟩ <;>
    · rw [hstep]
      exact Or.inr (Or.inr (Or.inr ⟨_, hsame⟩))
  | cancel => exact Or.inr (Or.inr (Or.inr ⟨_, hsame⟩))

/-- Whether a move ends the run that is going on. -/
def Interplay.endsRun (state : Interplay) : Move → Bool
  | .coordinator _ => state.coordinator.isFinishing
  | _ => false

/-- A run is ended by an action of the coordinator, which finishes it. -/
theorem Interplay.endsRun_cases (settings : Settings) {state : Interplay} {move : Move}
    (hends : state.endsRun move = true) :
    ∃ now report, move = .coordinator now ∧ state.coordinator.task = .finishing report ∧
      (state.step settings move).coordinator = state.coordinator.finish settings report now := by
  cases move with
  | coordinator now =>
    obtain ⟨report, htask⟩ := Coordinator.isFinishing_iff.mp hends
    refine ⟨now, report, rfl, htask, ?_⟩
    rw [Interplay.step_act, Coordinator.act_finishing htask]
  | _ => cases hends

@[simp]
theorem Interplay.endsRun_of_idle {state : Interplay} (hidle : state.coordinator.task = .idle)
    (move : Move) : state.endsRun move = false := by
  cases move with
  | coordinator now =>
    unfold Interplay.endsRun Coordinator.isFinishing
    rw [hidle]
  | _ => rfl

/-- Only the end of a run touches the terminal surface. -/
theorem Interplay.step_terminal (settings : Settings) {state : Interplay} {move : Move}
    (hgoing : state.endsRun move = false) :
    (state.step settings move).coordinator.terminal = state.coordinator.terminal ∧
      (state.step settings move).coordinator.surface = state.coordinator.surface := by
  cases move with
  | coordinator now =>
    exact state.coordinator.act_terminal settings state.handoff state.listener now hgoing
  | start spawning now =>
    unfold Interplay.step Coordinator.start
    dsimp only
    split_ifs
    · exact ⟨rfl, rfl⟩
    · cases spawning <;> exact ⟨rfl, rfl⟩
    · exact ⟨rfl, rfl⟩
  | run =>
    rcases state.step_run settings with ⟨-, hstep⟩ | hstep <;> rw [hstep] <;> exact ⟨rfl, rfl⟩
  | listener now reply =>
    rcases state.step_listener settings now reply with ⟨listener, -, hstep⟩ | ⟨-, hstep⟩ <;>
      rw [hstep] <;> exact ⟨rfl, rfl⟩
  | cancel => exact ⟨rfl, rfl⟩

/-- A move in which neither side acts. It may start the listener. -/
structure Interplay.Rests (state next : Interplay) (move : Move) : Prop where
  queue : next.handoff.queue = state.handoff.queue
  receiving : next.handoff.receiving = state.handoff.receiving
  cancelled : state.handoff.cancelled = true → next.handoff.cancelled = true
  board : next.coordinator.board = state.coordinator.board
  leaving : next.coordinator.isLeaving = true → state.coordinator.isLeaving = true
  started : (next.listener = state.listener ∧
      (next.coordinator.phase = .starting → state.coordinator.phase = .starting)) ∨
    (next.listener = some .start ∧ state.coordinator.phase = .starting ∧
      next.coordinator.phase = .running)
  handled : state.handled move = []
  enqueued : state.enqueued move = []
  returned : state.returned move = []

/-- Either side acts in a move, or neither does. -/
theorem Interplay.step_cases (settings : Settings) (state : Interplay) (move : Move) :
    (∃ now, move = .coordinator now ∧
      state.step settings move =
        ⟨(state.coordinator.act settings state.handoff state.listener now).1, state.listener,
          (state.coordinator.act settings state.handoff state.listener now).2⟩) ∨
    (∃ now reply listener, move = .listener now reply ∧ state.listener = some listener ∧
      state.step settings move =
        ⟨state.coordinator, some (listener.act settings.listener state.handoff now reply).1,
          (listener.act settings.listener state.handoff now reply).2⟩) ∨
    state.Rests (state.step settings move) move := by
  cases move with
  | start spawning now =>
    refine Or.inr (Or.inr ?_)
    rcases state.step_start settings spawning now with
      ⟨started, hstep, hstarting, -, hrunning, hidle, hboard, -⟩ | ⟨spare, hstep⟩
    · have hloop : started.isLeaving = false := by
        unfold Coordinator.isLeaving
        rw [hidle]
      rw [hstep]
      exact ⟨rfl, rfl, id, hboard, fun hleaving ↦ by simp [hloop] at hleaving,
        Or.inr ⟨rfl, hstarting, hrunning⟩, rfl, rfl, rfl⟩
    · rw [hstep]
      exact ⟨rfl, rfl, id, rfl, id, Or.inl ⟨rfl, id⟩, rfl, rfl, rfl⟩
  | run =>
    refine Or.inr (Or.inr ?_)
    rcases state.step_run settings with ⟨-, hstep⟩ | hstep
    · have hloop : state.coordinator.beginRun.isLeaving = false := by
        rcases state.coordinator.beginRun_cases with hbegun | hbegun <;>
        · rw [hbegun]
          rfl
      rw [hstep]
      exact ⟨rfl, rfl, id, rfl, fun hleaving ↦ by simp [hloop] at hleaving, Or.inl ⟨rfl, id⟩,
        rfl, rfl, rfl⟩
    · rw [hstep]
      exact ⟨rfl, rfl, id, rfl, id, Or.inl ⟨rfl, id⟩, rfl, rfl, rfl⟩
  | coordinator now => exact Or.inl ⟨now, rfl, rfl⟩
  | listener now reply =>
    rcases state.step_listener settings now reply with ⟨listener, hlistener, hstep⟩ | ⟨hnone, hstep⟩
    · exact Or.inr (Or.inl ⟨now, reply, listener, rfl, hlistener, hstep⟩)
    · have henqueued : state.enqueued (.listener now reply) = [] := by
        unfold Interplay.enqueued
        rw [hnone]
      have hreturned : state.returned (.listener now reply) = [] := by
        unfold Interplay.returned
        rw [hnone]
      rw [hstep]
      exact Or.inr (Or.inr ⟨rfl, rfl, id, rfl, id, Or.inl ⟨rfl, id⟩, rfl, henqueued, hreturned⟩)
  | cancel =>
    exact Or.inr (Or.inr ⟨rfl, rfl, fun _ ↦ rfl, rfl, id, Or.inl ⟨rfl, id⟩, rfl, rfl, rfl⟩)

/-! ### Conservation -/

/-- There is no listener before the start, and the coordinator holds on to its end of the queue. -/
structure Interplay.Sane (state : Interplay) : Prop where
  unstarted : state.coordinator.phase = .starting → state.listener = none
  receiving : state.handoff.receiving = true

section Conservation

variable {state : Interplay}

theorem Interplay.Sane.step (h : state.Sane) (settings : Settings) (move : Move) :
    (state.step settings move).Sane := by
  rcases state.step_cases settings move with
    ⟨now, -, hstep⟩ | ⟨now, reply, listener, -, hlistener, hstep⟩ | hrests
  · rw [hstep]
    constructor
    · intro hstarting
      exact h.unstarted (Coordinator.phase_act hstarting)
    · exact (state.coordinator.act_receiving settings state.handoff state.listener now).trans
        h.receiving
  · rw [hstep]
    constructor
    · intro hstarting
      rw [h.unstarted hstarting] at hlistener
      cases hlistener
    · exact (listener.act_receiving settings.listener state.handoff now reply).trans h.receiving
  · constructor
    · intro hstarting
      rcases hrests.started with ⟨hsame, hbefore⟩ | ⟨-, -, hrunning⟩
      · rw [hsame]
        exact h.unstarted (hbefore hstarting)
      · rw [hrunning] at hstarting
        cases hstarting
    · exact hrests.receiving.trans h.receiving

/-- A listener that starts holds no message. -/
theorem Interplay.Sane.held_of_rests {next : Interplay} {move : Move} (h : state.Sane)
    (hrests : state.Rests next move) : next.held = state.held := by
  unfold Interplay.held
  rcases hrests.started with ⟨hsame, -⟩ | ⟨hstart, hstarting, -⟩
  · rw [hsame]
  · rw [hstart, h.unstarted hstarting]
    rfl

/-- A message is handled, waits in the queue or is held by the listener, in the order of the
polls. -/
theorem Interplay.Sane.step_conserves (h : state.Sane) (settings : Settings) (move : Move) :
    state.handled move ++ (state.step settings move).handoff.queue ++
        (state.step settings move).held =
      state.handoff.queue ++ state.held ++ payloadsOf (state.returned move) := by
  rcases state.step_cases settings move with
    ⟨now, rfl, hstep⟩ | ⟨now, reply, listener, rfl, hlistener, hstep⟩ | hrests
  · have hqueue := state.coordinator.act_queue settings state.handoff state.listener now
    rw [hstep]
    change state.coordinator.taken state.handoff ++
      (state.coordinator.act settings state.handoff state.listener now).2.queue ++ state.held = _
    rw [hqueue]
    exact (List.append_nil _).symm
  · have hqueue := listener.act_queue settings.listener state.handoff now reply
    have hheld := listener.act_conserves settings.listener state.handoff now reply h.receiving
    rw [hstep]
    unfold Interplay.held Interplay.returned
    rw [hlistener]
    change [] ++ (listener.act settings.listener state.handoff now reply).2.queue ++
      (listener.act settings.listener state.handoff now reply).1.held = _
    rw [hqueue, List.nil_append, List.append_assoc, hheld, List.append_assoc]
  · rw [hrests.handled, hrests.queue, h.held_of_rests hrests, hrests.returned, List.nil_append]
    exact (List.append_nil _).symm

/-- Conservation over one stretch of moves and then another. -/
theorem conserves_trans {handled handled' queue queue' queue'' held held' held'' polled polled' :
    List Payload} (hfirst : handled ++ queue' ++ held' = queue ++ held ++ polled)
    (hsecond : handled' ++ queue'' ++ held'' = queue' ++ held' ++ polled') :
    handled ++ handled' ++ queue'' ++ held'' = queue ++ held ++ (polled ++ polled') := by
  calc handled ++ handled' ++ queue'' ++ held''
    _ = handled ++ (handled' ++ queue'' ++ held'') := by simp only [List.append_assoc]
    _ = handled ++ queue' ++ held' ++ polled' := by rw [hsecond]; simp only [List.append_assoc]
    _ = queue ++ held ++ (polled ++ polled') := by rw [hfirst, List.append_assoc]

/-- What was handled on the way, what waits in the queue and what the listener holds is what was
there before and what polls returned since, in order. -/
theorem Interplay.Sane.gather_conserves (h : state.Sane) (settings : Settings)
    (moves : List Move) :
    Interplay.gather settings Interplay.handled state moves ++
          (state.after settings moves).handoff.queue ++ (state.after settings moves).held =
      state.handoff.queue ++ state.held ++
        payloadsOf (Interplay.gather settings Interplay.returned state moves) := by
  induction moves generalizing state with
  | nil => exact (List.append_nil _).symm
  | cons move rest ih =>
    change state.handled move ++ _ ++ _ ++ _ = _ ++ payloadsOf (state.returned move ++ _)
    rw [payloadsOf_append]
    exact conserves_trans (h.step_conserves settings move) (ih (h.step settings move))

end Conservation

end LiveBoard.Viewer
