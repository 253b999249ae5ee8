import LiveBoard.Proofs.Viewer.ListenerAccount

/-!
# The return of the listener

The listener returns when it ends (`Interplay.Returns`). From then on nothing changes it, asks its
source or sends a message. Until then the coordinator looks at the listener and at the clock in
turn. If none of these looks comes after the time that it waits (`Interplay.InTime`), it still holds
on to the listener when that returns (`Interplay.Returns.holds`): it lets go of one at work only
where it finds the time up.
-/

set_option autoImplicit false
set_option relaxedAutoImplicit false

namespace LiveBoard.Viewer

open Feed

/-- The listener returns with an exit in a move that comes after others. -/
structure Interplay.Returns (settings : Settings) (state : Interplay) (before : List Move)
    (last : Move) (exit : ListenerExit) : Prop where
  working : ∃ listener, (state.after settings before).listener = some listener ∧
    listener.isFinished = false
  ended : ∃ listener, (state.after settings (before ++ [last])).listener = some listener ∧
    listener.stage = .ended exit

/-- The wait for the listener that is going on. -/
def Task.wait? : Task → Option Join
  | .joining wait _ => some wait
  | .timing wait => some wait
  | _ => none

/-- The looks, at the listener or at the clock, that come when the time of the wait is up. -/
def Interplay.lateLooks (state : Interplay) : Move → List Instant
  | .coordinator now =>
    match state.coordinator.task.wait? with
    | some wait => if wait.isOver now then [now] else []
    | none => []
  | _ => []

/-- The coordinator looks at the listener and at the clock only while there is time left. Where the
clock does not go back, this holds up to the return of a listener within that time. -/
def Interplay.InTime (settings : Settings) (state : Interplay) (moves : List Move) : Prop :=
  Interplay.gather settings Interplay.lateLooks state moves = []

/-! ### The listener that has finished -/

section Finished

variable (settings : Settings) {state : Interplay} {listener : Listener}

theorem Interplay.step_finished (hsane : state.Sane) (hlistener : state.listener = some listener)
    (hfinished : listener.isFinished = true) (move : Move) :
    (state.step settings move).listener = some listener := by
  rcases state.step_cases settings move with
    ⟨now, -, hstep⟩ | ⟨now, reply, other, -, hother, hstep⟩ | hrests
  · rw [hstep]
    exact hlistener
  · obtain rfl : listener = other := Option.some.inj (hlistener.symm.trans hother)
    rw [hstep, Listener.act_of_isFinished settings.listener listener _ _ _ hfinished]
  · rcases hrests.started with ⟨hsame, -⟩ | ⟨-, hstarting, -⟩
    · rw [hsame, hlistener]
    · rw [hsane.unstarted hstarting] at hlistener
      cases hlistener

theorem Interplay.after_finished (hsane : state.Sane) (hlistener : state.listener = some listener)
    (hfinished : listener.isFinished = true) (moves : List Move) :
    (state.after settings moves).listener = some listener := by
  induction moves generalizing state with
  | nil => exact hlistener
  | cons move rest ih =>
    exact ih (hsane.step settings move)
      (Interplay.step_finished settings hsane hlistener hfinished move)

/-- The source of a listener that has finished is not asked any more. -/
theorem Interplay.gather_finished {α : Type} {observe : Interplay → Move → List α}
    (hsilent : ∀ state : Interplay, state.listener = some listener →
      ∀ move, observe state move = [])
    (hsane : state.Sane) (hlistener : state.listener = some listener)
    (hfinished : listener.isFinished = true) (moves : List Move) :
    Interplay.gather settings observe state moves = [] := by
  induction moves generalizing state with
  | nil => rfl
  | cons move rest ih =>
    unfold Interplay.gather
    rw [hsilent state hlistener move]
    exact ih (hsane.step settings move)
      (Interplay.step_finished settings hsane hlistener hfinished move)

theorem Interplay.connections_finished (hfinished : listener.isFinished = true)
    (hlistener : state.listener = some listener) (move : Move) : state.connections move = [] := by
  unfold Interplay.connections
  rw [hlistener]
  cases move with
  | listener now reply => exact Listener.connections_of_isFinished hfinished
  | _ => rfl

theorem Interplay.returned_finished (hfinished : listener.isFinished = true)
    (hlistener : state.listener = some listener) (move : Move) : state.returned move = [] := by
  unfold Interplay.returned
  rw [hlistener]
  cases move with
  | listener now reply => exact Listener.returned_of_isFinished hfinished
  | _ => rfl

/-- Only the coordinator takes messages from a listener that has finished. -/
theorem Interplay.queue_finished (hlistener : state.listener = some listener)
    (hfinished : listener.isFinished = true) {move : Move}
    (hmove : ∀ now, move ≠ .coordinator now) :
    (state.step settings move).handoff.queue = state.handoff.queue := by
  rcases state.step_cases settings move with
    ⟨now, rfl, -⟩ | ⟨now, reply, other, -, hother, hstep⟩ | hrests
  · exact absurd rfl (hmove now)
  · obtain rfl : listener = other := Option.some.inj (hlistener.symm.trans hother)
    rw [hstep, Listener.act_of_isFinished settings.listener listener _ _ _ hfinished]
  · exact hrests.queue

end Finished

/-! ### Holding on to the listener -/

section Transitions

variable {settings : Settings} {listener : Option Listener} {now : Instant}
  {coordinator next : Coordinator} {handoff shared : Handoff}

/-- The coordinator holds on to a listener that is at work, unless the time that it waits for it is
up. -/
theorem Coordinator.Transition.holds
    (htransition : Coordinator.Transition settings listener now coordinator handoff next shared)
    (hholds : coordinator.holdsListener = true) (hsender : senderGone listener = false)
    (hearly : ∀ wait, coordinator.task.wait? = some wait → now < wait.deadline) :
    next.holdsListener = true := by
  cases htransition with
  | stops htask _ hnext hphase hstill => exact hstill
  | stopsAlone htask hnone hnext hphase hgone =>
    rw [hnone] at hholds
    cases hholds
  | joins wait look htask hready hgone hnext hphase hlet =>
    rw [hsender] at hgone
    cases hgone
  | detaches wait htask hlate hnext hphase hlet =>
    have hwait : coordinator.task.wait? = some wait := by
      rw [htask]
      rfl
    exact absurd (hearly wait hwait) (Nat.not_lt_of_le hlate)
  | finishes report htask hnext hphase hsame houtcome => exact hsame.trans hholds
  | _ =>
    rename_i hturns
    exact hturns.holds.trans hholds

end Transitions

section Holding

variable {settings : Settings} {state : Interplay}

theorem Interplay.lt_deadline_of_lateLooks {now : Instant} {wait : Join}
    (hearly : state.lateLooks (.coordinator now) = [])
    (hwait : state.coordinator.task.wait? = some wait) : now < wait.deadline := by
  by_contra hlate
  unfold Interplay.lateLooks Join.isOver at hearly
  dsimp only at hearly
  rw [hwait] at hearly
  dsimp only at hearly
  rw [if_pos (decide_eq_true (Nat.le_of_not_lt hlate))] at hearly
  cases hearly

/-- The coordinator holds on to the listener, if it was started. -/
def Interplay.Holds (state : Interplay) : Prop :=
  state.listener ≠ none → state.coordinator.holdsListener = true

theorem Interplay.Holds.step_start (h : state.Holds) (spawning : Except String Unit)
    (now : Instant) : (state.step settings (.start spawning now)).Holds := by
  by_cases hidle : state.coordinator.task = .idle
  · unfold Interplay.step
    dsimp only
    rw [if_pos hidle]
    unfold Coordinator.start
    by_cases hstarted :
        (state.coordinator.phase ≠ .starting || !state.coordinator.spareSender) = true
    · rw [if_pos hstarted]
      exact h
    · rw [if_neg hstarted]
      cases spawning with
      | error reason => exact h
      | ok _ => exact fun _ ↦ rfl
  · rw [Interplay.step_start_of_busy settings hidle]
    exact h

/-- Assumes: the listener is at work, and the time that it is waited for is not up. -/
theorem Interplay.Holds.step (h : state.Holds) (move : Move)
    (hworking : ∀ listener, state.listener = some listener → listener.isFinished = false)
    (hearly : state.lateLooks move = []) : (state.step settings move).Holds := by
  cases move with
  | start spawning now => exact h.step_start spawning now
  | run =>
    rcases state.step_run settings with ⟨-, hstep⟩ | hstep
    · rw [hstep]
      exact h
    · rw [hstep]
      exact h
  | coordinator now =>
    intro hstarted
    have hsender : senderGone state.listener = false := by
      obtain ⟨listener, hlistener⟩ := Option.ne_none_iff_exists'.mp hstarted
      have hsome : state.listener = some listener := hlistener
      rw [hsome]
      exact hworking listener hsome
    exact (Coordinator.act_transition settings state.coordinator state.handoff state.listener
      now).holds (h hstarted) hsender fun _ ↦ Interplay.lt_deadline_of_lateLooks hearly
  | listener now reply =>
    rcases state.step_listener settings now reply with ⟨listener, hlistener, hstep⟩ | ⟨-, hstep⟩
    · rw [hstep]
      exact fun _ ↦ h (by rw [hlistener]; exact Option.some_ne_none listener)
    · rw [hstep]
      exact h
  | cancel => exact h

/-- Assumes: the listener is at work after the moves, and the coordinator looks only while there is
time left. Then it still holds on to it. -/
theorem Interplay.Holds.after (h : state.Holds) (hsane : state.Sane) {moves : List Move}
    (hworking : ∀ listener, (state.after settings moves).listener = some listener →
      listener.isFinished = false)
    (hintime : state.InTime settings moves) : (state.after settings moves).Holds := by
  induction moves generalizing state with
  | nil => exact h
  | cons move rest ih =>
    have hatWork : ∀ listener, state.listener = some listener → listener.isFinished = false := by
      intro listener hlistener
      by_contra hfinished
      have hstill := Interplay.after_finished settings hsane hlistener
        (Bool.not_eq_false _ ▸ hfinished) (move :: rest)
      exact hfinished (hworking listener hstill)
    obtain ⟨hearly, hrest⟩ := List.append_eq_nil_iff.mp hintime
    exact ih (h.step move hatWork hearly) (hsane.step settings move) hworking hrest

end Holding

/-- Assumes: the coordinator looks only while there is time left. It still holds on to the listener
when that returns. -/
theorem Interplay.Returns.holds {settings : Settings} {outlet : Display.Outlet}
    {surface : Option Bool} {before : List Move} {now : Instant} {reply : Reply}
    {exit : ListenerExit}
    (h : (Interplay.new (.fresh outlet settings surface)).Returns settings before
      (.listener now reply) exit)
    (hintime : (Interplay.new (.fresh outlet settings surface)).InTime settings before) :
    ((Interplay.new (.fresh outlet settings surface)).after settings
      (before ++ [.listener now reply])).coordinator.holdsListener = true := by
  obtain ⟨worker, hworker, hworking⟩ := h.working
  have hholds : (Interplay.new (.fresh outlet settings surface)).Holds := fun hnone ↦
    absurd rfl hnone
  have hatWork : ∀ listener, ((Interplay.new (.fresh outlet settings surface)).after settings
      before).listener = some listener → listener.isFinished = false := by
    intro listener hlistener
    obtain rfl : worker = listener := Option.some.inj (hworker.symm.trans hlistener)
    exact hworking
  have hbefore := hholds.after (Interplay.orderly_new outlet settings surface).sane hatWork
    hintime
  rw [Interplay.after_append]
  rcases Interplay.step_listener settings _ now reply with ⟨other, -, hstep⟩ | ⟨hnone, -⟩
  · refine (congrArg (fun state ↦ state.coordinator.holdsListener) hstep).trans (hbefore ?_)
    rw [hworker]
    exact Option.some_ne_none worker
  · rw [hnone] at hworker
    cases hworker

end LiveBoard.Viewer
