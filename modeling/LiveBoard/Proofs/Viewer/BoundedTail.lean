import LiveBoard.Proofs.Viewer.Interplay

/-!
# The tail of a cancelled run

Once the run is cancelled, by whomever and wherever the two sides are, the flag stays raised
(`step_cancelled`), and a coordinator that leaves the loop has raised it (`after_isLeaving`). Then
the listener passes a look at it before every further poll. So at most the poll that is going on
returns, and at most one message is still put into the queue (`gather_left`). The queue then holds
no more than what it held and that message (`gather_queue`), which bounds what the coordinator
handles, and the drain comes to its end although the listener may still be at work (`drain_ends`).
-/

set_option autoImplicit false
set_option relaxedAutoImplicit false

namespace LiveBoard.Viewer

open Feed

section Cancelled

variable {state : Interplay}

/-! ### The flag -/

/-- A cancellation is never taken back. -/
@[simp]
theorem Interplay.step_cancelled (hcancelled : state.handoff.cancelled = true)
    (settings : Settings) (move : Move) :
    (state.step settings move).handoff.cancelled = true := by
  rcases state.step_cases settings move with
    ⟨now, -, hstep⟩ | ⟨now, reply, listener, -, -, hstep⟩ | hrests
  · rw [hstep]
    exact state.coordinator.act_cancelled settings state.handoff state.listener now hcancelled
  · rw [hstep]
    exact listener.act_cancelled settings.listener state.handoff now reply hcancelled
  · exact hrests.cancelled hcancelled

/-- A coordinator that leaves the loop has raised the flag. -/
theorem Interplay.step_isLeaving
    (h : state.coordinator.isLeaving = true → state.handoff.cancelled = true)
    (settings : Settings) (move : Move)
    (hleaving : (state.step settings move).coordinator.isLeaving = true) :
    (state.step settings move).handoff.cancelled = true := by
  rcases state.step_cases settings move with
    ⟨now, -, hstep⟩ | ⟨now, reply, listener, -, -, hstep⟩ | hrests
  · rw [hstep] at hleaving ⊢
    exact Coordinator.act_isLeaving h hleaving
  · rw [hstep] at hleaving ⊢
    exact listener.act_cancelled settings.listener state.handoff now reply (h hleaving)
  · exact hrests.cancelled (h (hrests.leaving hleaving))

theorem Interplay.after_isLeaving
    (h : state.coordinator.isLeaving = true → state.handoff.cancelled = true)
    (settings : Settings) (moves : List Move)
    (hleaving : (state.after settings moves).coordinator.isLeaving = true) :
    (state.after settings moves).handoff.cancelled = true := by
  induction moves generalizing state with
  | nil => exact h hleaving
  | cons move rest ih => exact ih (Interplay.step_isLeaving h settings move) hleaving

/-! ### What is left to the listener -/

/-- The number of polls that may still return once the run is cancelled. -/
def Interplay.pollsLeft (state : Interplay) : Nat :=
  match state.listener with
  | some listener => listener.pollsLeft
  | none => 0

/-- The number of messages that may still be sent once the run is cancelled. -/
def Interplay.sendsLeft (state : Interplay) : Nat :=
  match state.listener with
  | some listener => listener.sendsLeft
  | none => 0

theorem Interplay.pollsLeft_le (state : Interplay) : state.pollsLeft ≤ 1 := by
  unfold Interplay.pollsLeft Listener.pollsLeft
  split
  · split <;> omega
  · omega

theorem Interplay.sendsLeft_le (state : Interplay) : state.sendsLeft ≤ 1 := by
  unfold Interplay.sendsLeft Listener.sendsLeft
  split
  · split <;> omega
  · omega

/-- Where the listener does not act, nothing more is left to it than before. -/
theorem Interplay.left_le {next : Interplay}
    (hlistener : next.listener = state.listener ∨ next.listener = some .start) :
    next.pollsLeft ≤ state.pollsLeft ∧ next.sendsLeft ≤ state.sendsLeft := by
  unfold Interplay.pollsLeft Interplay.sendsLeft
  rcases hlistener with hsame | hstart
  · rw [hsame]
    exact ⟨Nat.le_refl _, Nat.le_refl _⟩
  · rw [hstart]
    exact ⟨Nat.zero_le _, Nat.zero_le _⟩

/-- What a move of a cancelled run does is taken off what may still be done. -/
theorem Interplay.step_left (hcancelled : state.handoff.cancelled = true) (settings : Settings)
    (move : Move) :
    (state.returned move).length + (state.step settings move).pollsLeft ≤ state.pollsLeft ∧
      (state.enqueued move).length + (state.step settings move).sendsLeft ≤ state.sendsLeft := by
  rcases state.step_cases settings move with
    ⟨now, rfl, hstep⟩ | ⟨now, reply, listener, rfl, hlistener, hstep⟩ | hrests
  · have hsame : (state.step settings (.coordinator now)).listener = state.listener := by
      rw [hstep]
    have hleft := Interplay.left_le (Or.inl hsame)
    change 0 + _ ≤ _ ∧ 0 + _ ≤ _
    rw [Nat.zero_add, Nat.zero_add]
    exact hleft
  · rw [hstep]
    unfold Interplay.pollsLeft Interplay.sendsLeft Interplay.returned Interplay.enqueued
    rw [hlistener]
    exact listener.act_left settings.listener state.handoff now reply hcancelled
  · have hleft := Interplay.left_le (hrests.started.imp And.left And.left)
    rw [hrests.returned, hrests.enqueued, List.length_nil, List.length_nil, Nat.zero_add,
      Nat.zero_add]
    exact hleft

theorem Interplay.gather_left (hcancelled : state.handoff.cancelled = true) (settings : Settings)
    (moves : List Move) :
    (Interplay.gather settings Interplay.returned state moves).length ≤ state.pollsLeft ∧
      (Interplay.gather settings Interplay.enqueued state moves).length ≤ state.sendsLeft := by
  induction moves generalizing state with
  | nil => exact ⟨Nat.zero_le _, Nat.zero_le _⟩
  | cons move rest ih =>
    obtain ⟨hpolls, hsends⟩ := Interplay.step_left hcancelled settings move
    obtain ⟨hpolls', hsends'⟩ := ih (Interplay.step_cancelled hcancelled settings move)
    unfold Interplay.gather
    rw [List.length_append, List.length_append]
    omega

/-! ### The queue -/

/-- What is handled and what waits then is what waited and what is enqueued. -/
theorem Interplay.step_queue (settings : Settings) (state : Interplay) (move : Move) :
    state.handled move ++ (state.step settings move).handoff.queue =
      state.handoff.queue ++ state.enqueued move := by
  rcases state.step_cases settings move with
    ⟨now, rfl, hstep⟩ | ⟨now, reply, listener, rfl, hlistener, hstep⟩ | hrests
  · rw [hstep]
    exact (state.coordinator.act_queue settings state.handoff state.listener now).trans
      (List.append_nil _).symm
  · unfold Interplay.enqueued
    rw [hstep, hlistener]
    exact listener.act_queue settings.listener state.handoff now reply
  · rw [hrests.handled, hrests.queue, hrests.enqueued, List.append_nil]
    rfl

theorem Interplay.gather_queue (settings : Settings) (state : Interplay) (moves : List Move) :
    Interplay.gather settings Interplay.handled state moves ++
        (state.after settings moves).handoff.queue =
      state.handoff.queue ++ Interplay.gather settings Interplay.enqueued state moves := by
  induction moves generalizing state with
  | nil => exact (List.append_nil _).symm
  | cons move rest ih =>
    have hfirst := state.step_queue settings move
    have hrest := ih (state.step settings move)
    unfold Interplay.gather
    change _ ++ ((state.step settings move).after settings rest).handoff.queue = _
    rw [List.append_assoc, hrest, ← List.append_assoc, hfirst, List.append_assoc]

/-! ### The drain -/

/-- Whether the coordinator acts in a move. -/
def Move.isCoordinator : Move → Bool
  | .coordinator _ => true
  | _ => false

/-- An action of the drain takes the first message, or ends the drain if there is none. -/
theorem Interplay.step_draining {report : Option ListenerExit}
    (hdraining : state.coordinator.task = .draining report) (settings : Settings) (now : Instant) :
    (∃ payload, state.handoff.queue =
        payload :: (state.step settings (.coordinator now)).handoff.queue ∧
      (state.step settings (.coordinator now)).coordinator.task = .draining report) ∨
    (state.step settings (.coordinator now)).coordinator.task = .finishing report := by
  cases hqueue : state.handoff.queue with
  | cons payload rest =>
    rw [Interplay.step_act, Coordinator.act_draining_cons hdraining hqueue]
    exact Or.inl ⟨payload, rfl, hdraining⟩
  | nil =>
    rw [Interplay.step_act, Coordinator.act_draining_nil hdraining hqueue]
    exact Or.inr rfl

/-- Nobody else ends the drain. -/
theorem Interplay.task_step {report : Option ListenerExit}
    (hdraining : state.coordinator.task = .draining report) (settings : Settings) (move : Move)
    (hmove : move.isCoordinator = false) :
    (state.step settings move).coordinator.task = .draining report := by
  have hother : ∀ now, move ≠ .coordinator now := by
    rintro now rfl
    cases hmove
  have hbusy : state.coordinator.task ≠ .idle := by
    rw [hdraining]
    exact Task.noConfusion
  rw [Interplay.coordinator_step settings hother hbusy]
  exact hdraining

/-- Assumes: the run is cancelled. Whatever happens in between, the drain ends once the
coordinator has acted more often than there are messages that wait or may still be sent. -/
theorem Interplay.drain_ends {report : Option ListenerExit}
    (hcancelled : state.handoff.cancelled = true)
    (hdraining : state.coordinator.task = .draining report) (settings : Settings)
    (moves : List Move)
    (hmany : state.handoff.queue.length + state.sendsLeft < moves.countP Move.isCoordinator) :
    ∃ count ≤ moves.length,
      (state.after settings (moves.take count)).coordinator.task = .finishing report := by
  induction moves generalizing state with
  | nil => exact absurd hmany (Nat.not_lt_zero _)
  | cons move rest ih =>
    have hcancelled' := Interplay.step_cancelled hcancelled settings move
    have hsends := (Interplay.step_left hcancelled settings move).2
    have hqueue := congrArg List.length (state.step_queue settings move)
    rw [List.length_append, List.length_append] at hqueue
    cases hmove : move.isCoordinator with
    | false =>
      have hdraining' := Interplay.task_step hdraining settings move hmove
      have hhandled : state.handled move = [] := by
        cases move with
        | coordinator now => cases hmove
        | _ => rfl
      rw [hhandled, List.length_nil] at hqueue
      rw [List.countP_cons, hmove] at hmany
      obtain ⟨count, hcount, hfinishing⟩ := ih hcancelled' hdraining' (by simp at hmany; omega)
      exact ⟨count + 1, Nat.succ_le_succ hcount, hfinishing⟩
    | true =>
      cases move with
      | coordinator now =>
        rcases Interplay.step_draining hdraining settings now with
          ⟨payload, htaken, hdraining'⟩ | hfinishing
        · rw [htaken, List.length_cons] at hmany
          rw [List.countP_cons_of_pos rfl] at hmany
          obtain ⟨count, hcount, hfinishing⟩ := ih hcancelled' hdraining' (by omega)
          exact ⟨count + 1, Nat.succ_le_succ hcount, hfinishing⟩
        · exact ⟨1, Nat.succ_le_succ (Nat.zero_le _), hfinishing⟩
      | _ => cases hmove

end Cancelled

/-- Once the run is cancelled, by whomever and wherever the two sides are, at most one poll
returns, at most one message is put into the queue, and the coordinator handles at most one
message more than wait then, whatever the source replies and in whatever order the two sides act.
And every drain is one of a cancelled run and ends after as many actions of the coordinator and
one, also where the listener is still at work. -/
theorem Interplay.bounded_tail (settings : Settings) :
    (∀ (state : Interplay) (moves : List Move), state.handoff.cancelled = true →
      (Interplay.gather settings Interplay.returned state moves).length ≤ 1 ∧
        (Interplay.gather settings Interplay.enqueued state moves).length ≤ 1 ∧
        (Interplay.gather settings Interplay.handled state moves).length ≤
          state.handoff.queue.length + 1) ∧
    ∀ outlet surface before report,
      let state := (Interplay.new (.fresh outlet settings surface)).after settings before
      state.coordinator.task = .draining report →
        state.handoff.cancelled = true ∧
        ∀ moves : List Move, state.handoff.queue.length + 2 ≤ moves.countP Move.isCoordinator →
          ∃ count ≤ moves.length,
            (state.after settings (moves.take count)).coordinator.task = .finishing report := by
  constructor
  · intro state moves hcancelled
    obtain ⟨hpolls, hsends⟩ := Interplay.gather_left hcancelled settings moves
    have hpollsLeft := state.pollsLeft_le
    have hsendsLeft := state.sendsLeft_le
    have hqueue := congrArg List.length (state.gather_queue settings moves)
    rw [List.length_append, List.length_append] at hqueue
    exact ⟨by omega, by omega, by omega⟩
  · intro outlet surface before report state hdraining
    have hfresh : (Coordinator.fresh outlet settings surface).isLeaving = false := by
      cases surface <;> rfl
    have hleaving : state.coordinator.isLeaving = true := by
      unfold Coordinator.isLeaving
      rw [hdraining]
    have hcancelled : state.handoff.cancelled = true := by
      refine Interplay.after_isLeaving ?_ settings before hleaving
      intro hfalse
      rw [Interplay.new, hfresh] at hfalse
      cases hfalse
    refine ⟨hcancelled, ?_⟩
    intro moves hmany
    have hsendsLeft := state.sendsLeft_le
    exact Interplay.drain_ends hcancelled hdraining settings moves (by omega)

/-- Moves of a run that is cancelled while the listener polls, which takes so long that the
coordinator stops waiting for it. -/
def Move.detachedPoll : List Move :=
  [.start (.ok ()) 0, .run, .listener 0 (.connected (.ok ())), .listener 0 .nothing, .cancel,
    .coordinator 0, .coordinator 0, .coordinator (2 * oneSecond), .coordinator (2 * oneSecond)]

/-- The poll returns a message after all, and the drain still takes it. -/
theorem Interplay.bounded_tail_detached :
    let state := (Interplay.new (.fresh .unlimited .standard none)).after .standard
      Move.detachedPoll
    let moves : List Move :=
      [.listener 0 (.polled (.returns (.ok (some (.payload [0x7B]))))), .listener 0 .nothing,
        .coordinator 0, .coordinator 0]
    (Interplay.gather .standard Interplay.handled state moves).length ≤ 1 ∧
      ∃ count ≤ 4, (state.after .standard (moves.take count)).coordinator.task =
        .finishing none := by
  intro state moves
  obtain ⟨htail, hdrains⟩ := Interplay.bounded_tail .standard
  obtain ⟨-, -, hhandled⟩ := htail state moves rfl
  obtain ⟨-, hends⟩ := hdrains .unlimited none Move.detachedPoll none rfl
  exact ⟨hhandled, hends moves (by decide)⟩

end LiveBoard.Viewer
