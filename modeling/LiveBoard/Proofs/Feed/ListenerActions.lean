import LiveBoard.Feed.Listener
import Mathlib.Tactic.SplitIfs

/-!
# The actions of the listener

What an action of the listener does to the messages: a poll may return one, which the listener
then holds (`Listener.held`), and sending puts it at the end of the queue. `act_handoff` is the
effect on what both sides share, and `act_conserves` says that a message is held from the poll
that returned it until it is sent. Once the run is cancelled at most the poll that is going on
returns and at most one message is sent: `Listener.pollsLeft` and `Listener.sendsLeft` bound what
is still to come (`act_left`).
-/

set_option autoImplicit false
set_option relaxedAutoImplicit false

namespace LiveBoard.Feed

/-- The results that polls return in an action. -/
def Listener.returned (listener : Listener) (reply : Reply) : List PollResult :=
  match listener.stage, reply with
  | .polling, .polled (.returns result) => [result]
  | _, _ => []

/-- The messages that are put into the queue in an action. -/
def Listener.enqueued (listener : Listener) (handoff : Handoff) : List Payload :=
  match listener.stage with
  | .sending payload => if handoff.receiving then [payload] else []
  | _ => []

/-- The message that was polled and is not yet sent. -/
def Listener.held (listener : Listener) : List Payload :=
  match listener.stage with
  | .sending payload => [payload]
  | _ => []

/-- The messages among the results of polls. -/
def payloadsOf (results : List PollResult) : List Payload :=
  results.filterMap fun result ↦
    match result with
    | .ok (some (.payload payload)) => some payload
    | _ => none

@[simp]
theorem payloadsOf_append (first second : List PollResult) :
    payloadsOf (first ++ second) = payloadsOf first ++ payloadsOf second :=
  List.filterMap_append

section Actions

variable (settings : ListenerSettings) (listener : Listener) (handoff : Handoff) (now : Instant)
  (reply : Reply)

/-- A listener that has finished does nothing more. -/
@[simp]
theorem Listener.act_of_isFinished (hfinished : listener.isFinished = true) :
    listener.act settings handoff now reply = (listener, handoff) := by
  obtain ⟨stage, failures⟩ := listener
  cases stage with
  | ended exit => rfl
  | broken => rfl
  | _ => cases hfinished

@[simp]
theorem Listener.held_of_isFinished {listener : Listener} (hfinished : listener.isFinished = true) :
    listener.held = [] := by
  obtain ⟨stage, failures⟩ := listener
  cases stage with
  | sending payload => cases hfinished
  | _ => rfl

/-- Only sending and raising the flag touch what both sides share. -/
theorem Listener.act_handoff :
    (listener.act settings handoff now reply).2 =
      match listener.stage with
      | .sending payload => if handoff.receiving then handoff.send payload else handoff
      | .raising _ => handoff.cancel
      | _ => handoff := by
  obtain ⟨stage, failures⟩ := listener
  unfold Listener.act
  cases stage with
  | connecting =>
    cases reply with
    | connected result => cases result <;> rfl
    | _ => rfl
  | polling => cases reply <;> rfl
  | sending payload =>
    dsimp only
    split <;> rfl
  | waiting wait =>
    dsimp only
    split <;> rfl
  | closing exit => cases reply <;> rfl
  | _ => rfl

theorem Listener.act_queue :
    (listener.act settings handoff now reply).2.queue =
      handoff.queue ++ listener.enqueued handoff := by
  rw [Listener.act_handoff]
  unfold Listener.enqueued
  cases listener.stage with
  | sending payload =>
    dsimp only
    split
    · rfl
    · rw [List.append_nil]
  | _ => exact (List.append_nil _).symm

@[simp]
theorem Listener.act_receiving :
    (listener.act settings handoff now reply).2.receiving = handoff.receiving := by
  rw [Listener.act_handoff]
  cases listener.stage with
  | sending payload =>
    dsimp only
    split <;> rfl
  | _ => rfl

@[simp]
theorem Listener.act_cancelled (hcancelled : handoff.cancelled = true) :
    (listener.act settings handoff now reply).2.cancelled = true := by
  rw [Listener.act_handoff]
  cases listener.stage with
  | sending payload =>
    dsimp only
    split <;> exact hcancelled
  | raising exit => rfl
  | _ => exact hcancelled

/-! ### Messages on their way -/

/-- A failed poll is followed by a wait, by giving up or by a breakdown. -/
theorem Listener.held_afterPoll_error (error : FeedError) :
    (listener.afterPoll settings now (.returns (.error error))).held = [] := by
  unfold Listener.afterPoll retryStage
  dsimp only
  split_ifs <;> rfl

/-- A message that a poll returned is held until it is sent. -/
theorem Listener.act_conserves (hreceiving : handoff.receiving = true) :
    listener.enqueued handoff ++ (listener.act settings handoff now reply).1.held =
      listener.held ++ payloadsOf (listener.returned reply) := by
  obtain ⟨stage, failures⟩ := listener
  unfold Listener.act
  cases stage with
  | connecting =>
    cases reply with
    | connected result => cases result <;> rfl
    | _ => rfl
  | checking =>
    dsimp only
    split <;> rfl
  | polling =>
    cases reply with
    | polled ending =>
      cases ending with
      | breaks => rfl
      | returns result =>
        cases result with
        | error error => exact Listener.held_afterPoll_error settings _ now error
        | ok event =>
          match event with
          | none => rfl
          | some (.payload payload) => rfl
          | some .connected => rfl
    | _ => rfl
  | sending payload =>
    unfold Listener.enqueued
    dsimp only
    rw [if_pos hreceiving, if_pos hreceiving]
    rfl
  | waiting wait =>
    dsimp only
    split <;> rfl
  | raising exit => cases exit <;> rfl
  | closing exit => cases reply <;> rfl
  | ended exit => rfl
  | broken => rfl

end Actions

/-! ### After a cancellation -/

/-- The number of polls that may still return once the run is cancelled. -/
def Listener.pollsLeft (listener : Listener) : Nat :=
  match listener.stage with
  | .polling => 1
  | _ => 0

/-- The number of messages that may still be sent once the run is cancelled. -/
def Listener.sendsLeft (listener : Listener) : Nat :=
  match listener.stage with
  | .polling => 1
  | .sending _ => 1
  | _ => 0

section Cancelled

variable (settings : ListenerSettings) (listener : Listener) (handoff : Handoff) (now : Instant)
  (reply : Reply)

theorem Listener.left_afterPoll_error (error : FeedError) :
    (listener.afterPoll settings now (.returns (.error error))).pollsLeft = 0 ∧
      (listener.afterPoll settings now (.returns (.error error))).sendsLeft = 0 := by
  unfold Listener.afterPoll retryStage
  dsimp only
  split_ifs <;> exact ⟨rfl, rfl⟩

theorem Listener.left_afterPoll (ending : PollEnd) :
    (listener.afterPoll settings now ending).pollsLeft = 0 ∧
      (listener.afterPoll settings now ending).sendsLeft ≤ 1 := by
  cases ending with
  | breaks => exact ⟨rfl, Nat.zero_le _⟩
  | returns result =>
    cases result with
    | error error =>
      obtain ⟨hpolls, hsends⟩ := listener.left_afterPoll_error settings now error
      exact ⟨hpolls, hsends ▸ Nat.zero_le _⟩
    | ok event =>
      match event with
      | none => exact ⟨rfl, Nat.zero_le _⟩
      | some (.payload payload) => exact ⟨rfl, Nat.le_refl _⟩
      | some .connected => exact ⟨rfl, Nat.zero_le _⟩

theorem Listener.length_returned_le : (listener.returned reply).length ≤ 1 := by
  unfold Listener.returned
  split
  · exact Nat.le_refl _
  · exact Nat.zero_le _

theorem Listener.length_enqueued_le : (listener.enqueued handoff).length ≤ 1 := by
  unfold Listener.enqueued
  split
  · split
    · exact Nat.le_refl _
    · exact Nat.zero_le _
  · exact Nat.zero_le _

/-- Assumes: the run is cancelled. What an action does is taken off what may still be done. Every
way to another poll leads past a look at the flag. -/
theorem Listener.act_left (hcancelled : handoff.cancelled = true) :
    (listener.returned reply).length + (listener.act settings handoff now reply).1.pollsLeft ≤
        listener.pollsLeft ∧
      (listener.enqueued handoff).length + (listener.act settings handoff now reply).1.sendsLeft ≤
        listener.sendsLeft := by
  obtain ⟨stage, failures⟩ := listener
  cases stage with
  | polling =>
    cases reply with
    | polled ending =>
      obtain ⟨hpolls, hsends⟩ :=
        Listener.left_afterPoll settings ⟨.polling, failures⟩ now ending
      have hreturned := Listener.length_returned_le ⟨.polling, failures⟩ (.polled ending)
      constructor
      · change _ + (Listener.afterPoll settings _ now ending).pollsLeft ≤ 1
        omega
      · change 0 + (Listener.afterPoll settings _ now ending).sendsLeft ≤ 1
        omega
    | breaks => exact ⟨Nat.zero_le _, Nat.zero_le _⟩
    | _ => exact ⟨Nat.le_refl _, Nat.le_refl _⟩
  | sending payload =>
    have hsent := Listener.length_enqueued_le ⟨.sending payload, failures⟩ handoff
    have hleft : (Listener.act settings ⟨.sending payload, failures⟩ handoff now reply).1.pollsLeft
        = 0 ∧
        (Listener.act settings ⟨.sending payload, failures⟩ handoff now reply).1.sendsLeft = 0 := by
      unfold Listener.act
      dsimp only
      split <;> exact ⟨rfl, rfl⟩
    rw [hleft.1, hleft.2]
    exact ⟨Nat.le_refl _, hsent⟩
  | connecting =>
    cases reply with
    | connected result => cases result <;> exact ⟨Nat.le_refl _, Nat.le_refl _⟩
    | _ => exact ⟨Nat.le_refl _, Nat.le_refl _⟩
  | checking =>
    unfold Listener.act
    dsimp only
    rw [if_pos hcancelled]
    exact ⟨Nat.le_refl _, Nat.le_refl _⟩
  | waiting wait =>
    have hlook : wait.look handoff.cancelled now = .cancelled := by
      rw [hcancelled]
      rfl
    unfold Listener.act
    dsimp only
    rw [hlook]
    exact ⟨Nat.le_refl _, Nat.le_refl _⟩
  | raising exit => cases exit <;> exact ⟨Nat.le_refl _, Nat.le_refl _⟩
  | closing exit => cases reply <;> exact ⟨Nat.le_refl _, Nat.le_refl _⟩
  | ended exit => exact ⟨Nat.le_refl _, Nat.le_refl _⟩
  | broken => exact ⟨Nat.le_refl _, Nat.le_refl _⟩

end Cancelled

end LiveBoard.Feed
