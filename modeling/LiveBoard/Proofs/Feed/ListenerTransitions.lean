import LiveBoard.Proofs.Feed.ListenerActions

/-!
# The transitions of the listener

`Listener.Transition` lists what an action of the listener can be: from which state, with which
reply, to which state and with which effect on the queue and the flag. `Listener.act_transition`
says that every action is one of these, so that what all actions keep is shown once for each.
-/

set_option autoImplicit false
set_option relaxedAutoImplicit false

namespace LiveBoard.Feed

/-- Whether the source breaks down in a reply. -/
def Reply.isBreakdown : Reply → Bool
  | .polled .breaks => true
  | .breaks => true
  | _ => false

/-- An action of the listener at a time, with what both sides share. -/
inductive Listener.Transition (settings : ListenerSettings) (handoff : Handoff) (now : Instant) :
    Listener → Reply → Listener → Handoff → Prop
  /-- The source is connected. -/
  | connects (failures : Nat) :
    Transition settings handoff now ⟨.connecting, failures⟩ (.connected (.ok ()))
      ⟨.checking, failures⟩ handoff
  /-- The source is not connected. -/
  | connectFails (failures : Nat) (error : FeedError) :
    Transition settings handoff now ⟨.connecting, failures⟩ (.connected (.error error))
      ⟨.raising (.connectFailed error), failures⟩ handoff
  /-- The flag is not raised, so the source is polled next. -/
  | goesOn (failures : Nat) (reply : Reply) (hclear : handoff.cancelled = false) :
    Transition settings handoff now ⟨.checking, failures⟩ reply ⟨.polling, failures⟩ handoff
  /-- The flag is seen before a poll. -/
  | notices (failures : Nat) (reply : Reply) (hcancelled : handoff.cancelled = true) :
    Transition settings handoff now ⟨.checking, failures⟩ reply
      ⟨.closing .cancelled, failures⟩ handoff
  /-- A poll returns nothing. -/
  | pollsNothing (failures : Nat) :
    Transition settings handoff now ⟨.polling, failures⟩ (.polled (.returns (.ok none)))
      ⟨.checking, failures⟩ handoff
  /-- A poll returns a message. -/
  | pollsMessage (failures : Nat) (payload : Payload) :
    Transition settings handoff now ⟨.polling, failures⟩
      (.polled (.returns (.ok (some (.payload payload))))) ⟨.sending payload, failures⟩ handoff
  /-- A poll tells that the session was regained. -/
  | pollsRegained (failures : Nat) :
    Transition settings handoff now ⟨.polling, failures⟩
      (.polled (.returns (.ok (some .connected)))) ⟨.checking, 0⟩ handoff
  /-- A poll fails once more than is tolerated. -/
  | givesUp (failures : Nat) (error : FeedError)
      (hlast : settings.reconnect.maxAttempts < failures + 1)
      (hcountable : failures + 1 ≤ failureLimit) :
    Transition settings handoff now ⟨.polling, failures⟩ (.polled (.returns (.error error)))
      ⟨.raising (.connectionLost error), failures + 1⟩ handoff
  /-- A poll fails, and another try is made after a wait. -/
  | retries (failures : Nat) (error : FeedError)
      (htolerated : failures + 1 ≤ settings.reconnect.maxAttempts)
      (hfits : now + settings.reconnect.backoff (failures + 1) < instantLimit) :
    Transition settings handoff now ⟨.polling, failures⟩ (.polled (.returns (.error error)))
      ⟨.waiting (.start now (settings.reconnect.backoff (failures + 1)) settings.pollInterval),
        failures + 1⟩ handoff
  /-- A poll fails, and the wait would end too late. -/
  | outlasts (failures : Nat) (error : FeedError)
      (htolerated : failures + 1 ≤ settings.reconnect.maxAttempts)
      (hlate : instantLimit ≤ now + settings.reconnect.backoff (failures + 1)) :
    Transition settings handoff now ⟨.polling, failures⟩ (.polled (.returns (.error error)))
      ⟨.broken, failures + 1⟩ handoff
  /-- A poll fails, and the failures can no longer be counted. -/
  | overflows (failures : Nat) (error : FeedError) (huncountable : failureLimit < failures + 1) :
    Transition settings handoff now ⟨.polling, failures⟩ (.polled (.returns (.error error)))
      ⟨.broken, failures⟩ handoff
  /-- A message is sent. -/
  | sends (failures : Nat) (payload : Payload) (reply : Reply)
      (hreceiving : handoff.receiving = true) :
    Transition settings handoff now ⟨.sending payload, failures⟩ reply ⟨.checking, failures⟩
      (handoff.send payload)
  /-- Nobody takes a message. -/
  | refuses (failures : Nat) (payload : Payload) (reply : Reply)
      (hgone : handoff.receiving = false) :
    Transition settings handoff now ⟨.sending payload, failures⟩ reply
      ⟨.closing .channelClosed, failures⟩ handoff
  /-- The flag is seen in a wait. -/
  | waitNotices (failures : Nat) (wait : BackoffWait) (reply : Reply)
      (hcancelled : handoff.cancelled = true) :
    Transition settings handoff now ⟨.waiting wait, failures⟩ reply
      ⟨.closing .cancelled, failures⟩ handoff
  /-- A wait is over. -/
  | waitEnds (failures : Nat) (wait : BackoffWait) (reply : Reply)
      (hclear : handoff.cancelled = false) (hover : wait.deadline ≤ now) :
    Transition settings handoff now ⟨.waiting wait, failures⟩ reply ⟨.checking, failures⟩ handoff
  /-- A wait goes on. -/
  | sleeps (failures : Nat) (wait : BackoffWait) (reply : Reply)
      (hclear : handoff.cancelled = false) (hearly : now < wait.deadline) :
    Transition settings handoff now ⟨.waiting wait, failures⟩ reply ⟨.waiting wait, failures⟩
      handoff
  /-- The flag is raised because the source was not connected, which is not closed then. -/
  | raisesUnconnected (failures : Nat) (error : FeedError) (reply : Reply) :
    Transition settings handoff now ⟨.raising (.connectFailed error), failures⟩ reply
      ⟨.ended (.connectFailed error), failures⟩ handoff.cancel
  /-- The flag is raised for another reason. -/
  | raises (failures : Nat) (exit : ListenerExit) (reply : Reply)
      (hconnected : ∀ error, exit ≠ .connectFailed error) :
    Transition settings handoff now ⟨.raising exit, failures⟩ reply ⟨.closing exit, failures⟩
      handoff.cancel
  /-- The source is closed. -/
  | closes (failures : Nat) (exit : ListenerExit) (reply : Reply) (hsteady : reply ≠ .breaks) :
    Transition settings handoff now ⟨.closing exit, failures⟩ reply ⟨.ended exit, failures⟩
      handoff
  /-- The source breaks down. -/
  | breaks (stage : Stage) (failures : Nat) (reply : Reply)
      (hasked : stage = .connecting ∨ stage = .polling ∨ ∃ exit, stage = .closing exit)
      (hbreakdown : reply.isBreakdown = true) :
    Transition settings handoff now ⟨stage, failures⟩ reply ⟨.broken, failures⟩ handoff
  /-- The source replies to something else than what it is asked. -/
  | unheard (stage : Stage) (failures : Nat) (reply : Reply)
      (hasked : (stage = .connecting ∧ ∀ result, reply ≠ .connected result) ∨
        (stage = .polling ∧ ∀ ending, reply ≠ .polled ending)) :
    Transition settings handoff now ⟨stage, failures⟩ reply ⟨stage, failures⟩ handoff
  /-- The listener has ended or broken down. -/
  | stays (listener : Listener) (reply : Reply) (hfinished : listener.isFinished = true) :
    Transition settings handoff now listener reply listener handoff

section Transitions

variable (settings : ListenerSettings) (handoff : Handoff) (now : Instant)

/-- What follows a failed poll. -/
theorem Listener.transition_afterPoll_error (failures : Nat) (error : FeedError) :
    Listener.Transition settings handoff now ⟨.polling, failures⟩
      (.polled (.returns (.error error)))
      (Listener.afterPoll settings ⟨.polling, failures⟩ now (.returns (.error error))) handoff := by
  unfold Listener.afterPoll
  dsimp only
  by_cases huncountable : failureLimit < failures + 1
  · rw [if_pos huncountable]
    exact .overflows failures error huncountable
  · rw [if_neg huncountable]
    by_cases hlast : settings.reconnect.maxAttempts < failures + 1
    · rw [if_pos hlast]
      exact .givesUp failures error hlast (Nat.le_of_not_lt huncountable)
    · rw [if_neg hlast]
      unfold retryStage
      dsimp only
      by_cases hfits : now + settings.reconnect.backoff (failures + 1) < instantLimit
      · rw [if_pos hfits]
        exact .retries failures error (Nat.le_of_not_lt hlast) hfits
      · rw [if_neg hfits]
        exact .outlasts failures error (Nat.le_of_not_lt hlast) (Nat.le_of_not_lt hfits)

/-- Every action is a transition. -/
theorem Listener.act_transition (listener : Listener) (reply : Reply) :
    Listener.Transition settings handoff now listener reply
      (listener.act settings handoff now reply).1 (listener.act settings handoff now reply).2 := by
  obtain ⟨stage, failures⟩ := listener
  unfold Listener.act
  cases stage with
  | connecting =>
    cases reply with
    | connected result =>
      cases result with
      | ok _ => exact .connects failures
      | error error => exact .connectFails failures error
    | breaks => exact .breaks _ failures _ (Or.inl rfl) rfl
    | polled ending => exact .unheard _ failures _ (Or.inl ⟨rfl, fun result ↦ Reply.noConfusion⟩)
    | nothing => exact .unheard _ failures _ (Or.inl ⟨rfl, fun result ↦ Reply.noConfusion⟩)
  | checking =>
    dsimp only
    cases hflag : handoff.cancelled with
    | true => exact .notices failures reply hflag
    | false => exact .goesOn failures reply hflag
  | polling =>
    cases reply with
    | polled ending =>
      cases ending with
      | breaks => exact .breaks _ failures _ (Or.inr (Or.inl rfl)) rfl
      | returns result =>
        cases result with
        | error error =>
          exact Listener.transition_afterPoll_error settings handoff now failures error
        | ok event =>
          match event with
          | none => exact .pollsNothing failures
          | some (.payload payload) => exact .pollsMessage failures payload
          | some .connected => exact .pollsRegained failures
    | breaks => exact .breaks _ failures _ (Or.inr (Or.inl rfl)) rfl
    | connected result =>
      exact .unheard _ failures _ (Or.inr ⟨rfl, fun ending ↦ Reply.noConfusion⟩)
    | nothing => exact .unheard _ failures _ (Or.inr ⟨rfl, fun ending ↦ Reply.noConfusion⟩)
  | sending payload =>
    dsimp only
    cases hreceiving : handoff.receiving with
    | true => exact .sends failures payload reply hreceiving
    | false => exact .refuses failures payload reply hreceiving
  | waiting wait =>
    unfold BackoffWait.look
    dsimp only
    cases hflag : handoff.cancelled with
    | true => exact .waitNotices failures wait reply hflag
    | false =>
      by_cases hover : wait.deadline ≤ now
      · rw [if_neg Bool.false_ne_true, if_pos hover]
        exact .waitEnds failures wait reply hflag hover
      · rw [if_neg Bool.false_ne_true, if_neg hover]
        exact .sleeps failures wait reply hflag (Nat.lt_of_not_le hover)
  | raising exit =>
    cases exit with
    | connectFailed error => exact .raisesUnconnected failures error reply
    | cancelled => exact .raises failures _ reply fun error ↦ ListenerExit.noConfusion
    | channelClosed => exact .raises failures _ reply fun error ↦ ListenerExit.noConfusion
    | connectionLost error => exact .raises failures _ reply fun error ↦ ListenerExit.noConfusion
  | closing exit =>
    cases reply with
    | breaks => exact .breaks _ failures _ (Or.inr (Or.inr ⟨exit, rfl⟩)) rfl
    | connected result => exact .closes failures exit _ Reply.noConfusion
    | polled ending => exact .closes failures exit _ Reply.noConfusion
    | nothing => exact .closes failures exit _ Reply.noConfusion
  | ended exit => exact .stays _ reply rfl
  | broken => exact .stays _ reply rfl

end Transitions

end LiveBoard.Feed
