import LiveBoard.Feed.Source
import LiveBoard.Settings

/-!
# The listener

The listener connects a source, forwards every message unread, and gives up when the session drops
more often in a row than the policy tolerates. It is a machine of atomic actions on what it shares
with the coordinator, a queue and a flag: `Listener.act` is one action, given the reply of the
source where the action asks it something. Any history of the two sides is thus a sequence of
actions of either.

A failed first connection raises the flag and ends the listener at once. Later it looks at the flag
before every poll and throughout every wait between two tries, and it closes the source on every
way out.
-/

set_option autoImplicit false
set_option relaxedAutoImplicit false

namespace LiveBoard.Feed

/-- Why the listener ended. -/
inductive ListenerExit
  /-- It saw that the run was cancelled. -/
  | cancelled
  /-- Nobody takes its messages any more. -/
  | channelClosed
  /-- The first connection failed. -/
  | connectFailed (error : FeedError)
  /-- The session dropped and was not regained. -/
  | connectionLost (error : FeedError)
  deriving DecidableEq, Repr

/-- An exit as log lines show it. -/
def ListenerExit.describe : ListenerExit → String
  | .cancelled => "Cancelled"
  | .channelClosed => "ChannelClosed"
  | .connectFailed error => s!"ConnectFailed({error.describe})"
  | .connectionLost error => s!"ConnectionLost({error.describe})"

/-! ### What both sides share -/

/-- The queue and the flag between the listener and the coordinator. -/
structure Handoff where
  /-- The messages sent and not yet taken, oldest first. -/
  queue : List Payload
  /-- Whether somebody takes messages. -/
  receiving : Bool
  /-- Whether the run is cancelled; once set, this stays. -/
  cancelled : Bool
  deriving DecidableEq, Repr

/-- Nothing was sent and nothing cancelled. -/
def Handoff.new : Handoff := ⟨[], true, false⟩

/-- Cancels the run. -/
def Handoff.cancel (handoff : Handoff) : Handoff := { handoff with cancelled := true }

/-- Sends a message. -/
def Handoff.send (handoff : Handoff) (payload : Payload) : Handoff :=
  { handoff with queue := handoff.queue ++ [payload] }

/-- Stops taking messages; those that wait are lost. -/
def Handoff.hangUp (handoff : Handoff) : Handoff :=
  { handoff with queue := [], receiving := false }

/-- The number of messages waiting, none where nobody takes them. -/
def Handoff.queued (handoff : Handoff) : Option Nat :=
  if handoff.receiving then some handoff.queue.length else none

/-! ### Waiting between two tries -/

/-- A wait that looks at the flag from time to time. -/
structure BackoffWait where
  /-- When the wait is over. -/
  deadline : Instant
  /-- The longest time between two looks. -/
  step : Duration
  deriving DecidableEq, Repr

/-- What a look at the flag and the clock decides. -/
inductive WaitVerdict
  /-- The run is cancelled. -/
  | cancelled
  /-- The wait is over. -/
  | over
  /-- The next look comes after this time. -/
  | sleep (time : Duration)
  deriving DecidableEq, Repr

/-- The wait of a length that starts now. The flag is not looked at more often than every
millisecond. -/
def BackoffWait.start (now : Instant) (total step : Duration) : BackoffWait :=
  ⟨now + total, max step oneMillisecond⟩

/-- Looks at the flag and the clock. -/
def BackoffWait.look (wait : BackoffWait) (cancelled : Bool) (now : Instant) : WaitVerdict :=
  if cancelled then .cancelled
  else if wait.deadline ≤ now then .over
  else .sleep (min (wait.deadline - now) wait.step)

/-! ### The machine -/

/-- What the listener does next. -/
inductive Stage
  /-- Connects the source. -/
  | connecting
  /-- Looks at the flag before a poll. -/
  | checking
  /-- Polls the source. -/
  | polling
  /-- Sends a message. -/
  | sending (payload : Payload)
  /-- Looks at the flag and the clock between two tries. -/
  | waiting (wait : BackoffWait)
  /-- Raises the flag because of a failure. -/
  | raising (exit : ListenerExit)
  /-- Closes the source. -/
  | closing (exit : ListenerExit)
  /-- Nothing: it has ended. -/
  | ended (exit : ListenerExit)
  /-- Nothing: it has broken down. -/
  | broken
  deriving DecidableEq, Repr

/-- The state of the listener. -/
structure Listener where
  /-- What it does next. -/
  stage : Stage
  /-- The number of failures since the session was last established. -/
  failures : Nat
  deriving DecidableEq, Repr

/-- The listener before it connects. -/
def Listener.start : Listener := ⟨.connecting, 0⟩

/-- What the source replies to an action. -/
inductive Reply
  /-- The reply to connecting. -/
  | connected (result : Except FeedError Unit)
  /-- The reply to a poll. -/
  | polled (ending : PollEnd)
  /-- The reply to closing, and to actions that do not ask the source. -/
  | nothing
  /-- The source breaks down in what it was asked. -/
  | breaks

/-- Instants are counted in seconds below this number; a wait that would end later cannot be
started. -/
def instantLimit : Instant := Nat.pow 2 63 * oneSecond

/-- The stage after a failure that is not the last one tolerated: a wait for the next try. -/
def retryStage (settings : ListenerSettings) (failures : Nat) (now : Instant) : Stage :=
  let delay := settings.reconnect.backoff failures
  if now + delay < instantLimit then .waiting (.start now delay settings.pollInterval)
  else .broken

/-- The largest number of failures that can be counted. -/
def failureLimit : Nat := 4294967295

/-- The listener after a poll. It breaks down where its failures can no longer be counted. -/
def Listener.afterPoll (settings : ListenerSettings) (listener : Listener) (now : Instant) :
    PollEnd → Listener
  | .breaks => { listener with stage := .broken }
  | .returns (.ok none) => { listener with stage := .checking }
  | .returns (.ok (some (.payload payload))) => { listener with stage := .sending payload }
  | .returns (.ok (some .connected)) => ⟨.checking, 0⟩
  | .returns (.error error) =>
    let failures := listener.failures + 1
    if failureLimit < failures then { listener with stage := .broken }
    else if settings.reconnect.maxAttempts < failures then
      ⟨.raising (.connectionLost error), failures⟩
    else ⟨retryStage settings failures now, failures⟩

/-- The stage after the flag was raised: a source that never connected is not closed. -/
def stageAfterRaising : ListenerExit → Stage
  | .connectFailed error => .ended (.connectFailed error)
  | exit => .closing exit

/-- One action of the listener. A reply to a question that was not asked changes nothing. -/
def Listener.act (settings : ListenerSettings) (listener : Listener) (handoff : Handoff)
    (now : Instant) (reply : Reply) : Listener × Handoff :=
  let goTo (stage : Stage) : Listener := { listener with stage := stage }
  match listener.stage with
  | .connecting =>
    match reply with
    | .connected (.ok ()) => (goTo .checking, handoff)
    | .connected (.error error) => (goTo (.raising (.connectFailed error)), handoff)
    | .breaks => (goTo .broken, handoff)
    | _ => (listener, handoff)
  | .checking =>
    (goTo (if handoff.cancelled then .closing .cancelled else .polling), handoff)
  | .polling =>
    match reply with
    | .polled ending => (listener.afterPoll settings now ending, handoff)
    | .breaks => (listener.afterPoll settings now .breaks, handoff)
    | _ => (listener, handoff)
  | .sending payload =>
    if handoff.receiving then (goTo .checking, handoff.send payload)
    else (goTo (.closing .channelClosed), handoff)
  | .waiting wait =>
    match wait.look handoff.cancelled now with
    | .cancelled => (goTo (.closing .cancelled), handoff)
    | .over => (goTo .checking, handoff)
    | .sleep _ => (listener, handoff)
  | .raising exit => (goTo (stageAfterRaising exit), handoff.cancel)
  | .closing exit =>
    match reply with
    | .breaks => (goTo .broken, handoff)
    | _ => (goTo (.ended exit), handoff)
  | .ended _ => (listener, handoff)
  | .broken => (listener, handoff)

/-- Whether the listener has ended or broken down, so that it sends nothing more. -/
def Listener.isFinished (listener : Listener) : Bool :=
  match listener.stage with
  | .ended _ => true
  | .broken => true
  | _ => false

/-- What a finished listener reports: nothing if it broke down. -/
def Listener.report (listener : Listener) : Option ListenerExit :=
  match listener.stage with
  | .ended exit => some exit
  | _ => none

/-! ### What is logged -/

/-- The module that the events of the listener name. -/
def listenerTarget : String := "chessview::actor::listener"

/-- The event of a poll that failed. -/
def failureEvent (settings : ListenerSettings) (failures : Nat) (error : FeedError) : Log.Event :=
  if settings.reconnect.maxAttempts < failures + 1 then
    ⟨.error, listenerTarget, "giving up on broker",
      [("error", error.message), ("attempts", toString failures)]⟩
  else
    ⟨.warn, listenerTarget, "connection dropped; retrying",
      [("error", error.message), ("attempt", toString (failures + 1)),
        ("delay", durationText (settings.reconnect.backoff (failures + 1)))]⟩

/-- What the listener logs in its next action. -/
def Listener.events (settings : ListenerSettings) (listener : Listener) (reply : Reply) :
    List Log.Event :=
  match listener.stage, reply with
  | .connecting, .connected (.ok ()) =>
    [⟨.info, listenerTarget, "listening for board updates", [("topic", settings.topic)]⟩]
  | .connecting, .connected (.error error) =>
    [⟨.error, listenerTarget, "could not connect to broker", [("error", error.message)]⟩]
  | .polling, .polled (.returns (.ok (some .connected))) =>
    if listener.failures = 0 then []
    else
      [⟨.info, listenerTarget, "session re-established",
        [("attempts", toString listener.failures)]⟩]
  | .polling, .polled (.returns (.error error)) =>
    if failureLimit < listener.failures + 1 then []
    else [failureEvent settings listener.failures error]
  | .closing _, .breaks => []
  | .closing exit, _ =>
    [⟨.info, listenerTarget, "feed listener stopped", [("exit", exit.describe)]⟩]
  | _, _ => []

end LiveBoard.Feed
