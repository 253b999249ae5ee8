import LiveBoard.Feed.Listener

/-!
# Waiting for the listener to end

Whoever wants the report of the listener cancels the run and then looks from time to time whether
the listener has finished; one that broke down has no report. The wait is bounded: after each look
that finds the listener at work there is a look at the clock, and if the time is up the listener is
left to itself. These are two looks, one after the other. A listener that finishes between them is
not looked at again where the second one finds the time up.
-/

set_option autoImplicit false
set_option relaxedAutoImplicit false

namespace LiveBoard.Feed

/-- The time between two looks. -/
def joinStep : Duration := milliseconds 10

/-- A bounded wait for the listener. -/
structure Join where
  /-- The longest time that the wait may take. -/
  timeout : Duration
  /-- When that time is up. -/
  deadline : Instant
  deriving DecidableEq, Repr

/-- What a look at the listener finds. -/
inductive JoinVerdict
  /-- The listener has finished with this report. -/
  | finished (report : Option ListenerExit)
  /-- The listener is at work. -/
  | busy
  deriving DecidableEq, Repr

/-- The wait that starts now. -/
def Join.start (now : Instant) (timeout : Duration) : Join := ⟨timeout, now + timeout⟩

/-- Looks at the listener. -/
def JoinVerdict.ofListener (listener : Listener) : JoinVerdict :=
  if listener.isFinished then .finished listener.report else .busy

/-- Looks at the clock: whether the time is up. The next look at the listener comes after `joinStep`
otherwise. -/
def Join.isOver (join : Join) (now : Instant) : Bool := join.deadline ≤ now

/-- What is logged where the listener is found finished. -/
def reportEvents : Option ListenerExit → List Log.Event
  | none => [⟨.error, listenerTarget, "feed listener panicked", []⟩]
  | some _ => []

/-- What is logged where the listener is left to itself. -/
def Join.expiryEvents (join : Join) : List Log.Event :=
  [⟨.warn, listenerTarget, "feed listener did not stop in time; detaching",
    [("timeout", durationText join.timeout)]⟩]

end LiveBoard.Feed
