import LiveBoard.Feed.Listener

/-!
# How a run ends

The listener reports why it ended, and the outcome of the run names the broker failure where there
was one. A listener that did not report counts as interrupted.
-/

set_option autoImplicit false
set_option relaxedAutoImplicit false

namespace LiveBoard.Viewer

open Feed

/-- How a run ended. -/
inductive Outcome
  /-- It was stopped. -/
  | interrupted
  /-- The broker was not reached. -/
  | connectFailed (broker : Broker.Address) (error : FeedError)
  /-- The broker went away. -/
  | connectionLost (broker : Broker.Address) (error : FeedError)
  deriving DecidableEq, Repr

/-- The outcome of a listener's report. -/
def Outcome.ofExit (exit : Option ListenerExit) (broker : Broker.Address) : Outcome :=
  match exit with
  | some (.connectFailed error) => .connectFailed broker error
  | some (.connectionLost error) => .connectionLost broker error
  | some .cancelled => .interrupted
  | some .channelClosed => .interrupted
  | none => .interrupted

/-- Whether a run failed. -/
def Outcome.isFailure : Outcome → Bool
  | .interrupted => false
  | .connectFailed .. => true
  | .connectionLost .. => true

/-- The exit code of a run. -/
def Outcome.exitCode (outcome : Outcome) : Nat := if outcome.isFailure then 1 else 0

/-- The wording of an outcome. -/
def Outcome.message : Outcome → String
  | .interrupted => "Exiting."
  | .connectFailed broker error =>
    s!"Failed to connect to MQTT broker at {String.ofList broker.text}: {error.message}"
  | .connectionLost broker error =>
    s!"Lost MQTT broker at {String.ofList broker.text}: {error.message}"

/-- What keeps a viewer from running. -/
inductive ViewerError
  /-- The terminal did not accept the set-up. -/
  | terminal (reason : String)
  /-- The listener was not started. -/
  | spawn (reason : String)
  /-- The viewer was started before. -/
  | alreadyStarted
  deriving DecidableEq, Repr

/-- The wording of an error. -/
def ViewerError.message : ViewerError → String
  | .terminal reason => s!"terminal error: {reason}"
  | .spawn reason => s!"failed to spawn feed listener: {reason}"
  | .alreadyStarted => "viewer already started"

end LiveBoard.Viewer
