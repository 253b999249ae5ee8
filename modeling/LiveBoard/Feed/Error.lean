import LiveBoard.Text.Quoted

/-!
# Errors of a broker session
-/

set_option autoImplicit false
set_option relaxedAutoImplicit false

namespace LiveBoard.Feed

/-- What went wrong with a session, with the reason given by the other side. -/
inductive FeedError
  /-- The first connection was not established. -/
  | connect (reason : String)
  /-- The subscription was not accepted for sending. -/
  | subscribe (reason : String)
  /-- An established session dropped. -/
  | disconnected (reason : String)
  deriving DecidableEq, Repr

/-- The name of the kind of an error. -/
def FeedError.kind : FeedError → String
  | .connect _ => "Connect"
  | .subscribe _ => "Subscribe"
  | .disconnected _ => "Disconnected"

/-- The reason of an error. -/
def FeedError.reason : FeedError → String
  | .connect reason => reason
  | .subscribe reason => reason
  | .disconnected reason => reason

/-- The wording of an error. -/
def FeedError.message : FeedError → String
  | .connect reason => s!"connection failed: {reason}"
  | .subscribe reason => s!"subscribe failed: {reason}"
  | .disconnected reason => s!"connection lost: {reason}"

/-- An error as log lines show it. -/
def FeedError.describe (error : FeedError) : String :=
  s!"{error.kind}({String.ofList (Text.quote error.reason.toList)})"

end LiveBoard.Feed
