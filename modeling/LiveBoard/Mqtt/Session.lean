import LiveBoard.Broker.Address
import LiveBoard.Feed.Source
import LiveBoard.Mqtt.Client
import LiveBoard.Settings

/-!
# Sessions

A session is a subscription kept up over a client. Every connection that the broker accepts needs a
subscription of its own. After the connection dropped, a poll waits for a new one with the full
connection timeout, because an attempt is abandoned when a wait of the client ends.
-/

set_option autoImplicit false
set_option relaxedAutoImplicit false

namespace LiveBoard.Mqtt

open Feed

/-- A session. -/
structure Session where
  /-- The broker, as messages name it. -/
  broker : String
  /-- The topic subscribed to. -/
  topic : String
  /-- The longest wait for a connection to be accepted. -/
  connectTimeout : Duration
  /-- Whether the connection dropped and was not regained. -/
  reconnecting : Bool
  deriving DecidableEq, Repr

/-- A session before it is connected. -/
def Session.new (broker : Broker.Address) (settings : ListenerSettings) : Session :=
  ⟨String.ofList broker.text, settings.topic, settings.connectTimeout, false⟩

/-- How the wait for a connection ended. A connection that the broker refuses has failed: the client
tells it as a failure with the code of the refusal (`Connection.greet`), and none of its events is
a refusal. -/
inductive Handshake
  /-- The broker accepted it. -/
  | accepted
  /-- The time was up. -/
  | timedOut
  /-- It failed. -/
  | failed (reason : String)
  deriving DecidableEq, Repr

/-- The reason given where a client has ended. -/
def endedReason : String := "client event loop closed"

/-- The longest wait for the farewell to be sent. -/
def farewellGrace : Duration := milliseconds 250

/-- The module that the events of a session name. -/
def sessionTarget : String := "chessview::feed::mqtt"

section Operations

variable {m : Type → Type} [Monad m]

/-- Logs that the connection to the broker came to something. -/
def Session.announce (session : Session) (client : Client m) (message : String) : m Unit :=
  client.log ⟨.info, sessionTarget, message, [("broker", session.broker)]⟩

/-- Waits until the broker accepts the connection, the connection fails or the time is up. -/
def awaitAccepted (client : Client m) (remaining : Duration) : m Handshake :=
  if _h : remaining = 0 then pure .timedOut
  else do
    let (answer, elapsed) ← client.receive remaining
    match answer with
    | .event .accepted => pure .accepted
    | .failed reason => pure (.failed reason)
    | .ended => pure (.failed endedReason)
    | _ => awaitAccepted client (timeLeft remaining elapsed)
termination_by remaining
decreasing_by exact timeLeft_lt ‹_› _

/-- Queues the subscription. -/
def Session.subscribe (session : Session) (client : Client m) : m (Except FeedError Unit) := do
  match ← client.subscribe session.topic with
  | .error reason => return .error (.subscribe reason)
  | .ok () =>
    client.log ⟨.debug, sessionTarget, "subscription queued", [("topic", session.topic)]⟩
    return .ok ()

/-- The reason for a wait that did not end with a connection. -/
def Session.explain (session : Session) : Handshake → String
  | .accepted => ""
  | .timedOut => s!"no CONNACK from {session.broker} within {durationText session.connectTimeout}"
  | .failed reason => reason

/-- Establishes the first connection and subscribes. -/
def Session.connect (session : Session) (client : Client m) : m (Except FeedError Unit) := do
  match ← awaitAccepted client session.connectTimeout with
  | .accepted =>
    session.announce client "connected"
    session.subscribe client
  | failed => return .error (.connect (session.explain failed))

/-- Subscribes on a connection that was regained. -/
def Session.resume (session : Session) (client : Client m) : m PollResult := do
  session.announce client "reconnected"
  return (← session.subscribe client).map fun () ↦ some .connected

/-- Regains the connection. -/
def Session.reconnect (session : Session) (client : Client m) : m (PollResult × Session) := do
  match ← awaitAccepted client session.connectTimeout with
  | .accepted => return (← session.resume client, { session with reconnecting := false })
  | failed => return (.error (.disconnected (session.explain failed)), session)

/-- Waits for an event, for a time at most where the connection stands. -/
def Session.poll (session : Session) (client : Client m) (timeout : Duration) :
    m (PollResult × Session) := do
  if session.reconnecting then session.reconnect client
  else
    let (answer, _) ← client.receive timeout
    match answer with
    | .event (.message payload) => return (.ok (some (.payload payload)), session)
    | .event .accepted => return (← session.resume client, session)
    | .event _ => return (.ok none, session)
    | .timedOut => return (.ok none, session)
    | .failed reason =>
      return (.error (.disconnected reason), { session with reconnecting := true })
    | .ended => return (.error (.disconnected endedReason), session)

/-- Waits until the farewell was sent, the connection fails or the time is up. -/
def Session.awaitFarewell (session : Session) (client : Client m) (remaining : Duration) :
    m Unit :=
  if _h : remaining = 0 then
    client.log
      ⟨.debug, sessionTarget, "disconnect not confirmed before grace period ended", []⟩
  else do
    let (answer, elapsed) ← client.receive remaining
    match answer with
    | .event .disconnectSent => session.announce client "disconnected"
    | .event _ => session.awaitFarewell client (timeLeft remaining elapsed)
    | _ => pure ()
termination_by remaining
decreasing_by exact timeLeft_lt ‹_› _

/-- Ends the subscription and the connection. -/
def Session.close (session : Session) (client : Client m) : m Unit := do
  let _ ← client.unsubscribe session.topic
  match ← client.disconnect with
  | .error _ => return
  | .ok () => session.awaitFarewell client farewellGrace

end Operations

end LiveBoard.Mqtt
