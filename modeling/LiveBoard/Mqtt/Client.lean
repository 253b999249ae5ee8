import LiveBoard.Feed.Source

/-!
# Broker clients

A client drives one connection to a broker and regains it when it drops. Requests are queued in it,
and its events are received one at a time: each is a packet that was received or sent. Its
operations are actions in a monad, so that a client may be a program that talks to a broker as well
as a function on states. Nothing is assumed of the order of its answers.
-/

set_option autoImplicit false
set_option relaxedAutoImplicit false

namespace LiveBoard.Mqtt

/-- Something that happened in a client. -/
inductive ClientEvent
  /-- The broker accepted the connection. One that it refuses has failed (`Answer.failed`). -/
  | accepted
  /-- A message came. -/
  | message (payload : Feed.Payload)
  /-- The farewell was sent. -/
  | disconnectSent
  /-- Something else was sent or came. -/
  | other
  deriving DecidableEq, Repr

/-- What a client answers when it is asked for its next event. -/
inductive Answer
  /-- This happened. -/
  | event (event : ClientEvent)
  /-- The connection failed or dropped. -/
  | failed (reason : String)
  /-- Nothing happened in time. -/
  | timedOut
  /-- The client has ended. -/
  | ended
  deriving DecidableEq, Repr

/-- A client whose operations are actions in `m`. -/
structure Client (m : Type → Type) where
  /-- Waits for the next event, for a time at most, and tells how long that took. -/
  receive : Duration → m (Answer × Duration)
  /-- Queues a subscription to a topic. -/
  subscribe : String → m (Except String Unit)
  /-- Queues the end of a subscription. -/
  unsubscribe : String → m (Except String Unit)
  /-- Queues the farewell. -/
  disconnect : m (Except String Unit)
  /-- Logs an event. -/
  log : Log.Event → m Unit

end LiveBoard.Mqtt
