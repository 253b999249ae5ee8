import LiveBoard.Feed.Error
import LiveBoard.Log.Event
import LiveBoard.Time

/-!
# Sources of messages

A source is a subscription to the board: it is connected once, polled for events, and closed. A poll
ends with an event, with nothing, or with an error, which tells that the session dropped; polling
again then lets the source try to regain it. A `Turn` is what one poll does, including what happens
around it while it lasts.
-/

set_option autoImplicit false
set_option relaxedAutoImplicit false

namespace LiveBoard.Feed

/-- A message as it was received. -/
abbrev Payload := List UInt8

/-- What a source found within one poll. -/
inductive SourceEvent
  /-- A message. -/
  | payload (bytes : Payload)
  /-- The session was regained and the subscription renewed. -/
  | connected
  deriving DecidableEq, Repr

/-- How a poll ends. -/
abbrev PollResult := Except FeedError (Option SourceEvent)

/-- How a poll ends, where the source may also break down. -/
inductive PollEnd
  /-- The poll returns. -/
  | returns (result : PollResult)
  /-- The source breaks down. -/
  | breaks

/-- What a poll is given. -/
structure PollContext where
  /-- When it starts. -/
  now : Instant
  /-- The longest it is to wait. -/
  timeout : Duration
  /-- The number of messages waiting to be taken, none where nobody takes them. -/
  queued : Option Nat

/-- What a poll does. -/
structure Turn where
  /-- Whether the run is cancelled when it starts. -/
  cancels : Bool
  /-- Whether the messages waiting are taken when it starts, and no further ones later. -/
  closesChannel : Bool
  /-- How long it lasts. -/
  lasts : Duration
  /-- How it ends. -/
  ending : PollEnd
  /-- What is logged in it. -/
  log : List Log.Event

/-- How a connecting or closing ends. -/
structure Call (α : Type) where
  /-- How long it lasts. -/
  lasts : Duration
  /-- Its result. -/
  result : α
  /-- What is logged in it. -/
  log : List Log.Event

/-- A kind of source with states in `σ`. -/
structure Source (σ : Type) where
  /-- Establishes the session and subscribes. -/
  connect : σ → Instant → Call (Except FeedError Unit) × σ
  /-- Waits for an event. -/
  poll : σ → PollContext → Turn × σ
  /-- Ends the subscription and the session. -/
  close : σ → Instant → Call Unit × σ

end LiveBoard.Feed
