import LiveBoard.Broker.Address
import LiveBoard.Broker.Reconnect

/-!
# Settings

What a run is given: the broker, how it is listened to, and how the board is displayed.
-/

set_option autoImplicit false
set_option relaxedAutoImplicit false

namespace LiveBoard

/-- How the broker is listened to. -/
structure ListenerSettings where
  /-- The topic that carries the board. -/
  topic : String
  /-- The longest wait for one event. -/
  pollInterval : Duration
  /-- The longest wait for a connection. -/
  connectTimeout : Duration
  /-- The time after which a silent session shows that it is alive. -/
  keepAlive : Duration
  /-- How a dropped session is tried again. -/
  reconnect : Broker.ReconnectPolicy
  deriving DecidableEq, Repr

/-- The topic of full board messages. -/
def boardTopic : String := "chess/board/fullstate"

/-- The usual way of listening. -/
def ListenerSettings.standard : ListenerSettings where
  topic := boardTopic
  pollInterval := milliseconds 100
  connectTimeout := 10 * oneSecond
  keepAlive := 5 * oneSecond
  reconnect := .standard

/-- What a run is given. -/
structure Settings where
  /-- The broker. -/
  broker : Broker.Address
  /-- How it is listened to. -/
  listener : ListenerSettings
  /-- The longest wait for a message to be handed over. -/
  handoffWait : Duration
  /-- The number of repaints per second. -/
  refreshPerSecond : Nat
  /-- The longest wait for the listener to end. -/
  joinTimeout : Duration
  /-- Whether the board is displayed on the alternate screen. -/
  alternateScreen : Bool
  deriving DecidableEq, Repr

/-- The usual settings. -/
def Settings.standard : Settings where
  broker := .standard
  listener := .standard
  handoffWait := milliseconds 500
  refreshPerSecond := 4
  joinTimeout := 2 * oneSecond
  alternateScreen := true

end LiveBoard
