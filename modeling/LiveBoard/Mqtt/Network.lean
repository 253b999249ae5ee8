import LiveBoard.Broker.Address
import LiveBoard.Mqtt.Connection

/-!
# Networks

A network opens a way to the broker, carries bytes and keeps the time. Its operations are actions in
a monad. `Network.client` is the client that a connection over a network makes, and a `Peer` is a
network that is a function on states.
-/

set_option autoImplicit false
set_option relaxedAutoImplicit false

namespace LiveBoard.Mqtt

/-- A network whose operations are actions in `m`. -/
structure Network (m : Type → Type) where
  /-- The time. -/
  clock : m Instant
  /-- Opens a way to the broker, in a time at most. -/
  reach : Duration → m NetworkEvent
  /-- Waits for bytes, for a time at most. -/
  receive : Duration → m NetworkEvent
  /-- Sends bytes. -/
  transmit : List UInt8 → m Unit
  /-- Gives up the way to the broker. -/
  hangUp : m Unit

/-- A connection with what it logged. -/
structure Linked where
  /-- The connection. -/
  connection : Connection
  /-- What was logged. -/
  log : Array Log.Event

section Client

variable {m : Type → Type} [Monad m]

/-- Hangs up where a connection is down. -/
def Network.settle (network : Network m) (connection : Connection) : m Unit :=
  if connection.link = .down then network.hangUp else pure ()

/-- Performs what a connection needs of a network, none where it needs nothing. -/
def Network.serve? (network : Network m) (limit : Duration) (now : Instant) :
    Move → Option (m NetworkEvent)
  | .answers _ => none
  | .opens => some (network.reach limit)
  | .reads none => some (network.receive limit)
  | .reads (some time) => some (network.receive (min limit (time - now)))

/-- Ends a wait: what the connection can hand out on its own is still handed out. -/
def Network.conclude (network : Network m) (connection : Connection) (now : Instant) :
    m (Answer × Connection) := do
  let (move, sent, connection) := connection.next now
  network.transmit sent
  let (answer, connection) := match move with
    | .answers answer => (answer, connection)
    | _ => (.timedOut, connection.timedOut)
  network.settle connection
  return (answer, connection)

/-- Waits for the next event of a connection over a network, for a time at most. What is there
already is found also where that time is zero. -/
def Network.await (network : Network m) (connection : Connection) (now : Instant)
    (remaining : Duration) : m (Answer × Connection) := do
  let (move, sent, connection) := connection.next now
  network.transmit sent
  match move with
  | .answers answer =>
    network.settle connection
    return (answer, connection)
  | needed =>
    let event ← (network.serve? remaining now needed).getD (pure .elapsed)
    let later ← network.clock
    let (answer, sent, connection) := connection.handle event
    network.transmit sent
    match answer with
    | some answer =>
      network.settle connection
      return (answer, connection)
    | none =>
      if _h : remaining = 0 then network.conclude connection later
      else network.await connection later (timeLeft remaining (later - now))
termination_by remaining
decreasing_by exact timeLeft_lt ‹_› _

/-- Queues a request. -/
def queueRequest (request : Request) : StateT Linked m (Except String Unit) :=
  modifyGet fun linked ↦
    let (result, connection) := linked.connection.request request
    (result, { linked with connection := connection })

/-- The client over a network. -/
def Network.client (network : Network m) : Client (StateT Linked m) where
  receive timeout := do
    let linked ← get
    let before ← network.clock
    let (answer, connection) ← network.await linked.connection before timeout
    set { linked with connection := connection }
    return (answer, (← network.clock) - before)
  subscribe topic := queueRequest (.subscribe topic)
  unsubscribe topic := queueRequest (.unsubscribe topic)
  disconnect := queueRequest .disconnect
  log event := modify fun linked ↦ { linked with log := linked.log.push event }

end Client

/-! ### Lookups -/

/-- What the system says where nobody tells the address of a name. -/
def unansweredText : String := "Temporary failure in name resolution"

/-- What the system says where a host has no address. -/
def unknownHostText : String := "Name or service not known"

/-- The reason given where no address is found for a host, in the words of the system. -/
def lookupReason (text : String) : String := s!"failed to lookup address information: {text}"

/-! ### Networks on states -/

/-- A network on states in `ν`. Its waits tell how long they took. -/
structure Peer (ν : Type) where
  /-- Opens a way to a broker, in a time at most. -/
  reach : ν → Broker.Address → Duration → NetworkEvent × Duration × ν
  /-- Waits for bytes, for a time at most. -/
  receive : ν → Duration → NetworkEvent × Duration × ν
  /-- Sends bytes. -/
  transmit : ν → List UInt8 → ν
  /-- Gives up the way to the broker. -/
  hangUp : ν → ν

/-- The network of a peer towards a broker, with a clock that goes on by its waits. -/
def Peer.network {ν : Type} (peer : Peer ν) (broker : Broker.Address) :
    Network (StateM (Instant × ν)) where
  clock := return (← get).1
  reach limit := modifyGet fun (now, state) ↦
    let (event, lasts, state) := peer.reach state broker limit
    (event, now + lasts, state)
  receive limit := modifyGet fun (now, state) ↦
    let (event, lasts, state) := peer.receive state limit
    (event, now + lasts, state)
  transmit bytes := modify fun (now, state) ↦ (now, peer.transmit state bytes)
  hangUp := modify fun (now, state) ↦ (now, peer.hangUp state)

end LiveBoard.Mqtt
