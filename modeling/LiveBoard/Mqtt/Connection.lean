import LiveBoard.Mqtt.Client
import LiveBoard.Mqtt.Wire

/-!
# Connections

A connection is the state of a client: it knows whether it is down, waiting to be accepted or up,
what was received and not yet read, and which requests wait to be sent. `Connection.next` tells what
it does on its own, and `Connection.handle` what it makes of an event of the network; both give the
bytes to be sent. On its own it hands out at most one event at a time.

Requests outlive a connection that fails; everything else belongs to one connection alone.
-/

set_option autoImplicit false
set_option relaxedAutoImplicit false

namespace LiveBoard.Mqtt

/-- How far a connection has come. -/
inductive Link
  /-- There is none. -/
  | down
  /-- It was asked for and not yet accepted. -/
  | greeting
  /-- It was accepted. -/
  | up
  deriving DecidableEq, Repr

/-- Something to be sent once the connection is up. -/
inductive Request
  | subscribe (topic : String)
  | unsubscribe (topic : String)
  | disconnect
  deriving DecidableEq, Repr

/-- The state of a client. -/
structure Connection where
  /-- The name that the client gives to the broker. -/
  client : String
  /-- The time after which it shows that it is alive, zero for never. -/
  keepAlive : Duration
  /-- How far it has come. -/
  link : Link
  /-- The bytes received and not yet read. -/
  unread : List UInt8
  /-- The requests not yet sent, oldest first. -/
  requests : List Request
  /-- Events that are still to be handed out, oldest first. -/
  events : List ClientEvent
  /-- The number last given to a request. -/
  lastNumber : Nat
  /-- The numbers of messages, delivered exactly once, that the broker has not released. -/
  unreleased : List Nat
  /-- Whether a sign of life was not answered. -/
  unanswered : Bool
  /-- When the next sign of life is due. -/
  signAt : Option Instant
  deriving DecidableEq, Repr

/-- What happens on the network. -/
inductive NetworkEvent
  /-- The way to the broker is open. -/
  | opened
  /-- The broker was not reached. -/
  | refused (reason : String)
  /-- Bytes came. -/
  | received (bytes : List UInt8)
  /-- The broker hung up. -/
  | closed
  /-- Nothing happened in time. -/
  | elapsed
  deriving DecidableEq, Repr

/-- What a connection does next. -/
inductive Move
  /-- It answers. -/
  | answers (answer : Answer)
  /-- It needs a way to the broker. -/
  | opens
  /-- It needs bytes, but does something itself at a given time. -/
  | reads (until? : Option Instant)
  deriving DecidableEq, Repr

/-- Why a time for signs of life is not accepted. -/
def keepAliveFault : String :=
  "Keep alives should be specified in seconds. Durations less than a second are not allowed, " ++
    "except for Duration::ZERO."

/-- A connection that was not asked for. Signs of life come in whole seconds or not at all. -/
def Connection.new (client : String) (keepAlive : Duration) : Except String Connection :=
  if keepAlive = 0 ∨ oneSecond ≤ keepAlive then
    .ok
      { client := client
        keepAlive := keepAlive
        link := .down
        unread := []
        requests := []
        events := []
        lastNumber := 0
        unreleased := []
        unanswered := false
        signAt := none }
  else .error keepAliveFault

/-! ### Requests -/

/-- The number of requests that can wait. -/
def requestCapacity : Nat := 10

/-- The reason given where too many requests wait. -/
def requestFault : String := "Failed to send mqtt requests to eventloop"

/-- Queues a request. -/
def Connection.request (connection : Connection) (request : Request) :
    Except String Unit × Connection :=
  if connection.requests.length < requestCapacity then
    (.ok (), { connection with requests := connection.requests ++ [request] })
  else (.error requestFault, connection)

/-- The number after which numbers start again from one. -/
def lastRequestNumber : Nat := 100

/-- The number for the next request. -/
def Connection.nextNumber (connection : Connection) : Nat := connection.lastNumber + 1

/-- The connection that has used a number. -/
def Connection.numbered (connection : Connection) : Connection :=
  let number := connection.nextNumber
  { connection with lastNumber := if number = lastRequestNumber then 0 else number }

/-- Sends a request. -/
def Connection.sendRequest (connection : Connection) :
    Request → Sent × ClientEvent × Connection
  | .subscribe topic =>
    (.subscribe connection.nextNumber topic, .other, connection.numbered)
  | .unsubscribe topic =>
    (.unsubscribe connection.nextNumber topic, .other, connection.numbered)
  | .disconnect => (.disconnect, .disconnectSent, connection)

/-! ### Failing -/

/-- The connection after it failed. -/
def Connection.dropped (connection : Connection) : Connection :=
  { connection with
    link := .down
    unread := []
    events := []
    unreleased := []
    unanswered := false
    signAt := none }

/-- The reason for a failure of a way to the broker. -/
def networkReason (reason : String) : String := "I/O: " ++ reason

/-- The reason for a failure of an accepted connection. -/
def sessionReason (reason : String) : String := "Mqtt state: " ++ reason

/-- The reason for the end of an accepted connection. -/
def endReason (kind text : String) : String :=
  sessionReason ("Io error: Custom " ++ braced s!"kind: {kind}, error: \"{text}\"")

/-- The reason for the broker hanging up, between packets or inside one. -/
def Connection.closeReason (connection : Connection) : String :=
  match connection.link, connection.unread.isEmpty with
  | .up, true => endReason "ConnectionAborted" "connection closed by peer"
  | .up, false => endReason "ConnectionReset" "connection reset by peer"
  | _, true => networkReason "connection closed by peer"
  | _, false => networkReason "connection reset by peer"

/-! ### Packets on an accepted connection -/

/-- What a packet leads to: a reply, if one is needed, and the connection, or a failure. -/
abbrev PacketResult := Except String (Option Sent × Connection)

/-- The failure of a packet that answers nothing. -/
def unsolicited (number : Nat) : String := s!"Received unsolicited ack pkid: {number}"

/-- Handles a message: it is acknowledged as its quality asks. -/
def Connection.handlePublication (connection : Connection) (publication : Publication) :
    Option Sent × Connection :=
  match publication.quality with
  | .atMostOnce => (none, connection)
  | .atLeastOnce => (some (.pubAck publication.number), connection)
  | .exactlyOnce =>
    (some (.pubRec publication.number),
      { connection with unreleased := publication.number :: connection.unreleased })

/-- Handles a packet. -/
def Connection.handlePacket (connection : Connection) : Packet → PacketResult
  | .publish publication => .ok (connection.handlePublication publication)
  | .pubRel number =>
    if number ∈ connection.unreleased then
      .ok (some (.pubComp number),
        { connection with unreleased := connection.unreleased.filter (· ≠ number) })
    else .error (unsolicited number)
  | .pubAck number => .error (unsolicited number)
  | .pubRec number => .error (unsolicited number)
  | .pubComp number => .error (unsolicited number)
  | .subAck _ _ => .ok (none, connection)
  | .unsubAck _ => .ok (none, connection)
  | .pingResp => .ok (none, { connection with unanswered := false })
  | _ => .error "Received a wrong packet while waiting for another packet"

/-- The event of a packet. -/
def eventOf : Packet → ClientEvent
  | .publish publication => .message publication.payload
  | _ => .other

/-! ### What a connection does -/

/-- The connection when the broker has accepted it. -/
def Connection.accepted (connection : Connection) (rest : List UInt8) (now : Instant) :
    Connection :=
  { connection with
    link := .up
    unread := rest
    signAt := if connection.keepAlive = 0 then none else some (now + connection.keepAlive) }

/-- What a connection does that waits to be accepted. -/
def Connection.greet (connection : Connection) (now : Instant) :
    Move × List UInt8 × Connection :=
  let fail (reason : String) : Move × List UInt8 × Connection :=
    (.answers (.failed reason), [], connection.dropped)
  match frame connection.unread with
  | .incomplete => (.reads none, [], connection)
  | .packet (.connAck .success) rest =>
    (.answers (.event .accepted), [], connection.accepted rest now)
  | .packet (.connAck code) _ => fail s!"Connection refused, return code: `{code.name}`"
  | .packet packet _ => fail s!"Expected ConnAck packet, received: {packet.describe}"
  | .fault error => fail (networkReason error.message)

/-- Shows that the client is alive, which has to be answered before the next time. -/
def Connection.showLife (connection : Connection) (now : Instant) :
    Move × List UInt8 × Connection :=
  if connection.unanswered then
    (.answers (.failed (sessionReason "Last pingreq isn't acked")), [], connection.dropped)
  else
    (.answers (.event .other), Sent.pingReq.bytes,
      { connection with unanswered := true, signAt := some (now + connection.keepAlive) })

/-- What an accepted connection does where no request and no event waits: it reads a packet. -/
def Connection.readOn (connection : Connection) (now : Instant) :
    Move × List UInt8 × Connection :=
  let fail (reason : String) : Move × List UInt8 × Connection :=
    (.answers (.failed (sessionReason reason)), [], connection.dropped)
  match frame connection.unread with
  | .incomplete =>
    if connection.signAt.any (· ≤ now) then connection.showLife now
    else (.reads connection.signAt, [], connection)
  | .packet packet rest =>
    match { connection with unread := rest }.handlePacket packet with
    | .ok (none, next) => (.answers (.event (eventOf packet)), [], next)
    | .ok (some reply, next) =>
      (.answers (.event (eventOf packet)), reply.bytes,
        { next with events := next.events ++ [.other] })
    | .error reason => fail reason
  | .fault error => fail s!"Mqtt serialization/deserialization error: {error.message}"

/-- What a connection does next, with the bytes to be sent. -/
def Connection.next (connection : Connection) (now : Instant) : Move × List UInt8 × Connection :=
  match connection.link with
  | .down => (.opens, [], connection)
  | .greeting => connection.greet now
  | .up =>
    match connection.events, connection.requests with
    | event :: rest, _ => (.answers (.event event), [], { connection with events := rest })
    | [], request :: rest =>
      let (sent, event, next) := { connection with requests := rest }.sendRequest request
      (.answers (.event event), sent.bytes, next)
    | [], [] => connection.readOn now

/-- The seconds of the keep-alive time that the broker is told. -/
def Connection.keepAliveSeconds (connection : Connection) : Nat :=
  connection.keepAlive / oneSecond % 65536

/-- What a connection makes of an event of the network: an answer, if it leads to one, and the bytes
to be sent. -/
def Connection.handle (connection : Connection) :
    NetworkEvent → Option Answer × List UInt8 × Connection
  | .opened =>
    (none, (Sent.connect connection.client connection.keepAliveSeconds).bytes,
      { connection with link := .greeting, unread := [] })
  | .refused reason => (some (.failed (networkReason reason)), [], connection.dropped)
  | .received bytes => (none, [], { connection with unread := connection.unread ++ bytes })
  | .closed => (some (.failed connection.closeReason), [], connection.dropped)
  | .elapsed => (none, [], connection)

/-- The connection when the wait for its next event is over: one not yet accepted is abandoned. -/
def Connection.timedOut (connection : Connection) : Connection :=
  if connection.link = .up then connection else connection.dropped

end LiveBoard.Mqtt
