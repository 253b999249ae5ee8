import LiveBoard.Broker.Address
import LiveBoard.Log.File
import LiveBoard.Mqtt.Network
import Std.Async.DNS
import Std.Async.TCP

/-!
# Sockets

The network that a process really has: a socket to the broker, and the clock of the system. A wait
looks from time to time whether what it waits for has come.
-/

set_option autoImplicit false
set_option relaxedAutoImplicit false

namespace LiveBoard.Live

open Std.Async (Async AsyncTask)
open Std.Net (IPAddr IPv4Addr IPv6Addr SocketAddress)

/-- A socket to a broker, once it is open, and the bytes that are awaited from it. -/
structure Socket where
  /-- The broker. -/
  broker : Broker.Address
  /-- The open socket. -/
  stream : IO.Ref (Option Std.Async.TCP.Socket.Client)
  /-- The bytes awaited. -/
  incoming : IO.Ref (Option (AsyncTask (Option ByteArray)))

/-- The longest time between two looks, in milliseconds. -/
def lookStep : UInt32 := 1

/-- Waits until a task has finished or a time has come. -/
partial def waitUntil {α : Type} (task : Task α) (deadline : Instant) : IO (Option α) := do
  if ← IO.hasFinished task then return some task.get
  if deadline ≤ (← IO.monoNanosNow) then return none
  IO.sleep lookStep
  waitUntil task deadline

/-- The wording of the errors that a broker out of reach leads to, by their numbers. -/
def reachErrors : List (Nat × String) :=
  [ (22, "Invalid argument")
  , (99, "Cannot assign requested address")
  , (101, "Network is unreachable")
  , (104, "Connection reset by peer")
  , (110, "Connection timed out")
  , (111, "Connection refused")
  , (113, "No route to host") ]

/-- The number of an error, which may be given as a negative one. -/
def errorNumber (code : UInt32) : Nat := min code.toNat (UInt32.size - code.toNat)

/-- The text of an error of the system with a number. -/
def numberedReason (code : UInt32) (details : String) : String :=
  let number := errorNumber code
  Log.systemText ((reachErrors.lookup number).getD details) number

/-- The text of an error of the system. -/
def reasonOf : IO.Error → String
  | .alreadyExists _ code details => numberedReason code details
  | .otherError code details => numberedReason code details
  | .resourceBusy code details => numberedReason code details
  | .resourceVanished code details => numberedReason code details
  | .unsupportedOperation code details => numberedReason code details
  | .hardwareFault code details => numberedReason code details
  | .unsatisfiedConstraints code details => numberedReason code details
  | .illegalOperation code details => numberedReason code details
  | .protocolError code details => numberedReason code details
  | .timeExpired code details => numberedReason code details
  | .interrupted _ code details => numberedReason code details
  | .noFileOrDirectory _ code details => numberedReason code details
  | .invalidArgument _ code details => numberedReason code details
  | .permissionDenied _ code details => numberedReason code details
  | .resourceExhausted _ code details => numberedReason code details
  | .inappropriateType _ code details => numberedReason code details
  | .noSuchThing _ code details => numberedReason code details
  | .unexpectedEof => "unexpected end of file"
  | .userError text => text

/-- The wording of the errors that the lookup of a host leads to, by their numbers. -/
def lookupErrors : List (Nat × String) :=
  [ (3001, Mqtt.unansweredText)
  , (3007, "No address associated with hostname")
  , (3008, Mqtt.unknownHostText) ]

/-- The text of an error of a lookup. What cannot be a name is unknown like any other host. -/
def lookupText : IO.Error → String
  | .otherError code details => (lookupErrors.lookup (errorNumber code)).getD details
  | .invalidArgument .. => Mqtt.unknownHostText
  | error => toString error

/-- A port of an address. -/
def socketAddress (address : IPAddr) (port : Nat) : SocketAddress :=
  match address with
  | .v4 host => .v4 ⟨host, port.toUInt16⟩
  | .v6 host => .v6 ⟨host, port.toUInt16⟩

/-- The addresses of a host: those that it spells, or else those that its name stands for. -/
def resolve (broker : Broker.Address) (deadline : Instant) : IO (List IPAddr) := do
  let host := String.ofList broker.host
  match IPv4Addr.ofString host, IPv6Addr.ofString host with
  | some address, _ => return [.v4 address]
  | none, some address => return [.v6 address]
  | none, none =>
    try
      let task ← (Std.Async.DNS.getAddrInfo host (toString broker.port)).toIO
      match ← waitUntil task deadline with
      | some (.ok addresses) => return addresses.toList
      | some (.error error) => throw error
      | none => return []
    catch error => throw (.userError (Mqtt.lookupReason (lookupText error)))

/-- Tries addresses one after the other until a way is open. -/
def Socket.tryAddresses (socket : Socket) (deadline : Instant) :
    List IPAddr → Mqtt.NetworkEvent → IO Mqtt.NetworkEvent
  | [], event => return event
  | address :: rest, _ => do
    try
      let stream ← Std.Async.TCP.Socket.Client.mk
      let task ← (stream.connect (socketAddress address socket.broker.port)).toIO
      match ← waitUntil task deadline with
      | some (.ok ()) =>
        socket.stream.set (some stream)
        return .opened
      | some (.error error) => socket.tryAddresses deadline rest (.refused (reasonOf error))
      | none => return .elapsed
    catch error => socket.tryAddresses deadline rest (.refused (reasonOf error))

/-- Opens a way to the broker. -/
def Socket.reach (socket : Socket) (limit : Duration) : IO Mqtt.NetworkEvent := do
  let deadline := (← IO.monoNanosNow) + limit
  try socket.tryAddresses deadline (← resolve socket.broker deadline) .elapsed
  catch error => return .refused (reasonOf error)

/-- The largest number of bytes taken at a time. -/
def chunkSize : UInt64 := 4096

/-- Waits for bytes. -/
def Socket.receive (socket : Socket) (limit : Duration) : IO Mqtt.NetworkEvent := do
  let deadline := (← IO.monoNanosNow) + limit
  match ← socket.stream.get with
  | none => return .closed
  | some stream =>
    let task ← match ← socket.incoming.get with
      | some task => pure task
      | none => (stream.recv? chunkSize).toIO
    match ← waitUntil task deadline with
    | none =>
      socket.incoming.set (some task)
      return .elapsed
    | some result =>
      socket.incoming.set none
      match result with
      | .ok (some bytes) => return .received bytes.toList
      | _ => return .closed

/-- Sends bytes; where that fails, the next wait for bytes tells. -/
def Socket.transmit (socket : Socket) (bytes : List UInt8) : IO Unit := do
  match ← socket.stream.get with
  | some stream =>
    unless bytes.isEmpty do
      try (stream.send ⟨bytes.toArray⟩).block
      catch _ => return
  | none => return

/-- Closes a socket. -/
def Socket.hangUp (socket : Socket) : IO Unit := do
  match ← socket.stream.get with
  | some stream =>
    socket.stream.set none
    socket.incoming.set none
    try stream.shutdown.block
    catch _ => return
  | none => return

/-- The network of a socket. -/
def Socket.network (socket : Socket) : Mqtt.Network IO where
  clock := IO.monoNanosNow
  reach := socket.reach
  receive := socket.receive
  transmit := socket.transmit
  hangUp := socket.hangUp

/-- A socket that is not open. -/
def Socket.new (broker : Broker.Address) : IO Socket := do
  return ⟨broker, ← IO.mkRef none, ← IO.mkRef none⟩

end LiveBoard.Live
