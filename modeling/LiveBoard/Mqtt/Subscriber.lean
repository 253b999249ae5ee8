import LiveBoard.Mqtt.Network
import LiveBoard.Mqtt.Session

/-!
# Subscribers

A subscriber is a session over the client of a network on states, which makes it a source of
messages.
-/

set_option autoImplicit false
set_option relaxedAutoImplicit false

namespace LiveBoard.Mqtt

open Feed

/-- A session, its connection and the state of its network. -/
structure Subscriber (ν : Type) where
  /-- The broker. -/
  broker : Broker.Address
  /-- The session. -/
  session : Session
  /-- The connection. -/
  connection : Connection
  /-- The state of the network. -/
  network : ν

/-- A subscriber before it is connected, if its settings are accepted. -/
def Subscriber.new {ν : Type} (client : String) (broker : Broker.Address)
    (settings : ListenerSettings) (network : ν) : Except String (Subscriber ν) := do
  return ⟨broker, .new broker settings, ← Connection.new client settings.keepAlive, network⟩

/-- Performs an operation on a client at a time. -/
def Subscriber.perform {ν α : Type} (subscriber : Subscriber ν) (now : Instant)
    (operation : StateT Linked (StateM (Instant × ν)) α) : Call α × Subscriber ν :=
  let ((result, linked), (later, network)) :=
    (operation ⟨subscriber.connection, #[]⟩).run (now, subscriber.network)
  (⟨later - now, result, linked.log.toList⟩,
    { subscriber with connection := linked.connection, network := network })

/-- Subscribers over a network as a kind of source. -/
def Subscriber.source {ν : Type} (peer : Peer ν) : Source (Subscriber ν) where
  connect subscriber now :=
    subscriber.perform now (subscriber.session.connect (peer.network subscriber.broker).client)
  poll subscriber context :=
    let (call, next) := subscriber.perform context.now
      (subscriber.session.poll (peer.network subscriber.broker).client context.timeout)
    let (result, session) := call.result
    (⟨false, false, call.lasts, .returns result, call.log⟩, { next with session := session })
  close subscriber now :=
    subscriber.perform now (subscriber.session.close (peer.network subscriber.broker).client)

end LiveBoard.Mqtt
