import LiveBoard.Broker.Host
import LiveBoard.Log.File
import LiveBoard.Mqtt.Network

/-!
# Isolation

A machine that is cut off reaches no broker, and not even itself. Why it does not is decided by the
host of the broker: an address is known but no way leads there, and a name would have to be asked
for. `Peer.isolated` is the network of such a machine.
-/

set_option autoImplicit false
set_option relaxedAutoImplicit false

namespace LiveBoard.Mqtt

open Broker (HostKind)

/-- The reason given where no network leads to an address. -/
def unreachableReason : String := Log.systemText "Network is unreachable" 101

/-- The reason given where a machine has no address of its own to send from. -/
def noAddressReason : String := Log.systemText "Cannot assign requested address" 99

/-- The reason given where an address does not tell which of several networks it belongs to. -/
def noScopeReason : String := Log.systemText "Invalid argument" 22

/-- The reason given for an address of eight groups, by its groups. An address of many machines is
never connected to, and one that stands for four bytes is treated like these. -/
def groupsReason (groups : List Nat) : String :=
  let first := groups.headD 0
  if 0xFF00 ≤ first then unreachableReason
  else if groups.take 6 = [0, 0, 0, 0, 0, 0xFFFF] then unreachableReason
  else if 0xFE80 ≤ first && first < 0xFEC0 then noScopeReason
  else noAddressReason

/-- Why a machine that is cut off does not reach a host. -/
def isolationReason (host : List Char) : String :=
  match HostKind.of host with
  | .itself => unreachableReason
  | .fourBytes => unreachableReason
  | .eightGroups groups => groupsReason groups
  | .name => lookupReason unansweredText
  | .malformed => lookupReason unknownHostText

/-- The network of a machine that is cut off. -/
def Peer.isolated : Peer Unit where
  reach _ broker _ := (.refused (isolationReason broker.host), 0, ())
  receive _ _ := (.closed, 0, ())
  transmit _ _ := ()
  hangUp _ := ()

end LiveBoard.Mqtt
