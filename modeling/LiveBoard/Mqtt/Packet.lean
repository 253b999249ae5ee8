import LiveBoard.Feed.Source

/-!
# MQTT packets

The control packets of MQTT 3.1.1, as far as a subscriber sends and receives them. Packets that only
a client may send are known when they are received, without their contents.
-/

set_option autoImplicit false
set_option relaxedAutoImplicit false

namespace LiveBoard.Mqtt

/-- How often a message is delivered. -/
inductive Quality
  | atMostOnce
  | atLeastOnce
  | exactlyOnce
  deriving DecidableEq, Repr

/-- The name of a quality. -/
def Quality.name : Quality → String
  | .atMostOnce => "AtMostOnce"
  | .atLeastOnce => "AtLeastOnce"
  | .exactlyOnce => "ExactlyOnce"

/-- The quality of a number. -/
def Quality.ofNumber? : Nat → Option Quality
  | 0 => some .atMostOnce
  | 1 => some .atLeastOnce
  | 2 => some .exactlyOnce
  | _ => none

/-- How a broker answers a connection. -/
inductive ReturnCode
  | success
  | refusedProtocolVersion
  | badClientId
  | serviceUnavailable
  | badUserNamePassword
  | notAuthorized
  deriving DecidableEq, Repr

/-- The name of a return code. -/
def ReturnCode.name : ReturnCode → String
  | .success => "Success"
  | .refusedProtocolVersion => "RefusedProtocolVersion"
  | .badClientId => "BadClientId"
  | .serviceUnavailable => "ServiceUnavailable"
  | .badUserNamePassword => "BadUserNamePassword"
  | .notAuthorized => "NotAuthorized"

/-- All return codes, in the order of their numbers. -/
def ReturnCode.all : List ReturnCode :=
  [.success, .refusedProtocolVersion, .badClientId, .serviceUnavailable, .badUserNamePassword,
    .notAuthorized]

/-- The answer to one subscription: the quality granted, none if it was refused. -/
abbrev Grant := Option Quality

/-- A message on a topic. -/
structure Publication where
  /-- Its topic. -/
  topic : List Char
  /-- What it carries. -/
  payload : Feed.Payload
  /-- How often it is delivered. -/
  quality : Quality
  /-- Its number, zero where it is delivered at most once. -/
  number : Nat
  /-- Whether it was kept by the broker. -/
  retained : Bool
  /-- Whether it was sent before. -/
  duplicate : Bool
  deriving DecidableEq, Repr

/-- A packet that is received. -/
inductive Packet
  | connect
  | connAck (code : ReturnCode)
  | publish (publication : Publication)
  | pubAck (number : Nat)
  | pubRec (number : Nat)
  | pubRel (number : Nat)
  | pubComp (number : Nat)
  | subscribe
  | subAck (number : Nat) (grants : List Grant)
  | unsubscribe
  | unsubAck (number : Nat)
  | pingReq
  | pingResp
  | disconnect
  deriving DecidableEq, Repr

/-- A packet that is sent. -/
inductive Sent
  | connect (client : String) (keepAlive : Nat)
  | pubAck (number : Nat)
  | pubRec (number : Nat)
  | pubComp (number : Nat)
  | subscribe (number : Nat) (topic : String)
  | unsubscribe (number : Nat) (topic : String)
  | pingReq
  | disconnect
  deriving DecidableEq, Repr

/-- A text between braces. -/
def braced (text : String) : String := "\x7b " ++ text ++ " \x7d"

/-- A packet that holds a number alone, as error texts show it. -/
def describeNumbered (name : String) (number : Nat) : String :=
  s!"{name}({name} " ++ braced s!"pkid: {number}" ++ ")"

/-- A grant as error texts show it. -/
def describeGrant : Grant → String
  | some quality => s!"Success({quality.name})"
  | none => "Failure"

/-- A message as error texts show it. -/
def Publication.describe (publication : Publication) : String :=
  s!"Topic = {String.ofList publication.topic}, Retain = {publication.retained}, " ++
    s!"Qos = {publication.quality.name}, Pkid = {publication.number}, " ++
    s!"Payload Size = {publication.payload.length}"

/-- A packet as error texts show it. -/
def Packet.describe : Packet → String
  | .connect => "Connect"
  | .connAck code =>
    "ConnAck(ConnAck " ++ braced s!"session_present: false, code: {code.name}" ++ ")"
  | .publish publication => s!"Publish({publication.describe})"
  | .pubAck number => describeNumbered "PubAck" number
  | .pubRec number => describeNumbered "PubRec" number
  | .pubRel number => describeNumbered "PubRel" number
  | .pubComp number => describeNumbered "PubComp" number
  | .subscribe => "Subscribe"
  | .subAck number grants =>
    let codes := ", ".intercalate (grants.map describeGrant)
    "SubAck(SubAck " ++ braced s!"pkid: {number}, return_codes: [{codes}]" ++ ")"
  | .unsubscribe => "Unsubscribe"
  | .unsubAck number => describeNumbered "UnsubAck" number
  | .pingReq => "PingReq"
  | .pingResp => "PingResp"
  | .disconnect => "Disconnect"

/-- Why bytes are no packet. -/
inductive PacketError
  /-- The length takes more than four bytes. -/
  | malformedLength
  /-- The packet is longer than accepted. -/
  | tooLong (length : Nat)
  /-- The kind of the packet is reserved. -/
  | invalidKind (kind : Nat)
  /-- A packet that needs contents has none. -/
  | contentsRequired
  /-- A field is cut short. -/
  | malformed
  /-- A text is longer than what is left of the packet. -/
  | boundaryCrossed (length : Nat)
  /-- A topic is no UTF-8. -/
  | topicNotUtf8
  /-- The number for the quality is reserved. -/
  | invalidQuality (number : Nat)
  /-- The number of a message that needs one is zero. -/
  | numberZero
  /-- The return code is reserved. -/
  | invalidReturnCode (code : Nat)
  /-- The answer to a subscription is reserved. -/
  | invalidGrant (code : Nat)
  /-- The contents of a packet have the wrong length. -/
  | wrongLength
  deriving DecidableEq, Repr

/-- The wording of an error. -/
def PacketError.message : PacketError → String
  | .malformedLength => "Malformed remaining length"
  | .tooLong length => s!"payload size limit exceeded: {length}"
  | .invalidKind kind => s!"Invalid packet type: {kind}"
  | .contentsRequired => "Payload required"
  | .malformed => "Malformed packet"
  | .boundaryCrossed length => s!"Promised boundary crossed: {length}"
  | .topicNotUtf8 => "Topic is not UTF-8"
  | .invalidQuality number => s!"Invalid QoS level: {number}"
  | .numberZero => "Packet id Zero"
  | .invalidReturnCode code => s!"Invalid Connect return code: {code}"
  | .invalidGrant code => s!"Invalid subscribe reason code: {code}"
  | .wrongLength => "Payload size is incorrect"

end LiveBoard.Mqtt
