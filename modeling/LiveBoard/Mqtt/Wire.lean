import LiveBoard.Mqtt.Packet
import LiveBoard.Text.Utf8

/-!
# Packets as bytes

A packet starts with a byte for its kind and flags and the length of its contents, in seven bits a
byte with the lowest first; a set eighth bit tells that another byte follows, up to four. Numbers
take two bytes, and texts are preceded by their length in bytes.
-/

set_option autoImplicit false
set_option relaxedAutoImplicit false

namespace LiveBoard.Mqtt

/-! ### Writing -/

/-- The bytes of a length. -/
def writeLength (length : Nat) : List UInt8 :=
  if length < 128 then [.ofNat length]
  else .ofNat (length % 128 + 128) :: writeLength (length / 128)

/-- The two bytes of a number. -/
def writeNumber (number : Nat) : List UInt8 := [.ofNat (number / 256), .ofNat number]

/-- The bytes of a text with its length in front. -/
def writeText (text : String) : List UInt8 :=
  let bytes := Text.encodeString text
  writeNumber bytes.length ++ bytes

/-- The bytes of a packet with a first byte and contents. -/
def writeFramed (first : UInt8) (contents : List UInt8) : List UInt8 :=
  first :: writeLength contents.length ++ contents

/-- The bytes of a packet. A connection starts a clean session at level four of the protocol. -/
def Sent.bytes : Sent → List UInt8
  | .connect client keepAlive =>
    writeFramed 0x10 (writeText "MQTT" ++ [4, 2] ++ writeNumber keepAlive ++ writeText client)
  | .pubAck number => writeFramed 0x40 (writeNumber number)
  | .pubRec number => writeFramed 0x50 (writeNumber number)
  | .pubComp number => writeFramed 0x70 (writeNumber number)
  | .subscribe number topic => writeFramed 0x82 (writeNumber number ++ writeText topic ++ [0])
  | .unsubscribe number topic => writeFramed 0xA2 (writeNumber number ++ writeText topic)
  | .pingReq => writeFramed 0xC0 []
  | .disconnect => writeFramed 0xE0 []

/-! ### Reading -/

/-- Reads a byte. -/
def readByte : List UInt8 → Except PacketError (Nat × List UInt8)
  | byte :: rest => .ok (byte.toNat, rest)
  | [] => .error .malformed

/-- Reads a number. -/
def readNumber : List UInt8 → Except PacketError (Nat × List UInt8)
  | high :: low :: rest => .ok (high.toNat * 256 + low.toNat, rest)
  | _ => .error .malformed

/-- Reads a topic. -/
def readTopic (bytes : List UInt8) : Except PacketError (List Char × List UInt8) := do
  let (length, rest) ← readNumber bytes
  if rest.length < length then throw (.boundaryCrossed length)
  match Text.decodeText? (rest.take length) with
  | some topic => return (topic, rest.drop length)
  | none => throw .topicNotUtf8

/-- Reads a message whose first byte has given flags. -/
def readPublication (flags : Nat) (contents : List UInt8) : Except PacketError Publication := do
  let qualityNumber := flags / 2 % 4
  let quality ← match Quality.ofNumber? qualityNumber with
    | some quality => pure quality
    | none => throw (.invalidQuality qualityNumber)
  let (topic, rest) ← readTopic contents
  let (number, payload) ← if quality = .atMostOnce then pure (0, rest) else readNumber rest
  if quality ≠ .atMostOnce ∧ number = 0 then throw .numberZero
  return ⟨topic, payload, quality, number, flags % 2 = 1, flags / 8 % 2 = 1⟩

/-- Reads the answer to one subscription. -/
def readGrant (byte : UInt8) : Except PacketError Grant :=
  if byte = 128 then .ok none
  else
    match Quality.ofNumber? byte.toNat with
    | some quality => .ok (some quality)
    | none => .error (.invalidGrant byte.toNat)

/-- Reads the answer to a connection. -/
def readConnAck (contents : List UInt8) : Except PacketError Packet := do
  let (_, rest) ← readByte contents
  let (code, _) ← readByte rest
  match ReturnCode.all[code]? with
  | some code => return .connAck code
  | none => throw (.invalidReturnCode code)

/-- Reads the answer to subscriptions. -/
def readSubAck (contents : List UInt8) : Except PacketError Packet := do
  let (number, codes) ← readNumber contents
  if codes.isEmpty then throw .malformed
  return .subAck number (← codes.mapM readGrant)

/-- Reads the contents of a packet of a kind with flags. -/
def readContents (kind flags : Nat) (contents : List UInt8) : Except PacketError Packet := do
  match kind with
  | 1 => return .connect
  | 2 => readConnAck contents
  | 3 => return .publish (← readPublication flags contents)
  | 4 => return .pubAck (← readNumber contents).1
  | 5 => return .pubRec (← readNumber contents).1
  | 6 => return .pubRel (← readNumber contents).1
  | 7 => return .pubComp (← readNumber contents).1
  | 8 => return .subscribe
  | 9 => readSubAck contents
  | 10 => return .unsubscribe
  | 11 =>
    if contents.length ≠ 2 then throw .wrongLength
    return .unsubAck (← readNumber contents).1
  | 12 => return .pingReq
  | 13 => return .pingResp
  | _ => return .disconnect

/-- Reads a packet of a kind without contents. -/
def readEmpty : Nat → Except PacketError Packet
  | 12 => .ok .pingReq
  | 13 => .ok .pingResp
  | 14 => .ok .disconnect
  | _ => .error .contentsRequired

/-- Reads a packet with a first byte and contents. -/
def readPacket (first : UInt8) (contents : List UInt8) : Except PacketError Packet :=
  let kind := first.toNat / 16
  if kind = 0 ∨ kind = 15 then .error (.invalidKind kind)
  else if contents.isEmpty then readEmpty kind
  else readContents kind (first.toNat % 16) contents

/-- Reads a length of at most a number of further bytes, none where bytes are missing. -/
def readLength : Nat → List UInt8 → Except PacketError (Option (Nat × List UInt8))
  | 0, _ => .error .malformedLength
  | _, [] => .ok none
  | places + 1, byte :: rest =>
    if byte.toNat < 128 then .ok (some (byte.toNat, rest))
    else do
      match ← readLength places rest with
      | some (higher, rest) => return some (byte.toNat % 128 + 128 * higher, rest)
      | none => return none

/-- The longest contents that are accepted. -/
def contentsLimit : Nat := 10 * 1024

/-- What stands at the start of received bytes. -/
inductive Framed
  /-- The bytes end inside a packet. -/
  | incomplete
  /-- A packet, and the bytes after it. -/
  | packet (packet : Packet) (rest : List UInt8)
  /-- No packet. -/
  | fault (error : PacketError)
  deriving DecidableEq, Repr

/-- Reads the packet at the start of received bytes. -/
def frame (bytes : List UInt8) : Framed :=
  match bytes with
  | first :: rest =>
    match readLength 4 rest with
    | .error error => .fault error
    | .ok none => .incomplete
    | .ok (some (length, rest)) =>
      if contentsLimit < length then .fault (.tooLong length)
      else if rest.length < length then .incomplete
      else
        match readPacket first (rest.take length) with
        | .ok packet => .packet packet (rest.drop length)
        | .error error => .fault error
  | [] => .incomplete

end LiveBoard.Mqtt
