import LiveBoard.Text.Decimal
import LiveBoard.Text.WhiteSpace

/-!
# Broker addresses

An address is a host and a port. It is written `host`, `host:port`, `[host]` or `[host]:port`, with
white space around it ignored; the brackets are for hosts that hold colons, and a text without
brackets that has two colons or more is a host as a whole. Without a port the address has the
default one.
-/

set_option autoImplicit false
set_option relaxedAutoImplicit false

namespace LiveBoard.Broker

/-- A host and a port. -/
structure Address where
  /-- The host, without brackets. -/
  host : List Char
  /-- The port. -/
  port : Nat
  deriving DecidableEq, Repr

/-- The port of a broker without encryption. -/
def defaultPort : Nat := 1883

/-- The host that is used where none is given. -/
def defaultHost : List Char := "localhost".toList

/-- The address that is used where none is given. -/
def Address.standard : Address := ⟨defaultHost, defaultPort⟩

/-- The text of an address; a host that holds a colon stands in brackets. -/
def Address.text (address : Address) : List Char :=
  let port := Nat.toDigits 10 address.port
  if ':' ∈ address.host then '[' :: address.host ++ ']' :: ':' :: port
  else address.host ++ ':' :: port

/-- Why a text is no address. -/
inductive AddressError
  /-- Nothing stands where the host has to be. -/
  | emptyHost
  /-- The port is no number up to 65535. -/
  | invalidPort (text : List Char)
  /-- A bracket is not closed, or followed by something that is no port. -/
  | unbalanced (text : List Char)
  deriving DecidableEq, Repr

/-- The wording of an error. -/
def AddressError.message : AddressError → String
  | .emptyHost => "broker host is empty"
  | .invalidPort text => s!"invalid broker port `{String.ofList text}`"
  | .unbalanced text => s!"malformed bracketed address `{String.ofList text}`"

/-- The largest port. -/
def portLimit : Nat := 65535

/-- Reads a port: decimal digits, with a plus sign in front or not. -/
def readPort (text : List Char) : Except AddressError Nat :=
  match Text.unsigned? text with
  | some port => if port ≤ portLimit then .ok port else .error (.invalidPort text)
  | none => .error (.invalidPort text)

/-- A text cut at the first occurrence of a character, which is in neither part. -/
def cutAt? (mark : Char) (text : List Char) : Option (List Char × List Char) :=
  match text.dropWhile (· != mark) with
  | _ :: after => some (text.takeWhile (· != mark), after)
  | [] => none

/-- The host part and the port part, if there is one, of a text without surrounding white space. -/
def split (text : List Char) : Except AddressError (List Char × Option (List Char)) :=
  match text with
  | '[' :: rest =>
    match cutAt? ']' rest with
    | some (host, []) => .ok (host, none)
    | some (host, ':' :: port) => .ok (host, some port)
    | _ => .error (.unbalanced text)
  | _ =>
    if text.count ':' = 1 then
      match cutAt? ':' text with
      | some (host, port) => .ok (host, some port)
      | none => .ok (text, none)
    else .ok (text, none)

/-- Reads an address. -/
def Address.parse (text : List Char) : Except AddressError Address := do
  let (host, port) ← split (Text.trim text)
  if host.isEmpty then throw .emptyHost
  match port with
  | none => return ⟨host, defaultPort⟩
  | some port => return ⟨host, ← readPort port⟩

end LiveBoard.Broker
