import LiveBoard.Broker.Address
import LiveBoard.Text.Numeral

/-!
# Hosts

The host of a broker is the address of a machine, written in numbers, or a name. `HostKind.of` tells
which one it is as far as its text goes: nobody is asked whether there is such a machine.
-/

set_option autoImplicit false
set_option relaxedAutoImplicit false

namespace LiveBoard.Broker

/-! ### Addresses of four bytes -/

/-- The length of an address of four bytes. -/
def addressBytes : Nat := 4

/-- Whether numbers make an address of four bytes. Each of them is a byte, but for the last one: it
takes all bytes that are left. -/
def fillsFourBytes (numbers : List Nat) : Bool :=
  let leading := numbers.dropLast
  leading.length < addressBytes && leading.all (· < 256) &&
    numbers.getLast?.any (· < Nat.pow 256 (addressBytes - leading.length))

/-- Whether a host is an address of four bytes: up to four numbers with points between them. -/
def isFourByteAddress (host : List Char) : Bool :=
  ((host.splitOn '.').mapM Text.markedNumeral?).any fillsFourBytes

/-! ### Addresses of eight groups -/

/-- The length of an address of eight groups. -/
def addressGroups : Nat := 8

/-- The value of a byte in decimal, without zeros in front. -/
def decimalByte? (digits : List Char) : Option Nat := do
  let value ← Text.decimal? digits
  if value < 256 && (digits.length == 1 || digits.head? != some '0') then return value else none

/-- The two groups of four bytes in decimal, with points between them. -/
def pointedGroups? (text : List Char) : Option (List Nat) :=
  match (text.splitOn '.').mapM decimalByte? with
  | some [a, b, c, d] => some [a * 256 + b, c * 256 + d]
  | _ => none

/-- The value of a group, which has up to four hexadecimal digits. -/
def group? (digits : List Char) : Option Nat :=
  if digits.length ≤ 4 then Text.numeral? 16 digits else none

/-- The groups of some texts. The last text may stand for two, as four bytes. -/
def joinGroups? : List (List Char) → Option (List Nat)
  | [] => some []
  | [text] => if text.contains '.' then pointedGroups? text else (group? text).map ([·])
  | text :: rest => do
    let group ← group? text
    let groups ← joinGroups? rest
    return group :: groups

/-- The groups of a text with colons between them, or none of an empty one. -/
def readGroups? (text : List Char) : Option (List Nat) :=
  if text.isEmpty then some [] else joinGroups? (text.splitOn ':')

/-- A text cut at its first two colons in a row, which are in neither part. -/
def cutAtGap? : List Char → Option (List Char × List Char)
  | [] => none
  | ':' :: ':' :: rest => some ([], rest)
  | c :: rest => (cutAtGap? rest).map fun (front, back) ↦ (c :: front, back)

/-- The groups of an address of eight groups. Two colons in a row stand for groups that are zero. -/
def eightGroups? (host : List Char) : Option (List Nat) :=
  match cutAtGap? host with
  | none => (readGroups? host).filter (·.length == addressGroups)
  | some (front, back) => do
    if front.contains '.' then none
    let front ← readGroups? front
    let back ← readGroups? back
    let count := front.length + back.length
    if count < addressGroups then
      return front ++ List.replicate (addressGroups - count) 0 ++ back
    else none

/-! ### Names -/

/-- The greatest length of a part of a name. -/
def labelLimit : Nat := 63

/-- The greatest length of a name. -/
def nameLimit : Nat := 253

/-- Whether a text may be a part of a name. -/
def isLabel (text : List Char) : Bool :=
  !text.isEmpty && text.length ≤ labelLimit &&
    text.all fun c ↦ c.isAlphanum || c == '-' || c == '_'

/-- Whether a host may be the name of a machine: parts with points between them. A point may stand
at its end, and no hyphen at its start. -/
def isHostName (host : List Char) : Bool :=
  let name := if host.getLast? == some '.' then host.dropLast else host
  host.head? != some '-' && name.length ≤ nameLimit &&
    (name.isEmpty || (name.splitOn '.').all isLabel)

/-! ### Kinds -/

/-- What a host is. -/
inductive HostKind
  /-- A name of the machine itself. -/
  | itself
  /-- An address of four bytes. -/
  | fourBytes
  /-- An address of eight groups. -/
  | eightGroups (groups : List Nat)
  /-- The name of another machine. -/
  | name
  /-- Something that no machine is called. -/
  | malformed
  deriving DecidableEq, Repr

/-- Whether a host is a name of the machine itself: the default host, in letters of either case, or
a star. -/
def isItself (host : List Char) : Bool := host.map Char.toLower == defaultHost || host == ['*']

/-- What a host is. -/
def HostKind.of (host : List Char) : HostKind :=
  if isItself host then .itself
  else if isFourByteAddress host then .fourBytes
  else
    match eightGroups? host with
    | some groups => .eightGroups groups
    | none => if isHostName host then .name else .malformed

end LiveBoard.Broker
