import LiveBoard.Board.Grid
import LiveBoard.Json.Reader
import LiveBoard.Text.Quoted

/-!
# Board messages

A message is a JSON object with two optional members: `board`, eight arrays of eight numbers, and
`timestamp`, a number. `Update.decode` reads a payload all or nothing. The text is parsed as a whole
first, then the members are read, `board` before `timestamp`, and the first misfit is the error.
A `null` member counts as absent, other members are ignored, and a square is occupied when its
number is not zero.
-/

set_option autoImplicit false
set_option relaxedAutoImplicit false

namespace LiveBoard.Board

open Json

/-- What a place in a message has to hold. -/
inductive Expected
  /-- An array of eight. -/
  | eight
  /-- A number. -/
  | number
  deriving DecidableEq, Repr

/-- The wording of an expectation. -/
def Expected.describe : Expected → String
  | .eight => "an array of length 8"
  | .number => "a JSON number"

/-- How a member differs from what it has to be. -/
inductive Misfit
  /-- A value of the wrong kind. -/
  | wrongKind (found : Value) (expected : Expected)
  /-- An array that ends after this many items. -/
  | tooShort (length : Nat)
  /-- An array that goes on to this many items. -/
  | tooLong (length : Nat)
  deriving Repr

/-- The wording of a value in an error. -/
def describeValue : Value → String
  | .null => "null"
  | .bool value => s!"boolean `{value}`"
  | .number (.double value) => s!"floating point `{String.ofList value.text}`"
  | .number value => s!"integer `{String.ofList value.text}`"
  | .string text => s!"string {String.ofList (Text.quote text)}"
  | .array _ => "sequence"
  | .object _ => "map"

/-- The wording of a misfit. -/
def Misfit.message : Misfit → String
  | .wrongKind found expected =>
    s!"invalid type: {describeValue found}, expected {expected.describe}"
  | .tooShort length => s!"invalid length {length}, expected {Expected.eight.describe}"
  | .tooLong length => s!"invalid length {length}, expected fewer elements in array"

/-- Why a payload was not decoded. -/
inductive DecodeError
  /-- The payload is no JSON text. -/
  | syntaxFault (fault : Fault) (place : Place)
  /-- The payload is a JSON text whose value is no object. -/
  | notAnObject
  /-- A member does not have the form of a board or a timestamp. -/
  | misfit (cause : Misfit)
  deriving Repr

/-- The wording of a decoding error. -/
def DecodeError.message : DecodeError → String
  | .syntaxFault fault place => s!"malformed board payload: {place.describe fault}"
  | .notAnObject => "board payload is not a JSON object"
  | .misfit cause => s!"malformed board payload: {cause.message}"

/-- What a message changes; an absent part leaves the board as it is. -/
structure Update where
  /-- The grid that replaces the one shown. -/
  grid : Option Grid
  /-- The timestamp that replaces the one shown. -/
  timestamp : Option Number
  deriving DecidableEq, Repr

/-- Whether an update changes nothing. -/
def Update.isEmpty (update : Update) : Bool := update.grid.isNone && update.timestamp.isNone

/-- Reads a number. -/
def readNumberValue : Value → Except Misfit Number
  | .number value => .ok value
  | value => .error (.wrongKind value .number)

/-- Reads an array of eight, each item by `read`. The items that are there are read first, up to
the eighth, so that their misfits come before one of the length. -/
def readEight {α : Type} (read : Value → Except Misfit α) :
    Value → Except Misfit (Vector α boardSize)
  | .array items => do
    let found ← (items.take boardSize).mapM read
    if h : found.toArray.size = boardSize then
      if items.length = boardSize then .ok ⟨found.toArray, h⟩ else .error (.tooLong items.length)
    else .error (.tooShort found.length)
  | value => .error (.wrongKind value .eight)

/-- Whether a number stands for a piece. -/
def standsForPiece (value : Number) : Bool := !value.isZero

/-- Reads a board. -/
def readGrid (value : Value) : Except Misfit Grid := do
  let rows ← readEight (readEight readNumberValue) value
  return ⟨rows.map fun row ↦ row.map standsForPiece⟩

/-- Reads a member by `read` where it is present and not null. -/
def readMember {α : Type} (read : Value → Except Misfit α) :
    Option Value → Except Misfit (Option α)
  | none => .ok none
  | some .null => .ok none
  | some value => (read value).map some

/-- Reads the members of a message. -/
def Update.ofMembers (members : List (List Char × Value)) : Except Misfit Update := do
  let grid ← readMember readGrid (lastMember? "board".toList members)
  let timestamp ← readMember readNumberValue (lastMember? "timestamp".toList members)
  return ⟨grid, timestamp⟩

/-- Decodes a payload. -/
def Update.decode (payload : List UInt8) : Except DecodeError Update :=
  match parse payload with
  | .error stop => .error (.syntaxFault stop.fault (.ofStop payload stop))
  | .ok (.object members) => (Update.ofMembers members).mapError DecodeError.misfit
  | .ok _ => .error .notAnObject

end LiveBoard.Board
