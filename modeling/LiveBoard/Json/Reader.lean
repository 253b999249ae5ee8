import LiveBoard.Json.StringReader

/-!
# Reading JSON texts

`parse` reads one value and requires that only blanks follow it. Every bracket that is open takes a
level, and at most `levelLimit` may be open at once. The readers of values, items and members call
each other with a fuel that each call lowers; a value needs twice the number of unread bytes and
one, since a bracket takes a byte and two calls.
-/

set_option autoImplicit false
set_option relaxedAutoImplicit false

namespace LiveBoard.Json

/-- Whether a byte may stand between tokens. -/
def isBlank (b : UInt8) : Bool := b == 0x20 || b == 0x0A || b == 0x09 || b == 0x0D

/-- The bytes from the next token on. -/
def skipBlanks (bytes : List UInt8) : List UInt8 := bytes.dropWhile isBlank

/-- The number of brackets that may be open at once. -/
def levelLimit : Nat := 127

/-- Reads the letters of a word after its first. -/
def readWord (value : Value) : List UInt8 → List UInt8 → Reading Value
  | [], bytes => .ok (value, bytes)
  | _ :: _, [] => .error (.here .endInValue [])
  | letter :: word, b :: rest =>
    if b == letter then readWord value word rest else .error (.here .wordExpected rest)

/-- The bytes of an ASCII word. -/
def wordBytes (word : String) : List UInt8 := word.toList.map Char.toUInt8

/-- Reads a value that is neither a string nor bracketed, from its first byte on. -/
def readScalar (bytes : List UInt8) : Reading Value :=
  match bytes with
  | [] => .error (.peek .endInValue [])
  | b :: rest =>
    if b == 'n'.toUInt8 then readWord .null (wordBytes "ull") rest
    else if b == 't'.toUInt8 then readWord (.bool true) (wordBytes "rue") rest
    else if b == 'f'.toUInt8 then readWord (.bool false) (wordBytes "alse") rest
    else if b == '-'.toUInt8 then (readNumber true rest).map fun read ↦ (.number read.1, read.2)
    else if isDigit b then (readNumber false bytes).map fun read ↦ (.number read.1, read.2)
    else .error (.peek .valueExpected bytes)

/-- Reads the colon between a key and its value. -/
def readColon (bytes : List UInt8) : Except Stop (List UInt8) :=
  match skipBlanks bytes with
  | [] => .error (.peek .endInObject [])
  | b :: rest => if b == ':'.toUInt8 then .ok rest else .error (.peek .colonExpected (b :: rest))

/-- What stands at the place of the next item of a list. -/
inductive Upcoming
  /-- The list is closed before the bytes `rest`. -/
  | closed (rest : List UInt8)
  /-- An item starts the bytes `rest`. -/
  | item (rest : List UInt8)

/-- Finds the next item of an array; `first` tells that none was read yet. -/
def nextItem (first : Bool) (bytes : List UInt8) : Except Stop Upcoming :=
  match skipBlanks bytes with
  | [] => .error (.peek .endInList [])
  | b :: rest =>
    if b == ']'.toUInt8 then .ok (.closed rest)
    else if first then .ok (.item (b :: rest))
    else if b == ','.toUInt8 then
      match skipBlanks rest with
      | [] => .error (.peek .endInValue [])
      | c :: rest =>
        if c == ']'.toUInt8 then .error (.peek .trailingComma (c :: rest))
        else .ok (.item (c :: rest))
    else .error (.peek .listCommaExpected (b :: rest))

/-- Finds the next member of an object, whose key's opening quote is consumed; `first` tells that
none was read yet. -/
def nextMember (first : Bool) (bytes : List UInt8) : Except Stop Upcoming :=
  match skipBlanks bytes with
  | [] => .error (.peek .endInObject [])
  | b :: rest =>
    if b == '}'.toUInt8 then .ok (.closed rest)
    else if first then
      if b == '"'.toUInt8 then .ok (.item rest) else .error (.peek .keyNotString (b :: rest))
    else if b == ','.toUInt8 then
      match skipBlanks rest with
      | [] => .error (.peek .endInValue [])
      | c :: rest =>
        if c == '"'.toUInt8 then .ok (.item rest)
        else if c == '}'.toUInt8 then .error (.peek .trailingComma (c :: rest))
        else .error (.peek .keyNotString (c :: rest))
    else .error (.peek .objectCommaExpected (b :: rest))

mutual

/-- Reads a value with `levels` brackets left to open. -/
def readValue : Nat → Nat → List UInt8 → Reading Value
  | 0, _, bytes => .error (.peek .endInValue bytes)
  | fuel + 1, levels, bytes =>
    match skipBlanks bytes with
    | [] => .error (.peek .endInValue [])
    | b :: rest =>
      if b == '"'.toUInt8 then (readString fuel rest).map fun read ↦ (.string read.1, read.2)
      else if b == '['.toUInt8 then
        match levels with
        | 0 => .error (.peek .tooDeep (b :: rest))
        | levels + 1 => readItems fuel levels [] rest
      else if b == '{'.toUInt8 then
        match levels with
        | 0 => .error (.peek .tooDeep (b :: rest))
        | levels + 1 => readMembers fuel levels [] rest
      else readScalar (b :: rest)

/-- Reads the items of an array up to its end; `read` holds those read so far in reverse. -/
def readItems : Nat → Nat → List Value → List UInt8 → Reading Value
  | 0, _, _, bytes => .error (.peek .endInList bytes)
  | fuel + 1, levels, read, bytes =>
    match nextItem read.isEmpty bytes with
    | .error stop => .error stop
    | .ok (.closed rest) => .ok (.array read.reverse, rest)
    | .ok (.item rest) =>
      match readValue fuel levels rest with
      | .error stop => .error stop
      | .ok (item, rest) => readItems fuel levels (item :: read) rest

/-- Reads the members of an object up to its end; `read` holds those read so far in reverse. -/
def readMembers : Nat → Nat → List (List Char × Value) → List UInt8 → Reading Value
  | 0, _, _, bytes => .error (.peek .endInObject bytes)
  | fuel + 1, levels, read, bytes =>
    match nextMember read.isEmpty bytes with
    | .error stop => .error stop
    | .ok (.closed rest) => .ok (.object read.reverse, rest)
    | .ok (.item rest) =>
      match readString fuel rest with
      | .error stop => .error stop
      | .ok (key, rest) =>
        match readColon rest with
        | .error stop => .error stop
        | .ok rest =>
          match readValue fuel levels rest with
          | .error stop => .error stop
          | .ok (value, rest) => readMembers fuel levels ((key, value) :: read) rest

end

/-- The fuel with which a value is read. -/
def fuelFor (bytes : List UInt8) : Nat := 2 * bytes.length + 1

/-- Reads a text that holds one value. -/
def parse (bytes : List UInt8) : Except Stop Value :=
  match readValue (fuelFor bytes) levelLimit bytes with
  | .error stop => .error stop
  | .ok (value, rest) =>
    match skipBlanks rest with
    | [] => .ok value
    | b :: rest => .error (.peek .trailingCharacters (b :: rest))

end LiveBoard.Json
