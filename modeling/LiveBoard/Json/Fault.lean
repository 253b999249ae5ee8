/-!
# Faults of a JSON text

A fault names what is wrong with a text, and a `Stop` adds where: the number of bytes that were
still unread when the fault was reported. `Place.ofStop` turns that into a line, counted from one,
and a column, the number of bytes since the last newline.
-/

set_option autoImplicit false
set_option relaxedAutoImplicit false

namespace LiveBoard.Json

/-- What is wrong with a text. -/
inductive Fault
  | endInValue
  | endInList
  | endInObject
  | endInString
  | valueExpected
  | wordExpected
  | colonExpected
  | listCommaExpected
  | objectCommaExpected
  | keyNotString
  | trailingComma
  | trailingCharacters
  | tooDeep
  | badNumber
  | numberOutOfRange
  | badEscape
  | controlCharacter
  | loneSurrogate
  | surrogatePairCut
  | badCodePoint
  deriving DecidableEq, Repr

/-- The wording of a fault. -/
def Fault.message : Fault → String
  | .endInValue => "EOF while parsing a value"
  | .endInList => "EOF while parsing a list"
  | .endInObject => "EOF while parsing an object"
  | .endInString => "EOF while parsing a string"
  | .valueExpected => "expected value"
  | .wordExpected => "expected ident"
  | .colonExpected => "expected `:`"
  | .listCommaExpected => "expected `,` or `]`"
  | .objectCommaExpected => "expected `,` or `\x7d`"
  | .keyNotString => "key must be a string"
  | .trailingComma => "trailing comma"
  | .trailingCharacters => "trailing characters"
  | .tooDeep => "recursion limit exceeded"
  | .badNumber => "invalid number"
  | .numberOutOfRange => "number out of range"
  | .badEscape => "invalid escape"
  | .controlCharacter => "control character (\\u0000-\\u001F) found while parsing a string"
  | .loneSurrogate => "lone leading surrogate in hex escape"
  | .surrogatePairCut => "unexpected end of hex escape"
  | .badCodePoint => "invalid unicode code point"

/-- A fault and the place where reading stopped. -/
structure Stop where
  /-- What is wrong. -/
  fault : Fault
  /-- The number of bytes after the reported place. -/
  unread : Nat
  /-- The number of columns by which the report is moved back. -/
  back : Nat
  deriving DecidableEq, Repr

/-- A fault at the first byte not yet consumed. -/
def Stop.here (fault : Fault) (rest : List UInt8) : Stop := ⟨fault, rest.length, 0⟩

/-- A fault just after the next byte, which was looked at and not consumed; at the end of the text
it is at the end. -/
def Stop.peek (fault : Fault) (rest : List UInt8) : Stop := ⟨fault, rest.length - 1, 0⟩

/-- A place in a text. -/
structure Place where
  /-- The line, counted from one. -/
  line : Nat
  /-- The number of bytes since the start of the line. -/
  column : Nat
  deriving DecidableEq, Repr

/-- The place of a stop in the text that was read. -/
def Place.ofStop (text : List UInt8) (stop : Stop) : Place :=
  let consumed := text.take (text.length - stop.unread)
  { line := 1 + consumed.count 10
    column := (consumed.reverse.takeWhile (· != 10)).length - stop.back }

/-- The wording of a fault at a place. -/
def Place.describe (place : Place) (fault : Fault) : String :=
  s!"{fault.message} at line {place.line} column {place.column}"

end LiveBoard.Json
