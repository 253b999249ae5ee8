import LiveBoard.Json.NumberReader
import LiveBoard.Text.Utf8

/-!
# Reading JSON strings

The bytes of a string are collected with its escapes resolved, and checked to be UTF-8 at the
closing quote. `readEscape` reads one escape after its backslash: a letter, or four hexadecimal
digits that name a code unit, two of them for a character outside the basic plane.
-/

set_option autoImplicit false
set_option relaxedAutoImplicit false

namespace LiveBoard.Json

/-- The value of a hexadecimal digit. -/
def hexValue? (b : UInt8) : Option Nat :=
  if isDigit b then some (digitValue b)
  else if 0x61 ≤ b && b ≤ 0x66 then some (b.toNat - 0x61 + 10)
  else if 0x41 ≤ b && b ≤ 0x46 then some (b.toNat - 0x41 + 10)
  else none

/-- The code unit of four hexadecimal digits. -/
def codeUnit? (a b c d : UInt8) : Option Nat := do
  let a ← hexValue? a
  let b ← hexValue? b
  let c ← hexValue? c
  let d ← hexValue? d
  return ((a * 16 + b) * 16 + c) * 16 + d

/-- Reads the four digits of a code unit. -/
def readCodeUnit : List UInt8 → Reading Nat
  | a :: b :: c :: d :: rest =>
    match codeUnit? a b c d with
    | some unit => .ok (unit, rest)
    | none => .error (.here .badEscape rest)
  | _ => .error (.here .endInString [])

/-- Whether a code unit is the first of a pair. -/
def isLeadingSurrogate (unit : Nat) : Bool := 0xD800 ≤ unit && unit ≤ 0xDBFF

/-- Whether a code unit is the second of a pair. -/
def isTrailingSurrogate (unit : Nat) : Bool := 0xDC00 ≤ unit && unit ≤ 0xDFFF

/-- The code point of a pair. -/
def pairedCodePoint (leading trailing : Nat) : Nat :=
  (leading - 0xD800) * 0x400 + (trailing - 0xDC00) + 0x10000

/-- Reads one given byte of a pair of escapes. -/
def readPairByte (expected : UInt8) : List UInt8 → Except Stop (List UInt8)
  | [] => .error (.here .endInString [])
  | b :: rest => if b == expected then .ok rest else .error (.here .surrogatePairCut rest)

/-- Reads the second half of a pair after the first. -/
def readPairEnd (leading : Nat) (bytes : List UInt8) : Except Stop (List UInt8 × List UInt8) := do
  let rest ← readPairByte '\\'.toUInt8 bytes
  let rest ← readPairByte 'u'.toUInt8 rest
  let (trailing, rest) ← readCodeUnit rest
  if isTrailingSurrogate trailing then
    return (Text.encodeChar (Char.ofNat (pairedCodePoint leading trailing)), rest)
  else throw (.here .loneSurrogate rest)

/-- Reads a code point escape after its `u`. -/
def readCodePoint (bytes : List UInt8) : Except Stop (List UInt8 × List UInt8) := do
  let (unit, rest) ← readCodeUnit bytes
  if isTrailingSurrogate unit then throw (.here .loneSurrogate rest)
  else if isLeadingSurrogate unit then readPairEnd unit rest
  else return (Text.encodeChar (Char.ofNat unit), rest)

/-- The byte that a letter escape stands for. -/
def letterEscape? (b : UInt8) : Option UInt8 :=
  if b == '"'.toUInt8 then some 0x22
  else if b == '\\'.toUInt8 then some 0x5C
  else if b == '/'.toUInt8 then some 0x2F
  else if b == 'b'.toUInt8 then some 0x08
  else if b == 'f'.toUInt8 then some 0x0C
  else if b == 'n'.toUInt8 then some 0x0A
  else if b == 'r'.toUInt8 then some 0x0D
  else if b == 't'.toUInt8 then some 0x09
  else none

/-- Reads an escape after its backslash, as the bytes it stands for. -/
def readEscape : List UInt8 → Reading (List UInt8)
  | [] => .error (.here .endInString [])
  | b :: rest =>
    if b == 'u'.toUInt8 then readCodePoint rest
    else match letterEscape? b with
      | some byte => .ok ([byte], rest)
      | none => .error (.here .badEscape rest)

/-- The text of the bytes of a string whose closing quote is followed by `rest`. The report of
bytes that are not UTF-8 is moved back by the bytes from the first bad one on. -/
def finishString (bytes rest : List UInt8) : Reading (List Char) :=
  match Text.decodePrefix bytes with
  | (text, []) => .ok (text, rest)
  | (_, bad) => .error ⟨.badCodePoint, rest.length, bad.length⟩

/-- Reads the rest of a string; `read` holds its bytes read so far in reverse. Every step takes at
least one byte, so a fuel above the number of bytes suffices. -/
def readStringOnto : Nat → List UInt8 → List UInt8 → Reading (List Char)
  | 0, _, bytes => .error (.here .endInString bytes)
  | _ + 1, _, [] => .error (.here .endInString [])
  | fuel + 1, read, b :: rest =>
    if b == '"'.toUInt8 then finishString read.reverse rest
    else if b == '\\'.toUInt8 then
      match readEscape rest with
      | .ok (escaped, rest) => readStringOnto fuel (escaped.reverse ++ read) rest
      | .error stop => .error stop
    else if b < 0x20 then .error (.here .controlCharacter rest)
    else readStringOnto fuel (b :: read) rest

/-- Reads a string after its opening quote. -/
def readString (fuel : Nat) (bytes : List UInt8) : Reading (List Char) :=
  readStringOnto fuel [] bytes

end LiveBoard.Json
