import LiveBoard.Json.Fault
import LiveBoard.Json.Value

/-!
# Reading JSON numbers

The digits of a number are gathered into a significand below `2 ^ 64` for as long as they fit. A
digit of the integer part that does not fit raises the exponent instead, a fraction digit that fits
lowers it, and a fraction digit that does not fit is dropped. A number without fraction and exponent
whose digits all fit stays an integer if its type can hold it; every other number is the double that
`Numeric.scaled?` gives.
-/

set_option autoImplicit false
set_option relaxedAutoImplicit false

namespace LiveBoard.Json

/-- A value that was read and the bytes after it, or the stop. -/
abbrev Reading (α : Type) := Except Stop (α × List UInt8)

/-- Whether a byte is a decimal digit. -/
def isDigit (b : UInt8) : Bool := 0x30 ≤ b && b ≤ 0x39

/-- The value of a digit. -/
def digitValue (b : UInt8) : Nat := b.toNat - 0x30

/-- The largest significand. -/
def largestNatural : Nat := Nat.pow 2 64 - 1

/-- The largest magnitude of a negative integer. -/
def largestNegative : Nat := Nat.pow 2 63

/-- The largest exponent; exponents saturate there and at its negative neighbour. -/
def largestExponent : Nat := Nat.pow 2 31 - 1

/-- Extends a significand by the digits that fit, with the bytes from the first one that does
not. -/
def gather : Nat → List UInt8 → Nat × List UInt8
  | significand, [] => (significand, [])
  | significand, b :: rest =>
    if isDigit b && significand * 10 + digitValue b ≤ largestNatural then
      gather (significand * 10 + digitValue b) rest
    else (significand, b :: rest)

/-- The bytes after a run of digits. -/
def skipDigits (bytes : List UInt8) : List UInt8 := bytes.dropWhile isDigit

/-- The number of digits at the start of a byte string. -/
def countDigits (bytes : List UInt8) : Nat := (bytes.takeWhile isDigit).length

/-- A sum of exponents within the range of exponents. -/
def saturated (exponent : Int) : Int :=
  max (-(largestExponent : Int) - 1) (min exponent largestExponent)

/-- The number of a sign, a significand and an exponent. -/
def finishDouble (negative : Bool) (significand : Nat) (exponent : Int) (rest : List UInt8) :
    Reading Number :=
  match Numeric.scaled? significand exponent with
  | some units => .ok (.double ⟨negative, units⟩, rest)
  | none => .error (.here .numberOutOfRange rest)

/-- Reads the remaining digits of an exponent onto those read so far; `none` reports that they grew
beyond every exponent, with the bytes after the digit that did it. -/
def readExponentDigits : Nat → List UInt8 → Option Nat × List UInt8
  | exponent, [] => (some exponent, [])
  | exponent, b :: rest =>
    if isDigit b then
      if exponent * 10 + digitValue b ≤ largestExponent then
        readExponentDigits (exponent * 10 + digitValue b) rest
      else (none, rest)
    else (some exponent, b :: rest)

/-- The sign at the start of an exponent and the bytes after it. -/
def readExponentSign : List UInt8 → Bool × List UInt8
  | [] => (false, [])
  | b :: rest =>
    if b == '-'.toUInt8 then (true, rest)
    else if b == '+'.toUInt8 then (false, rest)
    else (false, b :: rest)

/-- Reads an exponent after its letter. An exponent too large to be one makes a nonzero number out
of range, and a number with a too small one is zero. -/
def readExponent (negative : Bool) (significand : Nat) (start : Int) (bytes : List UInt8) :
    Reading Number :=
  match readExponentSign bytes with
  | (_, []) => .error (.here .endInValue [])
  | (down, b :: rest) =>
    if isDigit b then
      match readExponentDigits (digitValue b) rest with
      | (some exponent, rest) =>
        finishDouble negative significand
          (saturated (if down then start - exponent else start + exponent)) rest
      | (none, rest) =>
        if !down && significand != 0 then .error (.here .numberOutOfRange rest)
        else .ok (.double ⟨negative, 0⟩, skipDigits rest)
    else .error (.here .badNumber rest)

/-- Whether a byte starts an exponent. -/
def isExponentMark (b : UInt8) : Bool := b == 'e'.toUInt8 || b == 'E'.toUInt8

/-- Reads what follows the digits of a double: an exponent or nothing. -/
def readScale (negative : Bool) (significand : Nat) (exponent : Int) (bytes : List UInt8) :
    Reading Number :=
  match bytes with
  | [] => finishDouble negative significand exponent []
  | b :: rest =>
    if isExponentMark b then readExponent negative significand exponent rest
    else finishDouble negative significand exponent (b :: rest)

/-- Reads a fraction after its point; at least one digit is needed. -/
def readFraction (negative : Bool) (significand : Nat) (start : Int) (bytes : List UInt8) :
    Reading Number :=
  match bytes with
  | [] => .error (.peek .endInValue [])
  | b :: rest =>
    if isDigit b then
      let (longer, unfit) := gather significand (b :: rest)
      let kept := countDigits (b :: rest) - countDigits unfit
      readScale negative longer (start - kept) (skipDigits unfit)
    else .error (.peek .badNumber (b :: rest))

/-- The integer with a sign and a magnitude, where a number without fraction and exponent can be
kept as one, and otherwise the double nearest to it. -/
def wholeNumber (negative : Bool) (magnitude : Nat) : Number :=
  if !negative then .natural magnitude
  else if magnitude = 0 ∨ largestNegative < magnitude then
    .double ⟨true, Numeric.unitsOfNat magnitude⟩
  else .negative magnitude

/-- Reads what follows the digits of an integer part, `dropped` of which did not fit. -/
def readTail (negative : Bool) (significand dropped : Nat) (bytes : List UInt8) : Reading Number :=
  match bytes with
  | b :: rest =>
    if b == '.'.toUInt8 then readFraction negative significand dropped rest
    else if isExponentMark b then readExponent negative significand dropped rest
    else if dropped = 0 then .ok (wholeNumber negative significand, b :: rest)
    else finishDouble negative significand dropped (b :: rest)
  | [] =>
    if dropped = 0 then .ok (wholeNumber negative significand, [])
    else finishDouble negative significand dropped []

/-- Reads a number after its sign. A leading zero stands alone in the integer part. -/
def readNumber (negative : Bool) : List UInt8 → Reading Number
  | [] => .error (.here .endInValue [])
  | b :: rest =>
    if b == '0'.toUInt8 then
      match rest with
      | c :: _ =>
        if isDigit c then .error (.peek .badNumber rest) else readTail negative 0 0 rest
      | [] => readTail negative 0 0 rest
    else if isDigit b then
      let (significand, unfit) := gather (digitValue b) rest
      readTail negative significand (countDigits unfit) (skipDigits unfit)
    else .error (.here .badNumber rest)

end LiveBoard.Json
