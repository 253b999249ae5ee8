/-!
# UTF-8

Texts are lists of characters and wire data are lists of bytes. `encodeText` writes a text,
`decodePrefix` reads the longest well-formed beginning of a byte string and returns what is left,
and `decodeText?` reads a byte string that is well formed as a whole. A character is read by
`leadingChar?`, which admits exactly the shortest encodings of scalar values: no overlong form, no
surrogate and nothing above `U+10FFFF`.
-/

set_option autoImplicit false
set_option relaxedAutoImplicit false

namespace LiveBoard.Text

/-- The bytes of one character. -/
def encodeChar (c : Char) : List UInt8 :=
  let n := c.toNat
  if n < 0x80 then [.ofNat n]
  else if n < 0x800 then [.ofNat (0xC0 + n / 64), .ofNat (0x80 + n % 64)]
  else if n < 0x10000 then
    [.ofNat (0xE0 + n / 4096), .ofNat (0x80 + n / 64 % 64), .ofNat (0x80 + n % 64)]
  else
    [.ofNat (0xF0 + n / 262144), .ofNat (0x80 + n / 4096 % 64), .ofNat (0x80 + n / 64 % 64),
      .ofNat (0x80 + n % 64)]

/-- The bytes of a text. -/
def encodeText (text : List Char) : List UInt8 := text.flatMap encodeChar

/-- The bytes of a string. -/
def encodeString (text : String) : List UInt8 := encodeText text.toList

/-- Whether a byte continues a character. -/
def isTail (b : UInt8) : Bool := 0x80 ≤ b && b ≤ 0xBF

/-- The six payload bits of a continuation byte. -/
def tailBits (b : UInt8) : Nat := b.toNat - 0x80

/-- The character of two bytes. -/
def pairChar (a b : UInt8) : Char := Char.ofNat ((a.toNat - 0xC0) * 64 + tailBits b)

/-- The character of three bytes. -/
def tripleChar (a b c : UInt8) : Char :=
  Char.ofNat ((a.toNat - 0xE0) * 4096 + tailBits b * 64 + tailBits c)

/-- The character of four bytes. -/
def quadrupleChar (a b c d : UInt8) : Char :=
  Char.ofNat ((a.toNat - 0xF0) * 262144 + tailBits b * 4096 + tailBits c * 64 + tailBits d)

/-- Whether `b` may be the second of three bytes after `a`: the second byte after `E0` excludes
overlong forms and the one after `ED` excludes surrogates. -/
def secondOfThree (a b : UInt8) : Bool :=
  if a == 0xE0 then 0xA0 ≤ b && b ≤ 0xBF
  else if a == 0xED then 0x80 ≤ b && b ≤ 0x9F
  else isTail b

/-- Whether `b` may be the second of four bytes after `a`: the second byte after `F0` excludes
overlong forms and the one after `F4` what lies above `U+10FFFF`. -/
def secondOfFour (a b : UInt8) : Bool :=
  if a == 0xF0 then 0x90 ≤ b && b ≤ 0xBF
  else if a == 0xF4 then 0x80 ≤ b && b ≤ 0x8F
  else isTail b

/-- The character at the start of a byte string, with the bytes after it, or none where no
character is well formed there. -/
def leadingChar? : List UInt8 → Option (Char × List UInt8)
  | [] => none
  | a :: rest =>
    if a < 0x80 then some (Char.ofNat a.toNat, rest)
    else if 0xC2 ≤ a && a ≤ 0xDF then
      match rest with
      | b :: rest => if isTail b then some (pairChar a b, rest) else none
      | _ => none
    else if 0xE0 ≤ a && a ≤ 0xEF then
      match rest with
      | b :: c :: rest =>
        if secondOfThree a b && isTail c then some (tripleChar a b c, rest) else none
      | _ => none
    else if 0xF0 ≤ a && a ≤ 0xF4 then
      match rest with
      | b :: c :: d :: rest =>
        if secondOfFour a b && isTail c && isTail d then some (quadrupleChar a b c d, rest)
        else none
      | _ => none
    else none

/-- The characters read so far, in reverse, extended by those of at most `fuel` more characters,
with the bytes at which reading stopped. -/
def decodeOnto : Nat → List Char → List UInt8 → List Char × List UInt8
  | 0, read, bytes => (read.reverse, bytes)
  | fuel + 1, read, bytes =>
    match leadingChar? bytes with
    | none => (read.reverse, bytes)
    | some (c, rest) => decodeOnto fuel (c :: read) rest

/-- The characters of the longest well-formed beginning of a byte string, with the bytes after it.
Every character takes a byte, so the length of the string bounds the number of characters. -/
def decodePrefix (bytes : List UInt8) : List Char × List UInt8 :=
  decodeOnto bytes.length [] bytes

/-- The text of a byte string that is well formed as a whole. -/
def decodeText? (bytes : List UInt8) : Option (List Char) :=
  match decodePrefix bytes with
  | (text, []) => some text
  | _ => none

end LiveBoard.Text
