/-!
# Colours and styles

A cell is drawn in a foreground and a background colour, each the terminal's own or a given one,
and with modifiers. Of the eight modifier bits only the lowest has a meaning, bold; the others are
kept and compared, and draw nothing.
-/

set_option autoImplicit false
set_option relaxedAutoImplicit false

namespace LiveBoard.Screen

/-- A colour of red, green and blue parts. -/
structure Rgb where
  /-- The red part. -/
  red : UInt8
  /-- The green part. -/
  green : UInt8
  /-- The blue part. -/
  blue : UInt8
  deriving DecidableEq, Repr

/-- Black. -/
def Rgb.black : Rgb := ⟨0, 0, 0⟩

/-- The colour of the low 24 bits of a number, red first. -/
def Rgb.ofHex (code : Nat) : Rgb := ⟨.ofNat (code / 65536), .ofNat (code / 256), .ofNat code⟩

/-- The two hexadecimal digits of a byte. -/
def byteDigits (b : UInt8) : List Char :=
  [Nat.digitChar (b.toNat / 16), Nat.digitChar (b.toNat % 16)]

/-- The text of a colour. -/
def Rgb.text (c : Rgb) : String :=
  String.ofList ('#' :: byteDigits c.red ++ byteDigits c.green ++ byteDigits c.blue)

/-- A colour to draw in. -/
inductive Color
  /-- The terminal's own colour. -/
  | standard
  /-- A given colour. -/
  | rgb (value : Rgb)
  deriving DecidableEq, Repr

/-- The text of a colour to draw in. -/
def Color.text : Color → String
  | .standard => "default"
  | .rgb value => value.text

/-- A set of modifiers, one bit for each. -/
structure Modifiers where
  /-- The bits. -/
  bits : UInt8
  deriving DecidableEq, Repr

/-- No modifier. -/
def Modifiers.empty : Modifiers := ⟨0⟩

/-- The modifier that makes glyphs bold. -/
def Modifiers.bold : Modifiers := ⟨1⟩

/-- The modifiers of either set. -/
def Modifiers.union (a b : Modifiers) : Modifiers := ⟨a.bits ||| b.bits⟩

/-- The modifiers of the first set that are not in the second. -/
def Modifiers.difference (a b : Modifiers) : Modifiers := ⟨a.bits &&& ~~~ b.bits⟩

/-- Whether no modifier is set. -/
def Modifiers.isEmpty (a : Modifiers) : Bool := a.bits == 0

/-- Whether glyphs are bold. -/
def Modifiers.isBold (a : Modifiers) : Bool := a.bits &&& 1 == 1

/-- The text of a set of modifiers: the name of the one that has a name, then the others as one
hexadecimal number. -/
def Modifiers.text (a : Modifiers) : String :=
  let named := if a.isBold then ["BOLD"] else []
  let rest := a.bits.toNat / 2 * 2
  let unnamed := if rest = 0 then [] else ["0x" ++ String.ofList (Nat.toDigits 16 rest)]
  " | ".intercalate (named ++ unnamed)

/-- How a cell is drawn. -/
structure Style where
  /-- The colour of the glyph. -/
  foreground : Color
  /-- The colour behind the glyph. -/
  background : Color
  /-- The modifiers. -/
  modifiers : Modifiers
  deriving DecidableEq, Repr

/-- The terminal's own colours and no modifier. -/
def Style.plain : Style := ⟨.standard, .standard, .empty⟩

/-- A style with a given foreground. -/
def Style.withForeground (style : Style) (color : Rgb) : Style :=
  { style with foreground := .rgb color }

/-- A style with a given background. -/
def Style.withBackground (style : Style) (color : Rgb) : Style :=
  { style with background := .rgb color }

/-- A style made bold. -/
def Style.bold (style : Style) : Style :=
  { style with modifiers := style.modifiers.union .bold }

end LiveBoard.Screen
