import LiveBoard.Text.CodePoints

/-!
# White space

The characters with the Unicode property White_Space, and cutting them off the ends of a text.
-/

set_option autoImplicit false
set_option relaxedAutoImplicit false

namespace LiveBoard.Text

/-- The characters with the property White_Space. -/
def whiteSpace : CodePoints :=
  [(0x9, 0xD), (0x20, 0x20), (0x85, 0x85), (0xA0, 0xA0), (0x1680, 0x1680), (0x2000, 0x200A),
    (0x2028, 0x2029), (0x202F, 0x202F), (0x205F, 0x205F), (0x3000, 0x3000)]

/-- Whether a character is white space. -/
def isWhiteSpace (c : Char) : Bool := whiteSpace.mem c

/-- A text without the white space at its start. -/
def trimStart (text : List Char) : List Char := text.dropWhile isWhiteSpace

/-- A text without the white space at its end. -/
def trimEnd (text : List Char) : List Char := (text.reverse.dropWhile isWhiteSpace).reverse

/-- A text without the white space at both ends. -/
def trim (text : List Char) : List Char := trimEnd (trimStart text)

end LiveBoard.Text
