import LiveBoard.Text.Unprintable

/-!
# Quoted texts

A quoted text stands between double quotes. A quote and a backslash get a backslash, the common
control characters a letter, and every other character without a shape of its own its number in
hexadecimal digits. A single character stands between single quotes, and these change places with
the double ones.
-/

set_option autoImplicit false
set_option relaxedAutoImplicit false

namespace LiveBoard.Text

/-- The quoted form of a character that has no shape. -/
def numberEscape (c : Char) : List Char :=
  '\\' :: 'u' :: '{' :: Nat.toDigits 16 c.toNat ++ ['}']

/-- The quoted form of a character. -/
def quoteChar (c : Char) : List Char :=
  if c = '"' then ['\\', '"']
  else if c = '\\' then ['\\', '\\']
  else if c = '\n' then ['\\', 'n']
  else if c = '\r' then ['\\', 'r']
  else if c = '\t' then ['\\', 't']
  else if c.toNat = 0 then ['\\', '0']
  else if unprintable.mem c then numberEscape c
  else [c]

/-- A character between single quotes. -/
def quoteLone (c : Char) : List Char :=
  let form := if c = '"' then ['"'] else if c = '\'' then ['\\', '\''] else quoteChar c
  '\'' :: form ++ ['\'']

/-- A text between quotes. -/
def quote (text : List Char) : List Char := '"' :: text.flatMap quoteChar ++ ['"']

end LiveBoard.Text
