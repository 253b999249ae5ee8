/-!
# Decimal numbers

Reading natural numbers from their decimal digits, and recognising real numbers.
-/

set_option autoImplicit false
set_option relaxedAutoImplicit false

namespace LiveBoard.Text

/-- The number of a run of decimal digits. -/
def digitsValue (digits : List Char) : Nat :=
  digits.foldl (fun value digit ↦ value * 10 + (digit.toNat - '0'.toNat)) 0

/-- The number of a text that holds at least one character and only decimal digits. -/
def decimal? (text : List Char) : Option Nat :=
  if !text.isEmpty && text.all Char.isDigit then some (digitsValue text) else none

/-- A text without the plus sign at its start. -/
def dropPlus : List Char → List Char
  | '+' :: rest => rest
  | text => text

/-- The number of a text of decimal digits, with a plus sign in front or not. -/
def unsigned? (text : List Char) : Option Nat := decimal? (dropPlus text)

/-- Whether a text is an exponent, or nothing. -/
def isExponent : List Char → Bool
  | [] => true
  | sign :: rest =>
    let digits := if rest.head? == some '-' then rest.tail else dropPlus rest
    (sign == 'e' || sign == 'E') && !digits.isEmpty && digits.all Char.isDigit

/-- The names of what is no finite number. -/
def nonFiniteNames : List String := ["inf", "infinity", "nan"]

/-- Whether a text is a real number without a sign: digits, with a point among them or not, and an
exponent or none; or a name in letters of either case. -/
def isUnsignedReal (text : List Char) : Bool :=
  let rest := text.dropWhile Char.isDigit
  let fraction := if rest.head? == some '.' then rest.tail else []
  let digits := text.takeWhile Char.isDigit ++ fraction.takeWhile Char.isDigit
  let exponent := if rest.head? == some '.' then fraction.dropWhile Char.isDigit else rest
  (!digits.isEmpty && isExponent exponent) ||
    nonFiniteNames.contains (String.ofList (text.map Char.toLower))

end LiveBoard.Text
