/-!
# Numerals

Reading natural numbers from their digits to a base of sixteen at most.
-/

set_option autoImplicit false
set_option relaxedAutoImplicit false

namespace LiveBoard.Text

/-- The value of a hexadecimal digit. -/
def digitValue? (c : Char) : Option Nat :=
  if '0' ≤ c && c ≤ '9' then some (c.toNat - '0'.toNat)
  else if 'a' ≤ c && c ≤ 'f' then some (c.toNat - 'a'.toNat + 10)
  else if 'A' ≤ c && c ≤ 'F' then some (c.toNat - 'A'.toNat + 10)
  else none

/-- The number of some digits, onto the value of those before. -/
def numeralFrom? (base : Nat) : Nat → List Char → Option Nat
  | value, [] => some value
  | value, c :: rest => do
    let digit ← digitValue? c
    if digit < base then numeralFrom? base (value * base + digit) rest else none

/-- The number of a text that holds at least one character and only digits to a base. -/
def numeral? (base : Nat) (digits : List Char) : Option Nat :=
  if digits.isEmpty then none else numeralFrom? base 0 digits

/-- The number of a text that tells its base: `0x` stands in front of hexadecimal digits and `0` in
front of octal ones. -/
def markedNumeral? : List Char → Option Nat
  | '0' :: 'x' :: digits => numeral? 16 digits
  | '0' :: 'X' :: digits => numeral? 16 digits
  | '0' :: digits => numeral? 8 ('0' :: digits)
  | digits => numeral? 10 digits

end LiveBoard.Text
