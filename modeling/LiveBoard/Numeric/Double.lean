/-!
# Finite doubles in exact arithmetic

Every finite double is a whole number of units of `2 ^ -1074`, so a magnitude is a natural number
and every operation here is exact arithmetic on natural numbers followed by one rounding.
`roundUnits` is that rounding: to the nearest multiple of the spacing that 53 significant bits
leave at this size, a tie going to the even multiple. `scaled?` is the value given by a significand
and a power of ten when the power is applied as one rounded product or as a chain of rounded
quotients; it is not the nearest double to the exact value.
-/

set_option autoImplicit false
set_option relaxedAutoImplicit false

namespace LiveBoard.Numeric

/-- A finite double: a sign and a magnitude counted in units of `2 ^ -1074`. -/
structure Double where
  /-- Whether the sign is minus; zero has a sign too. -/
  negative : Bool
  /-- The magnitude in units of `2 ^ -1074`. -/
  units : Nat
  deriving DecidableEq, Repr

/-- The number of units in one. -/
def unitsOfOne : Nat := Nat.pow 2 1074

/-- The first magnitude that no finite double has. -/
def unitsLimit : Nat := Nat.pow 2 2098

/-- The distance between neighbouring doubles from `units` upwards. -/
def spacing (units : Nat) : Nat := Nat.pow 2 (units.log2 - 52)

/-- The natural number nearest to `numerator / denominator`, a tie going to the even one. -/
def nearestEven (numerator denominator : Nat) : Nat :=
  let whole := numerator / denominator
  let twiceRest := 2 * (numerator % denominator)
  if twiceRest < denominator then whole
  else if denominator < twiceRest then whole + 1
  else if whole % 2 = 0 then whole
  else whole + 1

/-- The magnitude nearest to `numerator / denominator` units, with no upper limit. -/
def roundUnits (numerator denominator : Nat) : Nat :=
  let gap := spacing (numerator / denominator)
  nearestEven numerator (denominator * gap) * gap

/-- The magnitude nearest to a natural number. -/
def unitsOfNat (n : Nat) : Nat := roundUnits (n * unitsOfOne) 1

/-- The magnitude nearest to a power of ten. -/
def unitsOfPower (exponent : Nat) : Nat := unitsOfNat (Nat.pow 10 exponent)

/-- The rounded product of two magnitudes. -/
def product (a b : Nat) : Nat := roundUnits (a * b) unitsOfOne

/-- The rounded quotient of two magnitudes. -/
def quotient (a b : Nat) : Nat := roundUnits (a * unitsOfOne) b

/-- The largest power of ten that one product or quotient applies. -/
def largestPower : Nat := 308

/-- `steps` quotients by the largest power and one by the power `last`; a magnitude that has
become zero stays zero. -/
def scaleDown : Nat → Nat → Nat → Nat
  | 0, last, units => quotient units (unitsOfPower last)
  | steps + 1, last, units =>
    if units = 0 then 0 else scaleDown steps last (quotient units (unitsOfPower largestPower))

/-- The magnitude of `significand * 10 ^ exponent`, none where it is too large to be finite. -/
def scaled? (significand : Nat) (exponent : Int) : Option Nat :=
  let units := unitsOfNat significand
  if exponent < 0 then
    let power := exponent.natAbs
    let steps := (power - 1) / largestPower
    some (scaleDown steps (power - largestPower * steps) units)
  else if exponent.natAbs ≤ largestPower then
    let result := product units (unitsOfPower exponent.natAbs)
    if result < unitsLimit then some result else none
  else if units = 0 then some 0
  else none

end LiveBoard.Numeric
