import LiveBoard.Numeric.Double

/-!
# The shortest decimal text of a double

`shortest` is the decimal with the fewest digits that lies in the interval of reals that round to a
given positive magnitude. The two neighbours of the value on each decimal grid are tried, coarsest
grid first, and seventeen digits always suffice; of two hits on one grid the nearer is taken, and of
two equally near ones the even one. `Double.text` writes it: plainly from `1e-5` up to `1e16`, with
at least one decimal, and otherwise with an exponent that carries its sign.
-/

set_option autoImplicit false
set_option relaxedAutoImplicit false

namespace LiveBoard.Numeric

/-- A decimal `digits * 10 ^ exponent`. -/
structure Decimal where
  /-- The significant digits. -/
  digits : Nat
  /-- The power of ten that scales them. -/
  exponent : Int
  deriving DecidableEq, Repr

/-- Magnitudes are compared with decimals after multiplication by `10 ^ decimalShift`, which makes
every grid used below a grid of natural numbers. -/
def decimalShift : Nat := 400

/-- The factor of that multiplication. -/
def decimalScale : Nat := Nat.pow 10 decimalShift

/-- The decimal digits of a natural number. -/
def digitsOf (n : Nat) : List Char := Nat.toDigits 10 n

/-- The number of digits of a magnitude in front of the shifted decimal point. -/
def shiftedLength (units : Nat) : Nat :=
  (digitsOf (units * decimalScale / unitsOfOne)).length

/-- The width of the decimal grid with `count` significant digits at a magnitude, in shifted
units. -/
def gridWidth (units count : Nat) : Nat := unitsOfOne * Nat.pow 10 (shiftedLength units - count)

/-- Whether a magnitude is the least of its binade, so that its lower neighbour is closer than its
upper one. -/
def isBinadeStart (units : Nat) : Bool :=
  1 < spacing units && units == Nat.pow 2 52 * spacing units

/-- The lower end, in quarter units, of the reals that round to a magnitude. -/
def lowerEnd (units : Nat) : Nat :=
  4 * units - if isBinadeStart units then spacing units else 2 * spacing units

/-- The upper end, in quarter units, of the reals that round to a magnitude. -/
def upperEnd (units : Nat) : Nat := 4 * units + 2 * spacing units

/-- Whether the reals that round to a magnitude include the ends of their interval: ties round to
the even significand. -/
def endsIncluded (units : Nat) : Bool := units / spacing units % 2 == 0

/-- Whether a point, in shifted units, rounds to a magnitude. -/
def roundsTo (units point : Nat) : Bool :=
  let lower := lowerEnd units * decimalScale
  let upper := upperEnd units * decimalScale
  if endsIncluded units then lower ≤ 4 * point && 4 * point ≤ upper
  else lower < 4 * point && 4 * point < upper

/-- Whether the lower of two neighbouring grid points is the one to prefer at a magnitude. -/
def prefersLower (units width index : Nat) : Bool :=
  let value := units * decimalScale
  let below := value - index * width
  let above := (index + 1) * width - value
  below < above || (below == above && index % 2 == 0)

/-- The index of the preferred point of the grid with `count` digits that rounds to a magnitude. -/
def gridPoint? (units count : Nat) : Option Nat :=
  let width := gridWidth units count
  let index := units * decimalScale / width
  let lower := roundsTo units (index * width)
  let upper := roundsTo units ((index + 1) * width)
  if lower && (!upper || prefersLower units width index) then some index
  else if upper then some (index + 1)
  else none

/-- The digit counts that are tried, in order. -/
def digitCounts : List Nat := (List.range 17).map (· + 1)

/-- The first grid on which a point rounds to a magnitude, with that point; the value itself cut to
seventeen digits stands for the case that does not arise. -/
def shortestPoint (units : Nat) : Nat × Nat :=
  (digitCounts.findSome? fun count ↦ (gridPoint? units count).map fun index ↦ (index, count)).getD
    (units * decimalScale / gridWidth units 17, 17)

/-- The shortest decimal that rounds to a positive magnitude. -/
def shortest (units : Nat) : Decimal :=
  let (index, count) := shortestPoint units
  ⟨index, (shiftedLength units : Int) - decimalShift - count⟩

/-- The digits of a decimal without trailing zeros, with the exponent that belongs to them. -/
def Decimal.trimmed (d : Decimal) : List Char × Int :=
  let written := digitsOf d.digits
  let kept := (written.reverse.dropWhile (· == '0')).reverse
  (kept, d.exponent + (written.length - kept.length : Nat))

/-- The text of an exponent, with its sign. -/
def exponentText (exponent : Int) : List Char :=
  (if exponent < 0 then '-' else '+') :: digitsOf exponent.natAbs

/-- The text of a positive decimal, given by its digits and exponent. -/
def plainText (digits : List Char) (exponent : Int) : List Char :=
  let point := digits.length + exponent
  if 0 ≤ exponent ∧ point ≤ 16 then
    digits ++ List.replicate exponent.natAbs '0' ++ ['.', '0']
  else if 0 < point ∧ point ≤ 16 then
    digits.take point.natAbs ++ '.' :: digits.drop point.natAbs
  else if -5 < point ∧ point ≤ 0 then
    '0' :: '.' :: List.replicate point.natAbs '0' ++ digits
  else match digits with
    | [] => []
    | [digit] => digit :: 'e' :: exponentText (point - 1)
    | digit :: rest => digit :: '.' :: rest ++ 'e' :: exponentText (point - 1)

/-- The text of a magnitude. -/
def magnitudeText (units : Nat) : List Char :=
  if units = 0 then ['0', '.', '0']
  else
    let (digits, exponent) := (shortest units).trimmed
    plainText digits exponent

/-- The shortest text that reads back as a double. -/
def Double.text (x : Double) : List Char :=
  if x.negative then '-' :: magnitudeText x.units else magnitudeText x.units

end LiveBoard.Numeric
