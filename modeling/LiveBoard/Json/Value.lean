import LiveBoard.Numeric.Shortest

/-!
# JSON values

A number is kept as an integer where it is a natural number below `2 ^ 64` or a negative integer not
below `-2 ^ 63`, and otherwise as a double. The members of an object stay in the order in which they
were read; `Value.member?` answers the last member of a name.
-/

set_option autoImplicit false
set_option relaxedAutoImplicit false

namespace LiveBoard.Json

/-- A number. -/
inductive Number
  /-- A natural number, at most `2 ^ 64 - 1`. -/
  | natural (value : Nat)
  /-- The negative integer with this magnitude, from `1` to `2 ^ 63`. -/
  | negative (magnitude : Nat)
  /-- A double. -/
  | double (value : Numeric.Double)
  deriving DecidableEq, Repr

/-- The number of an integer. -/
def Number.ofInt : Int → Number
  | .ofNat n => .natural n
  | .negSucc n => .negative (n + 1)

/-- Whether a number is zero; a double with the minus sign may be. -/
def Number.isZero : Number → Bool
  | .natural n => n == 0
  | .negative n => n == 0
  | .double x => x.units == 0

/-- The text of a number. -/
def Number.text : Number → List Char
  | .natural n => Numeric.digitsOf n
  | .negative n => '-' :: Numeric.digitsOf n
  | .double x => x.text

/-- A JSON value. -/
inductive Value
  | null
  | bool (value : Bool)
  | number (value : Number)
  | string (text : List Char)
  | array (items : List Value)
  | object (members : List (List Char × Value))
  deriving Repr

/-- The last member of a name among members in reading order. -/
def lastMember? (name : List Char) (members : List (List Char × Value)) : Option Value :=
  (members.reverse.find? fun member ↦ member.1 == name).map (·.2)

/-- The last member of a name, none also where the value is no object. -/
def Value.member? (value : Value) (name : List Char) : Option Value :=
  match value with
  | .object members => lastMember? name members
  | _ => none

end LiveBoard.Json
