/-!
# Sets of code points

A property of characters is given by a table of ranges of code points, in increasing order. `mem`
decides whether a character has the property.
-/

set_option autoImplicit false
set_option relaxedAutoImplicit false

namespace LiveBoard.Text

/-- Ranges of code points, each with its first and last member. -/
abbrev CodePoints := List (Nat × Nat)

/-- Whether a character lies in one of the ranges. -/
def CodePoints.mem (ranges : CodePoints) (c : Char) : Bool :=
  ranges.any fun range ↦ range.1 ≤ c.toNat && c.toNat ≤ range.2

end LiveBoard.Text
