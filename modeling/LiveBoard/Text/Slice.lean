import LiveBoard.Text.Quoted

/-!
# Parts of a text

Places in a text are counted in the bytes of its UTF-8 encoding. `slice` is the part between two
places and `suffix` the one from a place on. A place within a character is none at which a text can
be cut: the first such place is reported.
-/

set_option autoImplicit false
set_option relaxedAutoImplicit false

namespace LiveBoard.Text

/-- A place within a character at which a text was to be cut. -/
structure MissedCut where
  /-- Whether it is the end of a part. -/
  atEnd : Bool
  /-- The place. -/
  place : Nat
  /-- The character that it lies in. -/
  character : Char
  /-- The bytes of the character in front of it. -/
  inside : Nat
  deriving DecidableEq, Repr

/-- The wording of a cut that was missed. -/
def MissedCut.message (cut : MissedCut) : String :=
  let side := if cut.atEnd then "end" else "start"
  let first := cut.place - cut.inside
  let last := first + cut.character.utf8Size
  s!"{side} byte index {cut.place} is not a char boundary; it is inside " ++
    String.ofList (quoteLone cut.character) ++ s!" (bytes {first}..{last} of string)"

/-- Splits a text after a number of bytes, or gives the character that they end within and the
number of its bytes among them. -/
def splitBytes : Nat → List Char → Except (Char × Nat) (List Char × List Char)
  | 0, text => .ok ([], text)
  | _ + 1, [] => .ok ([], [])
  | count + 1, c :: rest =>
    if c.utf8Size ≤ count + 1 then
      (splitBytes (count + 1 - c.utf8Size) rest).map fun (before, after) ↦ (c :: before, after)
    else .error (c, count + 1)

/-- Splits a text at a place that is the start or the end of a part, where the text starts at
another place. -/
def splitAt (atEnd : Bool) (origin place : Nat) (text : List Char) :
    Except MissedCut (List Char × List Char) :=
  (splitBytes (place - origin) text).mapError fun (c, inside) ↦ ⟨atEnd, place, c, inside⟩

/-- The part of a text from a place on. -/
def suffix (text : List Char) (start : Nat) : Except MissedCut (List Char) :=
  (splitAt false 0 start text).map (·.2)

/-- The part of a text between two places. -/
def slice (text : List Char) (start stop : Nat) : Except MissedCut (List Char) := do
  let rest ← suffix text start
  return (← splitAt true start stop rest).1

end LiveBoard.Text
