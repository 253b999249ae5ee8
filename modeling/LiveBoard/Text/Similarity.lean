/-!
# Similarity of texts

The Jaro similarity of two texts, a number from zero to one. Two equal characters match if their
places are not too far apart; every character matches at most once. The similarity is the mean of
the shares of matched characters in both texts and of the share of matches that stand in order.
-/

set_option autoImplicit false
set_option relaxedAutoImplicit false

namespace LiveBoard.Text

/-- Takes the first free occurrence of a character whose place is at least `low` and below `high`,
in a text that goes on at a place and notes which of its characters are taken. -/
def takeMatch? (c : Char) (low high : Nat) :
    Nat → List (Char × Bool) → Option (List (Char × Bool))
  | _, [] => none
  | place, (other, taken) :: rest =>
    if low ≤ place && place < high && other == c && !taken then some ((other, true) :: rest)
    else (takeMatch? c low high (place + 1) rest).map fun rest ↦ (other, taken) :: rest

/-- The characters of a text from a place on that match one of another, and that other text with
the characters taken by the matches. -/
def matched (range : Nat) :
    List Char → Nat → List (Char × Bool) → List Char × List (Char × Bool)
  | [], _, other => ([], other)
  | c :: rest, place, other =>
    match takeMatch? c (place - range) (place + range + 1) 0 other with
    | some other =>
      let (found, other) := matched range rest (place + 1) other
      (c :: found, other)
    | none => matched range rest (place + 1) other

/-- The similarity of two texts. -/
def similarity (first second : List Char) : Float :=
  if first.isEmpty && second.isEmpty then 1
  else
    let range := max first.length second.length / 2 - 1
    let (found, other) := matched range first 0 (second.map fun c ↦ (c, false))
    let taken := (other.filter (·.2)).map (·.1)
    let misplaced := (found.zip taken).countP fun (a, b) ↦ a != b
    if found.isEmpty then 0
    else
      let count := Float.ofNat found.length
      let inOrder := Float.ofNat (found.length - misplaced / 2)
      (count / Float.ofNat first.length + count / Float.ofNat second.length + inOrder / count) / 3

end LiveBoard.Text
