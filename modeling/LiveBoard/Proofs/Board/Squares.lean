import LiveBoard.Proofs.Board.WireFormat
import LiveBoard.Proofs.Json.Paths
import LiveBoard.Proofs.Json.Zeros

/-!
# Squares and the numbers in the text

A square is occupied where the number in its place in the payload is not zero. That number is a
token of any length, and what the decoder looks at is the double that it is read as, so the smallest
numbers are lost: `Update.square_of_numeral` says for which exact values a square is occupied and
for which it is empty, and `tinyNumeral_empty` shows a number that is not zero on an empty square.
-/

set_option autoImplicit false
set_option relaxedAutoImplicit false

namespace LiveBoard.Board

open Json

/-- The path of a square inside a payload. -/
def squarePath (row column : Nat) : List Step :=
  [.member "board".toList, .item row, .item column]

/-- What is found in the update of a payload is found because the payload decodes. -/
theorem Update.exists_of_bind {α : Type} {payload : List UInt8} {part : Update → Option α}
    {held : α} (h : (Update.decode payload).toOption.bind part = some held) :
    ∃ update, Update.decode payload = .ok update ∧ part update = some held := by
  obtain ⟨update, hupdate, hpart⟩ := Option.bind_eq_some_iff.mp h
  cases hdecode : Update.decode payload with
  | error cause =>
    rw [hdecode] at hupdate
    cases hupdate
  | ok other =>
    rw [hdecode] at hupdate
    cases hupdate
    exact ⟨update, rfl, hpart⟩

section Squares

variable {payload : List UInt8} {update : Update} {grid : Grid} {row column : Nat}

/-- A square is occupied where the number at its path is not zero. -/
theorem Update.exists_number_at (hdecode : Update.decode payload = .ok update)
    (hgrid : update.grid = some grid) (hrow : row < boardSize) (hcolumn : column < boardSize) :
    ∃ value number, parse payload = .ok value ∧
      value.at? (squarePath row column) = some (.number number) ∧
      grid.isOccupied row column = !number.isZero := by
  obtain ⟨members, board, hobject, hmessage, hboard⟩ :=
    (Update.decode_eq_ok_iff payload update).mp hdecode
  rw [hgrid, Option.map_eq_some_iff] at hboard
  obtain ⟨numbers, rfl, rfl⟩ := hboard
  have hmember : lastMember? "board".toList members = some (boardValue numbers) := by
    have hholds := hmessage.board
    generalize lastMember? "board".toList members = member at hholds
    cases hholds
    rfl
  refine ⟨_, numbers[row][column], hobject, ?_, gridOf_isOccupied numbers hrow hcolumn⟩
  simp only [squarePath, Value.at?, Value.child?, Value.member?, hmember, Option.bind_some]
  simp [boardValue, eightOf, hrow, hcolumn]

/-- Assumes: a payload that decodes to a grid, and a square of it. A numeral stands in the place of
the square. Every numeral in that place that means zero leaves the square empty. Where the numeral
has no more than two billion characters, the square is occupied from `nonzeroFrom` on, and empty up
to `zeroUpTo`, also where the numeral does not mean zero. -/
theorem Update.square_of_numeral (hdecode : Update.decode payload = .ok update)
    (hgrid : update.grid = some grid) (hrow : row < boardSize) (hcolumn : column < boardSize) :
    (∃ numeral, NumeralAt (squarePath row column) numeral payload) ∧
      ∀ numeral, NumeralAt (squarePath row column) numeral payload →
        (numeral.value = 0 → grid.isOccupied row column = false) ∧
        (numeral.text.length ≤ 2 * 10 ^ 9 →
          (nonzeroFrom ≤ |numeral.value| → grid.isOccupied row column = true) ∧
          (|numeral.value| ≤ zeroUpTo → grid.isOccupied row column = false)) := by
  obtain ⟨value, number, hparse, hnumber, hsquare⟩ :=
    Update.exists_number_at hdecode hgrid hrow hcolumn
  constructor
  · obtain ⟨numeral, hnumeral, -⟩ := exists_numeralAt hparse hnumber
    exact ⟨numeral, hnumeral⟩
  · intro numeral hnumeral
    obtain ⟨found, hfound, hmade⟩ := hnumeral.exists_number hparse
    rw [hnumber, Option.some.injEq, Value.number.injEq] at hfound
    subst hfound
    rw [hsquare, Bool.not_eq_true', Bool.not_eq_false']
    exact ⟨numeral.isZero_of_value_eq_zero hmade, fun hlength ↦
      ⟨numeral.isZero_of_ge hlength hmade, numeral.isZero_of_le hlength hmade⟩⟩

end Squares

/-! ### A board with one number -/

/-- Seven more items after a comma each, and the bracket that closes them. -/
def sevenMore (text : List UInt8) : List UInt8 :=
  (List.replicate 7 (','.toUInt8 :: text)).flatten ++ [']'.toUInt8]

/-- The text of a row whose first square is spelled by a token, and the others by zeros. -/
def rowText (token : List UInt8) : List UInt8 :=
  '['.toUInt8 :: (token ++ sevenMore ['0'.toUInt8])

/-- The text of a board whose first square is spelled by a token, and the others by zeros. -/
def boardText (token : List UInt8) : List UInt8 :=
  '['.toUInt8 :: (rowText token ++ sevenMore (rowText ['0'.toUInt8]))

/-- A payload of the board. -/
def boardPayload (token : List UInt8) : List UInt8 :=
  '{'.toUInt8 :: '"'.toUInt8 :: (Text.encodeText ['b', 'o', 'a', 'r', 'd', '"'] ++
    ':'.toUInt8 :: (boardText token ++ ['}'.toUInt8]))

theorem itemTexts_alike {text : List UInt8} (htext : ∃ value, Spells value text) (count : Nat) :
    ItemTexts false (List.replicate count text)
      ((List.replicate count (','.toUInt8 :: text)).flatten ++ [']'.toUInt8]) := by
  induction count with
  | zero => exact .closed blanks_nil
  | succ count ih =>
    rw [List.replicate_succ, List.replicate_succ, List.flatten_cons, List.append_assoc]
    exact .item (.next blanks_nil blanks_nil) htext ih

theorem itemTexts_sevenMore {first text : List UInt8} (hfirst : ∃ value, Spells value first)
    (htext : ∃ value, Spells value text) :
    ItemTexts true (first :: List.replicate 7 text) (first ++ sevenMore text) :=
  .item (.first blanks_nil) hfirst (itemTexts_alike htext 7)

/-- A payload of a board whose first square is spelled by a numeral. -/
def numeralPayload (numeral : Numeral) : List UInt8 := boardPayload (Text.encodeText numeral.text)

/-- A numeral that is read stands in the first square. -/
theorem numeralAt_numeralPayload {numeral : Numeral} (h : numeral.number?.isSome = true) :
    NumeralAt (squarePath 0 0) numeral (numeralPayload numeral) := by
  have htoken := numeral.exists_spells h
  have hzero : ∃ value, Spells value ['0'.toUInt8] := ⟨.number (.natural 0), 0, .scalar rfl⟩
  have hrow := itemTexts_sevenMore htoken hzero
  have hrows := itemTexts_sevenMore hrow.exists_spells
    (itemTexts_sevenMore hzero hzero).exists_spells
  have hkey : StringText "board".toList (Text.encodeText ['b', 'o', 'a', 'r', 'd', '"']) := rfl
  refine ⟨[], numeralPayload numeral, [], blanks_nil, ?_, blanks_nil, (List.append_nil _).symm⟩
  exact .step (childText_single hkey hrows.exists_spells)
    (.step (.item hrows rfl) (.step (.item hrow rfl) (.here htoken)))

/-- Whether the first square of a payload is occupied, where it decodes to a grid. -/
def firstSquare? (payload : List UInt8) : Option Bool :=
  ((Update.decode payload).toOption.bind Update.grid).map fun grid ↦ grid.isOccupied 0 0

theorem firstSquare?_eq_some {payload : List UInt8} {occupied : Bool}
    (h : firstSquare? payload = some occupied) :
    ∃ update grid, Update.decode payload = .ok update ∧ update.grid = some grid ∧
      grid.isOccupied 0 0 = occupied := by
  obtain ⟨grid, hgrid, hsquare⟩ := Option.map_eq_some_iff.mp h
  obtain ⟨update, hdecode, hfound⟩ := Update.exists_of_bind hgrid
  exact ⟨update, grid, hdecode, hfound, hsquare⟩

/-- A small number that is kept. -/
def smallNumeral : Numeral :=
  .powerOfTen ⟨false, .minus, ['3', '0', '0'], List.cons_ne_nil _ _,
    List.all_eq_true.mp (by decide)⟩

/-- Its square is occupied. -/
theorem Update.square_of_numeral_smallNumeral :
    ∃ update grid, Update.decode (numeralPayload smallNumeral) = .ok update ∧
      update.grid = some grid ∧ nonzeroFrom ≤ |smallNumeral.value| ∧
      grid.isOccupied 0 0 = true := by
  have hsquare : firstSquare? (numeralPayload smallNumeral) = some true := by decide +kernel
  obtain ⟨update, grid, hdecode, hgrid, -⟩ := firstSquare?_eq_some hsquare
  have hvalue : smallNumeral.value = 10 ^ (-300 : Int) := Numeral.powerOfTen_value _
  have hlarge : nonzeroFrom ≤ |smallNumeral.value| := by
    have hten : (0 : ℚ) < 10 ^ 327 := pow_pos (by norm_num) 327
    have hpower : (10 ^ (-300 : Int) * 10 ^ 327 : ℚ) = 10 ^ 27 := by
      rw [← zpow_natCast, ← zpow_natCast, ← zpow_add₀ (by norm_num)]
      rfl
    rw [hvalue, abs_of_pos (zpow_pos (by norm_num) _), nonzeroFrom, div_le_iff₀ hten, hpower]
    norm_num
  have hplace : 0 < boardSize := by decide
  obtain ⟨-, hsquares⟩ := Update.square_of_numeral hdecode hgrid hplace hplace
  obtain ⟨-, hlong⟩ := hsquares smallNumeral (numeralAt_numeralPayload (by decide +kernel))
  exact ⟨update, grid, hdecode, hgrid, hlarge, (hlong (by decide)).1 hlarge⟩

/-- A number that is too small for a double. -/
def tinyNumeral : Numeral :=
  .powerOfTen ⟨false, .minus, ['4', '0', '0'], List.cons_ne_nil _ _,
    List.all_eq_true.mp (by decide)⟩

/-- Its square is empty, although it is not zero. -/
theorem tinyNumeral_empty :
    NumeralAt (squarePath 0 0) tinyNumeral (numeralPayload tinyNumeral) ∧ tinyNumeral.value ≠ 0 ∧
      ∃ update grid, Update.decode (numeralPayload tinyNumeral) = .ok update ∧
        update.grid = some grid ∧ grid.isOccupied 0 0 = false := by
  have hvalue : tinyNumeral.value = 10 ^ (-400 : Int) := Numeral.powerOfTen_value _
  refine ⟨numeralAt_numeralPayload (by decide +kernel), ?_,
    firstSquare?_eq_some (by decide +kernel)⟩
  rw [hvalue]
  exact (zpow_pos (by norm_num) _).ne'

end LiveBoard.Board
