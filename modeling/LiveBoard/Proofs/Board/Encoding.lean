import LiveBoard.Proofs.Board.WireFormat
import LiveBoard.Proofs.Json.Integers
import LiveBoard.Proofs.Json.Spacing

/-!
# Decoding what was encoded

A message is written from its parts, a board of integers, a timestamp and further members, in any
order and with any blanks between the tokens. `Update.decode_encoding` takes it back: the last board
gives the squares and the last timestamp its text, whatever the further members hold. The message
itself opens a bracket, so a further value is read only up to one bracket less than by itself; a
value of the full depth takes the whole message with it (`decode_nested`).
-/

set_option autoImplicit false
set_option relaxedAutoImplicit false

namespace LiveBoard.Json

/-! ### Keys -/

/-- The text of a string is a key. -/
theorem padded_key {key : List UInt8} {name : List Char} (h : parse key = .ok (.string name)) :
    Padded (fun text ↦ ∃ keyText, StringText name keyText ∧ text = '"'.toUInt8 :: keyText) key := by
  obtain ⟨before, text, after, hbefore, htext, hafter, rfl⟩ := parse_eq_ok_iff.mp h
  refine ⟨before, text, after, hbefore, ?_, hafter, rfl⟩
  cases htext with
  | scalar hread => exact absurd hread readScalar_ne_string
  | string hstring => exact ⟨_, hstring, rfl⟩

/-- A text that is read by itself is read where as many brackets are left as its value is deep. -/
theorem padded_value {text : List UInt8} {value : Value} {levels : Nat}
    (h : parse text = .ok value) (hdepth : value.depth ≤ levels) :
    Padded (ValueText levels value) text := by
  obtain ⟨before, inner, after, hbefore, htext, hafter, rfl⟩ := parse_eq_ok_iff.mp h
  exact ⟨before, inner, after, hbefore, htext.relevel hdepth, hafter, rfl⟩

end LiveBoard.Json

namespace LiveBoard.Board

open Json

/-! ### Messages -/

/-- A member of a message. -/
inductive Part
  /-- The numbers of a board, row by row. -/
  | board (numbers : Vector (Vector Int boardSize) boardSize)
  /-- A timestamp. -/
  | timestamp (value : Int)
  /-- A further member: its name and value, and the texts of both. -/
  | further (name : List Char) (value : Value) (key text : List UInt8)

/-- The numbers of a board. -/
def Part.board? : Part → Option (Vector (Vector Int boardSize) boardSize)
  | .board numbers => some numbers
  | _ => none

/-- The value of a timestamp. -/
def Part.timestamp? : Part → Option Int
  | .timestamp value => some value
  | _ => none

/-- The bytes of a name in quotes. -/
def quoted (name : String) : List UInt8 :=
  '"'.toUInt8 :: (Text.encodeText name.toList ++ ['"'.toUInt8])

/-- The tokens of a row. -/
def rowTokens (row : Vector Int boardSize) : List (List UInt8) :=
  bracketed '['.toUInt8 ']'.toUInt8 (row.toList.map fun number ↦ [decimalBytes number])

/-- The tokens of a member. -/
def Part.tokens : Part → List (List UInt8)
  | .board numbers =>
    quoted "board" :: [':'.toUInt8] ::
      bracketed '['.toUInt8 ']'.toUInt8 (numbers.toList.map rowTokens)
  | .timestamp value => [quoted "timestamp", [':'.toUInt8], decimalBytes value]
  | .further _ _ key text => [key, [':'.toUInt8], text]

/-- The tokens of a message. -/
def messageTokens (parts : List Part) : List (List UInt8) :=
  bracketed '{'.toUInt8 '}'.toUInt8 (parts.map Part.tokens)

/-- An integer is a number that is kept as one. -/
def FitsNumber (n : Int) : Prop := -2 ^ 63 ≤ n ∧ n < 2 ^ 64

/-- The integers of a part fit, and a further member has a name of its own and texts that are read
as its name and its value. -/
def Part.Accepted : Part → Prop
  | .board numbers => ∀ row ∈ numbers.toList, ∀ number ∈ row.toList, FitsNumber number
  | .timestamp value => FitsNumber value
  | .further name value key text =>
    name ≠ "board".toList ∧ name ≠ "timestamp".toList ∧
      parse key = .ok (.string name) ∧ parse text = .ok value

/-- The value of a further member leaves a bracket for the message. -/
def Part.Shallow : Part → Prop
  | .further _ value _ _ => value.depth < levelLimit
  | _ => True

/-! ### What a message holds -/

/-- The numbers of the integers of a board. -/
def numbersOf (numbers : Vector (Vector Int boardSize) boardSize) :
    Vector (Vector Number boardSize) boardSize :=
  numbers.map fun row ↦ row.map Number.ofInt

/-- The member that a part is read as. -/
def Part.member : Part → List Char × Value
  | .board numbers => ("board".toList, boardValue (numbersOf numbers))
  | .timestamp value => ("timestamp".toList, .number (.ofInt value))
  | .further name value _ _ => (name, value)

theorem written_decimal {n : Int} (hfits : FitsNumber n) (levels : Nat) :
    Written (ValueText levels (.number (.ofInt n))) [decimalBytes n] :=
  written_token (padded_self (.scalar (readScalar_decimal hfits.1 hfits.2)))

theorem written_row {row : Vector Int boardSize} (hrow : ∀ number ∈ row.toList, FitsNumber number)
    (levels : Nat) :
    Written (ValueText (levels + 1) (eightOf .number (row.map Number.ofInt))) (rowTokens row) := by
  have hitems : eightOf .number (row.map Number.ofInt) =
      .array (row.toList.map fun number ↦ .number (.ofInt number)) := by
    simp [eightOf, Vector.toList_map]
  rw [hitems]
  exact written_array fun number hnumber ↦ written_decimal (hrow number hnumber) levels

theorem written_board {numbers : Vector (Vector Int boardSize) boardSize}
    (hnumbers : ∀ row ∈ numbers.toList, ∀ number ∈ row.toList, FitsNumber number) (levels : Nat) :
    Written (ValueText (levels + 2) (boardValue (numbersOf numbers)))
      (bracketed '['.toUInt8 ']'.toUInt8 (numbers.toList.map rowTokens)) := by
  have hitems : boardValue (numbersOf numbers) =
      .array (numbers.toList.map fun row ↦ eightOf .number (row.map Number.ofInt)) := by
    simp [boardValue, numbersOf, eightOf, Vector.toList_map]
  rw [hitems]
  exact written_array fun row hrow ↦ written_row (hnumbers row hrow) levels

/-- A part is written as its member, with a bracket less than the limit. -/
theorem written_part {part : Part} (haccepted : part.Accepted) (hshallow : part.Shallow) :
    Written (MemberText (levelLimit - 1) part.member) part.tokens := by
  cases part with
  | board numbers => exact written_member (padded_key rfl) (written_board haccepted 124)
  | timestamp value => exact written_member (padded_key rfl) (written_decimal haccepted _)
  | further name value key text =>
    obtain ⟨-, -, hkey, hvalue⟩ := haccepted
    exact written_member (padded_key hkey)
      (written_token (padded_value hvalue (Nat.le_of_lt_succ hshallow)))

/-- A message is an object of its members. -/
theorem parse_message {parts : List Part} {payload : List UInt8}
    (haccepted : ∀ part ∈ parts, part.Accepted) (hshallow : ∀ part ∈ parts, part.Shallow)
    (hspaced : Spaced (messageTokens parts) payload) :
    parse payload = .ok (.object (parts.map Part.member)) := by
  apply parse_eq_ok_iff.mpr
  have hparts : ∀ part ∈ parts, Written (MemberText (levelLimit - 1) part.member) part.tokens :=
    fun part hpart ↦ written_part (haccepted part hpart) (hshallow part hpart)
  exact written_object hparts payload hspaced

/-- The parts that are members of a name are those that hold something of a kind, and their value
is made of it. -/
def Names {β : Type} (name : List Char) (held : Part → Option β) (make : β → Value)
    (part : Part) : Prop :=
  (part.member.1 = name → (held part).map make = some part.member.2) ∧
    (part.member.1 ≠ name → held part = none)

/-- The last member of a name holds what the last part of its kind holds. -/
theorem lastMember?_map_member {β : Type} {name : List Char} {held : Part → Option β}
    {make : β → Value} {parts : List Part} (hnames : ∀ part ∈ parts, Names name held make part) :
    lastMember? name (parts.map Part.member) = (parts.filterMap held).getLast?.map make := by
  have hfirst : ∀ rest : List Part, (∀ part ∈ rest, Names name held make part) →
      ((rest.map Part.member).find? fun member ↦ member.1 == name).map (·.2) =
        (rest.filterMap held).head?.map make := by
    intro rest hrest
    induction rest with
    | nil => rfl
    | cons part rest ih =>
      obtain ⟨hsame, hother⟩ := hrest part List.mem_cons_self
      have hothers := ih fun other hmem ↦ hrest other (List.mem_cons_of_mem part hmem)
      by_cases hname : part.member.1 = name
      · obtain ⟨found, hfound, hvalue⟩ := Option.map_eq_some_iff.mp (hsame hname)
        simp [hname, hfound, hvalue]
      · simpa [hname, hother hname] using hothers
  rw [lastMember?, ← List.map_reverse, hfirst _ fun part hpart ↦ hnames part (by simpa using hpart),
    List.filterMap_reverse, List.head?_reverse]

theorem timestamp_ne_board : "timestamp".toList ≠ "board".toList := by decide

theorem Part.Accepted.names_board {part : Part} (h : part.Accepted) :
    Names "board".toList Part.board? (fun numbers ↦ boardValue (numbersOf numbers)) part := by
  cases part with
  | board numbers => exact ⟨fun _ ↦ rfl, fun hother ↦ absurd rfl hother⟩
  | timestamp value => exact ⟨fun hname ↦ absurd hname timestamp_ne_board, fun _ ↦ rfl⟩
  | further name value key text => exact ⟨fun hname ↦ absurd hname h.1, fun _ ↦ rfl⟩

theorem Part.Accepted.names_timestamp {part : Part} (h : part.Accepted) :
    Names "timestamp".toList Part.timestamp? (fun value ↦ .number (.ofInt value)) part := by
  cases part with
  | board numbers => exact ⟨fun hname ↦ absurd hname timestamp_ne_board.symm, fun _ ↦ rfl⟩
  | timestamp value => exact ⟨fun _ ↦ rfl, fun hother ↦ absurd rfl hother⟩
  | further name value key text => exact ⟨fun hname ↦ absurd hname h.2.1, fun _ ↦ rfl⟩

theorem message_of_parts {parts : List Part} (haccepted : ∀ part ∈ parts, part.Accepted) :
    Message (parts.map Part.member)
      ((parts.filterMap Part.board?).getLast?.map numbersOf)
      ((parts.filterMap Part.timestamp?).getLast?.map Number.ofInt) := by
  have hboard := lastMember?_map_member fun part hpart ↦ (haccepted part hpart).names_board
  have htimestamp := lastMember?_map_member fun part hpart ↦ (haccepted part hpart).names_timestamp
  constructor
  · rw [hboard]
    cases (parts.filterMap Part.board?).getLast? with
    | none => exact .absent
    | some numbers => exact .present _
  · rw [htimestamp]
    cases (parts.filterMap Part.timestamp?).getLast? with
    | none => exact .absent
    | some value => exact .present _

/-- Assumes: parts of integers that fit and of further members that are read by themselves with a
bracket to spare, and any blanks between their tokens. The message decodes. A square is occupied
where its integer of the last board is not zero, the timestamp has the decimal text of the last one,
and without a board or a timestamp there is none. -/
theorem Update.decode_encoding (parts : List Part) (payload : List UInt8)
    (haccepted : ∀ part ∈ parts, part.Accepted) (hshallow : ∀ part ∈ parts, part.Shallow)
    (hspaced : Spaced (messageTokens parts) payload) :
    ∃ update, Update.decode payload = .ok update ∧
      (∀ row column, (hrow : row < boardSize) → (hcolumn : column < boardSize) →
        (update.grid.map fun grid ↦ grid.isOccupied row column) =
          (parts.filterMap Part.board?).getLast?.map fun numbers ↦
            decide (numbers[row][column] ≠ 0)) ∧
      update.timestamp.map Number.text =
        (parts.filterMap Part.timestamp?).getLast?.map fun value ↦ (toString value).toList := by
  have hobject := parse_message haccepted hshallow hspaced
  have hmessage := message_of_parts haccepted
  generalize (parts.filterMap Part.board?).getLast? = board at hmessage ⊢
  generalize (parts.filterMap Part.timestamp?).getLast? = timestamp at hmessage ⊢
  refine ⟨⟨(board.map numbersOf).map gridOf, timestamp.map Number.ofInt⟩,
    (Update.decode_eq_ok_iff payload _).mpr ⟨_, _, hobject, hmessage, rfl⟩, ?_, ?_⟩
  · intro row column hrow hcolumn
    cases board with
    | none => rfl
    | some numbers =>
      simp [gridOf_isOccupied _ hrow hcolumn, numbersOf]
  · cases timestamp with
    | none => rfl
    | some value => simp

/-- A board with the least integer on its first square, and nothing on the others. -/
def corner : Vector (Vector Int boardSize) boardSize :=
  (Vector.replicate boardSize (Vector.replicate boardSize 0)).set 0
    ((Vector.replicate boardSize 0).set 0 (-2 ^ 63))

/-- A further member, that board and the timestamp with the largest number. -/
def taggedCorner : List Part :=
  [.further ['i', 'd'] .null (quoted "id") (wordBytes "null"), .board corner,
    .timestamp (2 ^ 64 - 1)]

/-- It is decoded to that board and that timestamp. -/
theorem Update.decode_encoding_taggedCorner :
    ∃ update, Update.decode (messageTokens taggedCorner).flatten = .ok update ∧
      update.grid.map (fun grid ↦ grid.isOccupied 0 0) = some true ∧
      update.grid.map (fun grid ↦ grid.isOccupied 0 1) = some false ∧
      update.timestamp.map Number.text = some (toString (2 ^ 64 - 1 : Int)).toList := by
  have hcorner : ∀ row ∈ corner.toList, ∀ number ∈ row.toList, FitsNumber number := by
    unfold FitsNumber
    decide
  have haccepted : ∀ part ∈ taggedCorner, part.Accepted := by
    intro part hpart
    simp only [taggedCorner, List.mem_cons, List.not_mem_nil, or_false] at hpart
    obtain rfl | rfl | rfl := hpart
    · exact ⟨by decide, by decide, rfl, rfl⟩
    · exact hcorner
    · exact ⟨by decide, by decide⟩
  have hshallow : ∀ part ∈ taggedCorner, part.Shallow := by
    intro part hpart
    simp only [taggedCorner, List.mem_cons, List.not_mem_nil, or_false] at hpart
    obtain rfl | rfl | rfl := hpart
    · exact Nat.zero_lt_succ 126
    · trivial
    · trivial
  obtain ⟨update, hdecode, hgrid, htimestamp⟩ := Update.decode_encoding taggedCorner _
    haccepted hshallow (spaced_flatten _)
  exact ⟨update, hdecode, hgrid 0 0 (by decide) (by decide), hgrid 0 1 (by decide) (by decide),
    htimestamp⟩

/-- Arrays inside one another, with one more than `depth` brackets open. -/
def nested : Nat → Value
  | 0 => .array []
  | depth + 1 => .array [nested depth]

/-- Their text without blanks. -/
def nestedText : Nat → List UInt8
  | 0 => ['['.toUInt8, ']'.toUInt8]
  | depth + 1 => '['.toUInt8 :: (nestedText depth ++ [']'.toUInt8])

theorem valueText_nested (depth : Nat) :
    ValueText (depth + 1) (nested depth) (nestedText depth) := by
  induction depth with
  | zero => exact .array (.closed blanks_nil)
  | succ depth ih => exact .array (.item (.first blanks_nil) ih (.closed blanks_nil))

/-- A timestamp and a further value with all the brackets that may be open. -/
def deepParts : List Part :=
  [.further ['x'] (nested 126) (quoted "x") (nestedText 126), .timestamp 1]

/-- The further value is read by itself, and the message is not. -/
theorem decode_nested :
    (∀ part ∈ deepParts, part.Accepted) ∧
      Spaced (messageTokens deepParts) (messageTokens deepParts).flatten ∧
      (Update.decode (messageTokens deepParts).flatten).isOk = false := by
  refine ⟨?_, spaced_flatten _, by decide +kernel⟩
  intro part hpart
  simp only [deepParts, List.mem_cons, List.not_mem_nil, or_false] at hpart
  obtain rfl | rfl := hpart
  · refine ⟨by decide, by decide, rfl, parse_eq_ok_iff.mpr ?_⟩
    exact padded_self (valueText_nested 126)
  · exact ⟨by decide, by decide⟩

end LiveBoard.Board
