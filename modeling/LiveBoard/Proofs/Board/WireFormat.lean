import LiveBoard.Proofs.Board.LastKnownGood
import LiveBoard.Proofs.Json.Grammar
import Mathlib.Data.Set.List

/-!
# The wire format

`Update.wire_format` says which byte strings decode by the grammar of JSON texts and by the values
of the two members alone: a text of no value is malformed, a value that is no object is not an
object, and an object decodes where `board` and `timestamp` are absent, null or of their form. What
an object decodes to depends on nothing but these two members (`Update.decode_congr`), and a square
on nothing but its own element (`gridOf_isOccupied`).
-/

set_option autoImplicit false
set_option relaxedAutoImplicit false

namespace LiveBoard.Board

open Json

/-! ### Forms -/

/-- A value is a number. -/
def IsNumber (value : Value) : Prop := ∃ held, value = .number held

/-- A value is an array of exactly eight values of a form. -/
def IsEight (form : Value → Prop) (value : Value) : Prop :=
  ∃ items, value = .array items ∧ items.length = boardSize ∧ ∀ item ∈ items, form item

/-- A value is an array of exactly eight arrays of exactly eight numbers. -/
def IsBoard : Value → Prop := IsEight (IsEight IsNumber)

/-- A member is absent, null or a value of a form. -/
def IsOptional (form : Value → Prop) (member : Option Value) : Prop :=
  ∀ value, member = some value → value = .null ∨ form value

section Forms

variable {β : Type} {form : Value → Prop} {make : β → Value}

/-- Eight values of a form are the value of eight of what they hold. -/
theorem isEight_iff (hform : ∀ value, form value ↔ ∃ held, value = make held) (value : Value) :
    IsEight form value ↔ ∃ held : Vector β boardSize, value = eightOf make held := by
  constructor
  · rintro ⟨items, rfl, hlength, hitems⟩
    have hrange : items ∈ Set.range (List.map make) := by
      rw [Set.range_list_map]
      intro item hitem
      obtain ⟨held, rfl⟩ := (hform item).mp (hitems item hitem)
      exact ⟨held, rfl⟩
    obtain ⟨held, rfl⟩ := hrange
    rw [List.length_map] at hlength
    exact ⟨⟨held.toArray, hlength⟩, rfl⟩
  · rintro ⟨held, rfl⟩
    refine ⟨_, rfl, by simp, fun item hitem ↦ ?_⟩
    obtain ⟨inner, -, rfl⟩ := List.mem_map.mp hitem
    exact (hform _).mpr ⟨inner, rfl⟩

theorem isOptional_iff (hform : ∀ value, form value ↔ ∃ held, value = make held)
    (member : Option Value) : IsOptional form member ↔ ∃ held, Holds make member held := by
  constructor
  · intro hmember
    cases member with
    | none => exact ⟨none, .absent⟩
    | some value =>
      obtain rfl | hvalue := hmember value rfl
      · exact ⟨none, .null⟩
      · obtain ⟨held, rfl⟩ := (hform value).mp hvalue
        exact ⟨some held, .present held⟩
  · rintro ⟨held, hholds⟩ value hvalue
    cases hholds with
    | absent => cases hvalue
    | null =>
      cases hvalue
      exact Or.inl rfl
    | present held =>
      cases hvalue
      exact Or.inr ((hform _).mpr ⟨held, rfl⟩)

end Forms

theorem isBoard_iff (value : Value) : IsBoard value ↔ ∃ numbers, value = boardValue numbers :=
  isEight_iff (isEight_iff fun _ ↦ Iff.rfl) value

/-- The members of a board message are absent, null or of their form. -/
structure WellFormed (members : List (List Char × Value)) : Prop where
  board : IsOptional IsBoard (lastMember? "board".toList members)
  timestamp : IsOptional IsNumber (lastMember? "timestamp".toList members)

theorem wellFormed_iff (members : List (List Char × Value)) :
    WellFormed members ↔ ∃ board timestamp, Message members board timestamp := by
  constructor
  · intro h
    obtain ⟨board, hboard⟩ := (isOptional_iff isBoard_iff _).mp h.board
    obtain ⟨timestamp, htimestamp⟩ := (isOptional_iff (fun _ ↦ Iff.rfl) _).mp h.timestamp
    exact ⟨board, timestamp, hboard, htimestamp⟩
  · rintro ⟨board, timestamp, hboard, htimestamp⟩
    exact ⟨(isOptional_iff isBoard_iff _).mpr ⟨board, hboard⟩,
      (isOptional_iff (fun _ ↦ Iff.rfl) _).mpr ⟨timestamp, htimestamp⟩⟩

/-! ### Squares -/

/-- The item of an array. -/
def item? (value : Value) (index : Nat) : Option Value :=
  match value with
  | .array items => items[index]?
  | _ => none

@[simp]
theorem item?_eightOf {β : Type} (form : β → Value) (held : Vector β boardSize) {index : Nat}
    (hindex : index < boardSize) : item? (eightOf form held) index = some (form held[index]) := by
  simp [item?, eightOf, hindex]

/-- A square is occupied exactly where its own number is not zero. -/
theorem gridOf_isOccupied (numbers : Vector (Vector Number boardSize) boardSize) {row column : Nat}
    (hrow : row < boardSize) (hcolumn : column < boardSize) :
    (gridOf numbers).isOccupied row column = !numbers[row][column].isZero := by
  simp [gridOf, Grid.isOccupied, standsForPiece, hrow, hcolumn]

/-! ### Decoding -/

/-- The error reports a malformed payload. -/
def DecodeError.IsMalformed : DecodeError → Prop
  | .syntaxFault _ _ => True
  | .notAnObject => False
  | .misfit _ => True

section Decoding

variable {payload : List UInt8}

theorem Update.decode_object {members : List (List Char × Value)}
    (hobject : parse payload = .ok (.object members)) :
    Update.decode payload = (Update.ofMembers members).mapError DecodeError.misfit := by
  simp [Update.decode, hobject]

/-- Members other than the two of a message do not matter. -/
theorem Update.decode_congr {other : List UInt8} {members others : List (List Char × Value)}
    (hmembers : parse payload = .ok (.object members))
    (hothers : parse other = .ok (.object others))
    (hboard : lastMember? "board".toList members = lastMember? "board".toList others)
    (htimestamp : lastMember? "timestamp".toList members =
      lastMember? "timestamp".toList others) :
    Update.decode payload = Update.decode other := by
  rw [Update.decode_object hmembers, Update.decode_object hothers, Update.ofMembers,
    Update.ofMembers, hboard, htimestamp]

/-- A text of no value is malformed. -/
theorem Update.decode_of_no_value (hnone : ∀ value, ¬ DocumentText value payload) :
    ∃ cause, Update.decode payload = .error cause ∧ cause.IsMalformed := by
  cases hparse : parse payload with
  | ok value => exact absurd (parse_eq_ok_iff.mp hparse) (hnone value)
  | error stop =>
    refine ⟨.syntaxFault stop.fault (.ofStop payload stop), ?_, trivial⟩
    simp [Update.decode, hparse]

theorem Update.decode_eq_notAnObject_iff :
    Update.decode payload = .error .notAnObject ↔
      ∃ value, DocumentText value payload ∧ ∀ members, value ≠ .object members := by
  constructor
  · intro hdecode
    cases hparse : parse payload with
    | error stop => simp [Update.decode, hparse] at hdecode
    | ok value =>
      refine ⟨value, parse_eq_ok_iff.mp hparse, ?_⟩
      rintro members rfl
      rw [Update.decode_object hparse] at hdecode
      cases hmembers : Update.ofMembers members <;> rw [hmembers] at hdecode <;> cases hdecode
  · rintro ⟨value, htext, hvalue⟩
    have hparse := parse_eq_ok_iff.mpr htext
    cases value with
    | object members => exact absurd rfl (hvalue members)
    | _ => simp [Update.decode, hparse]

theorem Update.decodes_iff {members : List (List Char × Value)}
    (hobject : parse payload = .ok (.object members)) :
    (∃ update, Update.decode payload = .ok update) ↔ WellFormed members := by
  rw [wellFormed_iff]
  constructor
  · rintro ⟨update, hdecode⟩
    obtain ⟨members', board, hobject', hmessage, -⟩ :=
      (Update.decode_eq_ok_iff payload update).mp hdecode
    rw [hobject] at hobject'
    cases hobject'
    exact ⟨board, update.timestamp, hmessage⟩
  · rintro ⟨board, timestamp, hmessage⟩
    exact ⟨⟨board.map gridOf, timestamp⟩,
      (Update.decode_eq_ok_iff payload _).mpr ⟨members, board, hobject, hmessage, rfl⟩⟩

/-- An object with a member of a wrong form is malformed. -/
theorem Update.decode_of_not_wellFormed {members : List (List Char × Value)}
    (hobject : parse payload = .ok (.object members)) (hwrong : ¬ WellFormed members) :
    ∃ cause, Update.decode payload = .error cause ∧ cause.IsMalformed := by
  rw [← Update.decodes_iff hobject, Update.decode_object hobject] at hwrong
  rw [Update.decode_object hobject]
  cases hmembers : Update.ofMembers members with
  | ok update => exact absurd ⟨update, by rw [hmembers]; rfl⟩ hwrong
  | error misfit => exact ⟨.misfit misfit, rfl, trivial⟩

end Decoding

/-- An update holds what the two members of a message hold. -/
structure Update.Follows (update : Update) (members : List (List Char × Value)) : Prop where
  /-- The grid is left as it is where the board is absent or null. -/
  grid_none : update.grid = none ↔
    lastMember? "board".toList members = none ∨ lastMember? "board".toList members = some .null
  /-- A square is occupied where its element of its row is not zero. -/
  square : ∀ grid, update.grid = some grid → ∀ row column, row < boardSize → column < boardSize →
    ∃ number, ((lastMember? "board".toList members).bind fun board ↦
        (item? board row).bind fun squares ↦ item? squares column) = some (.number number) ∧
      grid.isOccupied row column = !number.isZero
  /-- The timestamp is the number of the member. -/
  timestamp : ∀ number, update.timestamp = some number ↔
    lastMember? "timestamp".toList members = some (.number number)

theorem Update.follows_of_decode {payload : List UInt8} {members : List (List Char × Value)}
    {update : Update} (hobject : parse payload = .ok (.object members))
    (hdecode : Update.decode payload = .ok update) : update.Follows members := by
  obtain ⟨members', board, hobject', hmessage, hgrid⟩ :=
    (Update.decode_eq_ok_iff payload update).mp hdecode
  rw [hobject] at hobject'
  cases hobject'
  obtain ⟨hboard, htimestamp⟩ := hmessage
  refine ⟨?_, ?_, ?_⟩
  · rw [← hgrid, Option.map_eq_none_iff]
    generalize lastMember? "board".toList members = member at hboard
    cases hboard with
    | absent => simp
    | null => simp
    | present numbers => simp [boardValue, eightOf]
  · intro grid hsome row column hrow hcolumn
    generalize lastMember? "board".toList members = member at hboard
    rw [← hgrid, Option.map_eq_some_iff] at hsome
    obtain ⟨numbers, rfl, rfl⟩ := hsome
    cases hboard
    refine ⟨numbers[row][column], ?_, gridOf_isOccupied numbers hrow hcolumn⟩
    rw [Option.bind_some, boardValue, item?_eightOf _ _ hrow, Option.bind_some,
      item?_eightOf _ _ hcolumn]
  · intro number
    generalize lastMember? "timestamp".toList members = member at htimestamp
    generalize update.timestamp = held at htimestamp
    cases htimestamp with
    | absent => simp
    | null => simp
    | present held => simp

/-- A payload decodes by the wire format: it is malformed where it is the text of no value, and no
object where it is the text of another value; the text of an object decodes exactly where the last
members `board` and `timestamp` are absent, null, or eight arrays of eight numbers and a number,
and is malformed otherwise. What it decodes to follows these two members, and so does every other
text of an object that agrees on them. -/
theorem Update.wire_format (payload : List UInt8) :
    ((∀ value, ¬ DocumentText value payload) →
      ∃ cause, Update.decode payload = .error cause ∧ cause.IsMalformed) ∧
    (Update.decode payload = .error .notAnObject ↔
      ∃ value, DocumentText value payload ∧ ∀ members, value ≠ .object members) ∧
    ∀ members, DocumentText (.object members) payload →
      ((∃ update, Update.decode payload = .ok update) ↔ WellFormed members) ∧
      (¬ WellFormed members →
        ∃ cause, Update.decode payload = .error cause ∧ cause.IsMalformed) ∧
      (∀ update, Update.decode payload = .ok update → update.Follows members) ∧
      ∀ other others, DocumentText (.object others) other →
        lastMember? "board".toList members = lastMember? "board".toList others →
        lastMember? "timestamp".toList members = lastMember? "timestamp".toList others →
        Update.decode payload = Update.decode other := by
  refine ⟨Update.decode_of_no_value, Update.decode_eq_notAnObject_iff, ?_⟩
  intro members htext
  have hobject := parse_eq_ok_iff.mpr htext
  refine ⟨Update.decodes_iff hobject, Update.decode_of_not_wellFormed hobject,
    fun update ↦ Update.follows_of_decode hobject, ?_⟩
  intro other others hother hboard htimestamp
  exact Update.decode_congr hobject (parse_eq_ok_iff.mpr hother) hboard htimestamp

/-- An object with a timestamp given twice, the first time by a word. -/
def repeatedTimestamp : List UInt8 :=
  Text.encodeText ['{', '"', 't', 'i', 'm', 'e', 's', 't', 'a', 'm', 'p', '"', ':', 't', 'r', 'u',
    'e', ',', '"', 't', 'i', 'm', 'e', 's', 't', 'a', 'm', 'p', '"', ':', '7', '}']

/-- It decodes to the last timestamp alone. -/
theorem Update.wire_format_repeatedTimestamp :
    ∃ update, Update.decode repeatedTimestamp = .ok update ∧ update.grid = none ∧
      update.timestamp = some (.natural 7) := by
  have htext : DocumentText (.object [("timestamp".toList, .bool true),
      ("timestamp".toList, .number (.natural 7))]) repeatedTimestamp := parse_eq_ok_iff.mp rfl
  obtain ⟨-, -, hobject⟩ := Update.wire_format repeatedTimestamp
  obtain ⟨hdecodes, -, hfollows, -⟩ := hobject _ htext
  have hboard : lastMember? "board".toList [("timestamp".toList, .bool true),
      ("timestamp".toList, .number (.natural 7))] = none := rfl
  have htimestamp : lastMember? "timestamp".toList [("timestamp".toList, .bool true),
      ("timestamp".toList, .number (.natural 7))] = some (.number (.natural 7)) := rfl
  obtain ⟨update, hdecode⟩ := hdecodes.mpr
    { board := fun value hvalue ↦ by rw [hboard] at hvalue; cases hvalue
      timestamp := fun value hvalue ↦ by
        rw [htimestamp] at hvalue
        exact Or.inr ⟨.natural 7, (Option.some.inj hvalue).symm⟩ }
  have hupdate := hfollows update hdecode
  exact ⟨update, hdecode, hupdate.grid_none.mpr (Or.inl hboard),
    (hupdate.timestamp _).mpr htimestamp⟩

end LiveBoard.Board
