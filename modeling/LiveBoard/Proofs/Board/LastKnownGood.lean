import LiveBoard.Board.View
import Mathlib.Data.List.Basic

/-!
# The last known good board

Which payloads decode is said by what they have to be, not by how they are read: a reader accepts
the values of one form (`Reads`), an absent or null member holds nothing (`Holds`), and a payload
decodes where both of its members hold something or nothing (`Update.decode_eq_ok_iff`). So one
malformed member takes the other one with it. The state after any payloads consists of two ledgers
that know nothing of each other, the last grid and the last timestamp that were carried
(`foldl_last_write`). What does not decode can be left out, and what comes twice in a row need come
only once (`State.last_known_good`).
-/

set_option autoImplicit false
set_option relaxedAutoImplicit false

namespace LiveBoard.Board

open Json

/-! ### What readers accept -/

/-- A reader accepts the values of a form, and no others, and makes something of what they hold. -/
structure Reads {α β : Type} (read : Value → Except Misfit α) (form : β → Value) (make : β → α) :
    Prop where
  /-- Values of the form are read. -/
  accepts : ∀ held, read (form held) = .ok (make held)
  /-- What is read has the form. -/
  formed : ∀ value result, read value = .ok result → ∃ held, value = form held ∧ make held = result

/-- The value of eight items of a form. -/
def eightOf {β : Type} (form : β → Value) (items : Vector β boardSize) : Value :=
  .array (items.toList.map form)

/-- The value of a board: eight rows of eight numbers. -/
def boardValue : Vector (Vector Number boardSize) boardSize → Value := eightOf (eightOf .number)

/-- The grid of the numbers of a board. -/
def gridOf (numbers : Vector (Vector Number boardSize) boardSize) : Grid :=
  ⟨numbers.map fun row ↦ row.map standsForPiece⟩

theorem reads_number : Reads readNumberValue Value.number id where
  accepts _ := rfl
  formed value result hread := by
    cases value with
    | number found => exact ⟨found, rfl, Except.ok.inj hread⟩
    | _ => cases hread

section Eight

variable {α β : Type} {read : Value → Except Misfit α} {form : β → Value} {make : β → α}

theorem Reads.accepts_items (h : Reads read form make) (held : List β) :
    (held.map form).mapM read = .ok (held.map make) := by
  induction held with
  | nil => rfl
  | cons first rest ih =>
    rw [List.map_cons, List.mapM_cons, h.accepts first, ih]
    rfl

theorem Reads.formed_items (h : Reads read form make) (items : List Value) (results : List α)
    (hread : items.mapM read = .ok results) :
    ∃ held : List β, items = held.map form ∧ held.map make = results := by
  induction items generalizing results with
  | nil =>
    cases hread
    exact ⟨[], rfl, rfl⟩
  | cons item rest ih =>
    rw [List.mapM_cons] at hread
    cases hfirst : read item with
    | error misfit =>
      rw [hfirst] at hread
      cases hread
    | ok result =>
      cases hrest : rest.mapM read with
      | error misfit =>
        rw [hfirst, hrest] at hread
        cases hread
      | ok others =>
        rw [hfirst, hrest] at hread
        cases hread
        obtain ⟨first, rfl, rfl⟩ := h.formed item result hfirst
        obtain ⟨held, rfl, rfl⟩ := ih others hrest
        exact ⟨first :: held, rfl, rfl⟩

/-- An array of eight is read by its items. -/
theorem Reads.eight (h : Reads read form make) :
    Reads (readEight read) (eightOf form) (Vector.map make) where
  accepts held := by
    have hlength : (held.toList.map form).length = boardSize := by simp
    have hfound : ((held.toList.map form).take boardSize).mapM read =
        .ok (held.toList.map make) := by
      rw [List.take_of_length_le (Nat.le_of_eq hlength)]
      exact h.accepts_items held.toList
    unfold readEight eightOf
    dsimp only
    rw [hfound]
    change (if h : (held.toList.map make).toArray.size = boardSize then _ else _) = _
    rw [dif_pos (by simp), if_pos hlength]
    congr 1
    exact Vector.toList_inj.mp (by simp [Vector.toList_map])
  formed value result hread := by
    cases value with
    | array items =>
      unfold readEight at hread
      dsimp only at hread
      cases hfound : (items.take boardSize).mapM read with
      | error misfit =>
        rw [hfound] at hread
        cases hread
      | ok found =>
        rw [hfound] at hread
        change (if h : found.toArray.size = boardSize then _ else _) = _ at hread
        split_ifs at hread with hsize hlength
        cases hread
        obtain ⟨held, hitems, rfl⟩ := h.formed_items _ _ hfound
        have hheld : held.toArray.size = boardSize := by simpa using hsize
        rw [List.take_of_length_le (Nat.le_of_eq hlength)] at hitems
        exact ⟨⟨held.toArray, hheld⟩, by rw [hitems]; rfl, by simp⟩
    | _ => cases hread

end Eight

/-- A board is read by its numbers. -/
theorem reads_grid : Reads readGrid boardValue gridOf where
  accepts numbers := by
    have hrows := reads_number.eight.eight.accepts numbers
    unfold readGrid boardValue
    rw [hrows]
    simp [gridOf, bind, Except.bind, pure, Except.pure]
  formed value result hread := by
    unfold readGrid at hread
    cases hfound : readEight (readEight readNumberValue) value with
    | error misfit =>
      rw [hfound] at hread
      cases hread
    | ok rows =>
      rw [hfound] at hread
      cases hread
      obtain ⟨numbers, hvalue, rfl⟩ := reads_number.eight.eight.formed value rows hfound
      exact ⟨numbers, hvalue, by simp [gridOf]⟩

/-! ### Members -/

/-- What an optional member holds by a form: nothing where it is absent or null. -/
inductive Holds {β : Type} (form : β → Value) : Option Value → Option β → Prop
  /-- It is absent. -/
  | absent : Holds form none none
  /-- It is null. -/
  | null : Holds form (some .null) none
  /-- It is a value of the form. -/
  | present (held : β) : Holds form (some (form held)) (some held)

@[simp]
theorem readMember_some {α : Type} (read : Value → Except Misfit α) {value : Value}
    (hvalue : value ≠ .null) : readMember read (some value) = (read value).map some := by
  cases value <;> first | exact absurd rfl hvalue | rfl

/-- Assumes: a form without null. A member is read by what it holds. -/
theorem Reads.member {α β : Type} {read : Value → Except Misfit α} {form : β → Value}
    {make : β → α} (h : Reads read form make) (hform : ∀ held, form held ≠ .null)
    (member : Option Value) (result : Option α) :
    readMember read member = .ok result ↔
      ∃ held, Holds form member held ∧ held.map make = result := by
  constructor
  · intro hread
    cases member with
    | none =>
      cases hread
      exact ⟨none, .absent, rfl⟩
    | some value =>
      by_cases hvalue : value = .null
      · subst hvalue
        cases hread
        exact ⟨none, .null, rfl⟩
      · rw [readMember_some read hvalue] at hread
        cases hfound : read value with
        | error misfit =>
          rw [hfound] at hread
          cases hread
        | ok found =>
          rw [hfound] at hread
          cases hread
          obtain ⟨held, rfl, rfl⟩ := h.formed value found hfound
          exact ⟨some held, .present held, rfl⟩
  · rintro ⟨held, hholds, rfl⟩
    cases hholds with
    | absent => rfl
    | null => rfl
    | present held =>
      rw [readMember_some read (hform held), h.accepts held]
      rfl

/-- The members of a message hold the numbers of a board, or nothing, and a timestamp, or
nothing. -/
structure Message (members : List (List Char × Value))
    (board : Option (Vector (Vector Number boardSize) boardSize)) (timestamp : Option Number) :
    Prop where
  board : Holds boardValue (lastMember? "board".toList members) board
  timestamp : Holds Value.number (lastMember? "timestamp".toList members) timestamp

theorem Update.ofMembers_eq_ok_iff (members : List (List Char × Value)) (update : Update) :
    Update.ofMembers members = .ok update ↔
      ∃ board, Message members board update.timestamp ∧ board.map gridOf = update.grid := by
  have hboard := reads_grid.member (fun _ hnull ↦ Value.noConfusion hnull)
    (lastMember? "board".toList members)
  have htimestamp := reads_number.member (fun _ hnull ↦ Value.noConfusion hnull)
    (lastMember? "timestamp".toList members)
  unfold Update.ofMembers
  constructor
  · intro hread
    cases hgrid : readMember readGrid (lastMember? "board".toList members) with
    | error misfit =>
      rw [hgrid] at hread
      cases hread
    | ok grid =>
      cases htime : readMember readNumberValue (lastMember? "timestamp".toList members) with
      | error misfit =>
        rw [hgrid, htime] at hread
        cases hread
      | ok time =>
        rw [hgrid, htime] at hread
        cases hread
        obtain ⟨board, hholds, hmade⟩ := (hboard grid).mp hgrid
        obtain ⟨held, hheld, rfl⟩ := (htimestamp time).mp htime
        rw [Option.map_id] at *
        exact ⟨board, ⟨hholds, hheld⟩, hmade⟩
  · rintro ⟨board, hmessage, hmade⟩
    rw [(hboard update.grid).mpr ⟨board, hmessage.board, hmade⟩,
      (htimestamp update.timestamp).mpr ⟨update.timestamp, hmessage.timestamp, by simp⟩]
    rfl

/-- A payload decodes where it is an object whose two members hold something or nothing. -/
theorem Update.decode_eq_ok_iff (payload : List UInt8) (update : Update) :
    Update.decode payload = .ok update ↔
      ∃ members board, parse payload = .ok (.object members) ∧
        Message members board update.timestamp ∧ board.map gridOf = update.grid := by
  unfold Update.decode
  cases hparse : parse payload with
  | error stop =>
    constructor
    · intro hread
      cases hread
    · rintro ⟨members, board, hobject, -⟩
      cases hobject
  | ok value =>
    cases value with
    | object members =>
      constructor
      · intro hread
        cases hmembers : Update.ofMembers members with
        | error misfit =>
          dsimp only at hread
          rw [hmembers] at hread
          cases hread
        | ok found =>
          dsimp only at hread
          rw [hmembers] at hread
          cases hread
          obtain ⟨board, hmessage⟩ := (Update.ofMembers_eq_ok_iff members _).mp hmembers
          exact ⟨members, board, rfl, hmessage⟩
      · rintro ⟨members', board, hobject, hmessage⟩
        cases hobject
        dsimp only
        rw [(Update.ofMembers_eq_ok_iff members update).mpr ⟨board, hmessage⟩]
        rfl
    | _ =>
      constructor
      · intro hread
        cases hread
      · rintro ⟨members, board, hobject, -⟩
        cases hobject

/-! ### What payloads carry -/

/-- Whether a payload decodes. -/
def decodes (payload : List UInt8) : Bool := (Update.decode payload).isOk

/-- The grid that a payload carries. -/
def gridIn (payload : List UInt8) : Option Grid :=
  (Update.decode payload).toOption.bind Update.grid

/-- The timestamp that a payload carries. -/
def timestampIn (payload : List UInt8) : Option Number :=
  (Update.decode payload).toOption.bind Update.timestamp

section Payload

variable (state : State) (payload : List UInt8)

@[simp]
theorem State.receive_grid :
    (state.receive payload).grid = (gridIn payload).getD state.grid := by
  unfold State.receive gridIn
  cases Update.decode payload <;> rfl

@[simp]
theorem State.receive_timestamp :
    (state.receive payload).timestamp = (timestampIn payload).getD state.timestamp := by
  unfold State.receive timestampIn
  cases Update.decode payload <;> rfl

theorem carriesUpdate_iff :
    carriesUpdate payload = true ↔ gridIn payload ≠ none ∨ timestampIn payload ≠ none := by
  unfold carriesUpdate gridIn timestampIn
  cases Update.decode payload with
  | error cause => simp [Except.toOption]
  | ok update =>
    obtain ⟨grid, timestamp⟩ := update
    cases grid <;> cases timestamp <;> simp [Update.isEmpty, Except.toOption]

/-- A payload that carries nothing leaves the state as it is. -/
@[simp]
theorem State.receive_of_carriesUpdate (hnothing : carriesUpdate payload = false) :
    state.receive payload = state := by
  unfold carriesUpdate at hnothing
  unfold State.receive
  cases hdecode : Update.decode payload with
  | error cause => rfl
  | ok update =>
    obtain ⟨grid, timestamp⟩ := update
    rw [hdecode] at hnothing
    cases grid <;> cases timestamp <;> first | rfl | cases hnothing

theorem carriesUpdate_of_not_decodes (hfault : decodes payload = false) :
    carriesUpdate payload = false := by
  unfold decodes at hfault
  unfold carriesUpdate
  cases hdecode : Update.decode payload with
  | error cause => rfl
  | ok update =>
    rw [hdecode] at hfault
    cases hfault

/-- A payload that comes again directly after itself changes nothing more. -/
@[simp]
theorem State.receive_receive :
    (state.receive payload).receive payload = state.receive payload := by
  unfold State.receive
  cases Update.decode payload with
  | error cause => rfl
  | ok update =>
    obtain ⟨grid, timestamp⟩ := update
    cases grid <;> cases timestamp <;> rfl

end Payload

/-- What a payload carries is what its members hold. -/
theorem carried_of_message {payload : List UInt8} {members : List (List Char × Value)}
    {board : Option (Vector (Vector Number boardSize) boardSize)} {timestamp : Option Number}
    (hobject : parse payload = .ok (.object members)) (hmessage : Message members board timestamp) :
    gridIn payload = board.map gridOf ∧ timestampIn payload = timestamp := by
  have hdecode := (Update.decode_eq_ok_iff payload ⟨board.map gridOf, timestamp⟩).mpr
    ⟨members, board, hobject, hmessage, rfl⟩
  unfold gridIn timestampIn
  rw [hdecode]
  exact ⟨rfl, rfl⟩

/-- A payload of which a member is malformed does not decode. -/
theorem decodes_of_malformed {payload : List UInt8} {members : List (List Char × Value)}
    (hobject : parse payload = .ok (.object members))
    (hmalformed : ∀ board timestamp, ¬ Message members board timestamp) :
    decodes payload = false := by
  unfold decodes
  cases hdecode : Update.decode payload with
  | error cause => rfl
  | ok update =>
    obtain ⟨members', board, hobject', hmessage, -⟩ :=
      (Update.decode_eq_ok_iff payload update).mp hdecode
    rw [hobject] at hobject'
    cases hobject'
    exact absurd hmessage (hmalformed board update.timestamp)

/-! ### The ledgers -/

/-- Assumes: a part of a state to which every item writes its own value, or nothing. In the end the
part is what was written last. -/
theorem foldl_last_write {σ ι α : Type} {step : σ → ι → σ} (part : σ → α) (write : ι → Option α)
    (hstep : ∀ state item, part (step state item) = (write item).getD (part state))
    (state : σ) (items : List ι) :
    part (items.foldl step state) = ((items.filterMap write).getLast?).getD (part state) := by
  induction items generalizing state with
  | nil => rfl
  | cons item rest ih =>
    rw [List.foldl_cons, ih, hstep]
    cases hwrite : write item with
    | none =>
      rw [List.filterMap_cons_none hwrite]
      rfl
    | some value =>
      rw [List.filterMap_cons_some hwrite, List.getLast?_cons]
      rfl

/-- What does not decode can be left out. -/
theorem State.foldl_filter_decodes (state : State) (payloads : List (List UInt8)) :
    (payloads.filter decodes).foldl State.receive state = payloads.foldl State.receive state := by
  induction payloads generalizing state with
  | nil => rfl
  | cons payload rest ih =>
    cases hdecodes : decodes payload with
    | true =>
      rw [List.filter_cons_of_pos hdecodes]
      exact ih (state.receive payload)
    | false =>
      have hsame := state.receive_of_carriesUpdate payload
        (carriesUpdate_of_not_decodes payload hdecodes)
      rw [List.filter_cons_of_neg (by rw [hdecodes]; exact Bool.false_ne_true), List.foldl_cons,
        hsame]
      exact ih state

/-- After any payloads the grid is the last one that was carried and the timestamp is the last one
that was carried, the empty grid and zero where none was, whichever payloads these are. A payload
updates exactly where it carries a grid or a timestamp. An object carries what its two members
hold; where one of them is malformed it carries nothing, also where the other one is well formed.
No state and no view after a payload depend on the payloads before it that do not decode, nor on
how often it came directly before. -/
theorem State.last_known_good (payloads : List (List UInt8)) :
    let after := fun payloads ↦ payloads.foldl State.receive State.initial
    (after payloads).grid = (payloads.filterMap gridIn).getLast?.getD .empty ∧
    (after payloads).timestamp = (payloads.filterMap timestampIn).getLast?.getD (.natural 0) ∧
    (∀ payload, carriesUpdate payload = true ↔
      gridIn payload ≠ none ∨ timestampIn payload ≠ none) ∧
    (∀ payload members, parse payload = .ok (.object members) →
      (∀ board timestamp, Message members board timestamp →
        gridIn payload = board.map gridOf ∧ timestampIn payload = timestamp) ∧
      ((∀ board, ¬ Holds boardValue (lastMember? "board".toList members) board) ∨
          (∀ timestamp, ¬ Holds Value.number (lastMember? "timestamp".toList members) timestamp) →
        gridIn payload = none ∧ timestampIn payload = none ∧ carriesUpdate payload = false)) ∧
    ∀ later,
      (after (payloads.filter decodes ++ later) = after (payloads ++ later) ∧
        (after (payloads.filter decodes ++ later)).view = (after (payloads ++ later)).view) ∧
      ∀ payload,
        after (payloads ++ payload :: payload :: later) = after (payloads ++ payload :: later) ∧
        (after (payloads ++ payload :: payload :: later)).view =
          (after (payloads ++ payload :: later)).view := by
  intro after
  refine ⟨?_, ?_, carriesUpdate_iff, ?_, ?_⟩
  · exact foldl_last_write State.grid gridIn State.receive_grid .initial payloads
  · exact foldl_last_write State.timestamp timestampIn State.receive_timestamp .initial payloads
  · intro payload members hobject
    refine ⟨fun board timestamp hmessage ↦ carried_of_message hobject hmessage, ?_⟩
    intro hmalformed
    have hfault : decodes payload = false := by
      refine decodes_of_malformed hobject ?_
      intro board timestamp hmessage
      rcases hmalformed with hboard | htimestamp
      · exact hboard board hmessage.board
      · exact htimestamp timestamp hmessage.timestamp
    have hnothing := carriesUpdate_of_not_decodes payload hfault
    have hcarried := mt (carriesUpdate_iff payload).mpr (by simp [hnothing])
    rw [not_or, not_not, not_not] at hcarried
    exact ⟨hcarried.1, hcarried.2, hnothing⟩
  · intro later
    have hfiltered : after (payloads.filter decodes ++ later) = after (payloads ++ later) := by
      change List.foldl _ _ _ = List.foldl _ _ _
      rw [List.foldl_append, List.foldl_append, State.foldl_filter_decodes]
    refine ⟨⟨hfiltered, congrArg State.view hfiltered⟩, ?_⟩
    intro payload
    have hrepeated : after (payloads ++ payload :: payload :: later) =
        after (payloads ++ payload :: later) := by
      change List.foldl _ _ _ = List.foldl _ _ _
      rw [List.foldl_append, List.foldl_append, List.foldl_cons, List.foldl_cons,
        State.receive_receive, List.foldl_cons]
    exact ⟨hrepeated, congrArg State.view hrepeated⟩

/-- An object with a timestamp and a board that is none. -/
def halfMalformed : List UInt8 :=
  Text.encodeText ['{', '"', 'b', 'o', 'a', 'r', 'd', '"', ':', '0', ',', '"', 't', 'i', 'm', 'e',
    's', 't', 'a', 'm', 'p', '"', ':', '1', '}']

/-- Its timestamp is not taken. -/
theorem State.last_known_good_halfMalformed :
    carriesUpdate halfMalformed = false ∧
      ([halfMalformed].foldl State.receive .initial).timestamp = .natural 0 := by
  obtain ⟨-, htimestamp, -, hcarried, -⟩ := State.last_known_good [halfMalformed]
  obtain ⟨-, hmalformed⟩ := hcarried halfMalformed
    [("board".toList, .number (.natural 0)), ("timestamp".toList, .number (.natural 1))] rfl
  have hboard : ∀ board, ¬ Holds boardValue (some (.number (.natural 0))) board := by
    intro board hholds
    cases hholds
  obtain ⟨-, hnone, hnothing⟩ := hmalformed (Or.inl hboard)
  refine ⟨hnothing, htimestamp.trans ?_⟩
  rw [List.filterMap_cons_none hnone]
  rfl

end LiveBoard.Board
