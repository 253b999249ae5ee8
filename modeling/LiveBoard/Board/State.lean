import LiveBoard.Board.Update

/-!
# The last known good board

The state holds the grid and the timestamp shown. An update replaces the parts it carries, and a
payload that does not decode leaves the state exactly as it was.
-/

set_option autoImplicit false
set_option relaxedAutoImplicit false

namespace LiveBoard.Board

/-- The board shown and the timestamp of the update that last set it. -/
structure State where
  /-- The grid. -/
  grid : Grid
  /-- The timestamp. -/
  timestamp : Json.Number
  deriving DecidableEq, Repr

/-- The empty board at timestamp zero. -/
def State.initial : State := ⟨.empty, .natural 0⟩

/-- The state after an update. -/
def State.apply (state : State) (update : Update) : State :=
  { grid := update.grid.getD state.grid
    timestamp := update.timestamp.getD state.timestamp }

/-- The state after a payload. -/
def State.receive (state : State) (payload : List UInt8) : State :=
  match Update.decode payload with
  | .ok update => state.apply update
  | .error _ => state

/-- Whether a payload carries something to apply. -/
def carriesUpdate (payload : List UInt8) : Bool :=
  match Update.decode payload with
  | .ok update => !update.isEmpty
  | .error _ => false

end LiveBoard.Board
