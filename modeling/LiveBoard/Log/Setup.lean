import LiveBoard.Log.File
import LiveBoard.Log.Filter

/-!
# Setting up logging

Logging takes the text of a filter and a destination. The filter is read before a file is made, so
where both are at fault the filter decides.
-/

set_option autoImplicit false
set_option relaxedAutoImplicit false

namespace LiveBoard.Log

/-- Why logging cannot be set up. -/
inductive SetupFault
  /-- The text of the filter was to be cut within a character. -/
  | filter (cut : Text.MissedCut)
  /-- The file cannot be made. -/
  | file (error : FileError)
  deriving DecidableEq, Repr

/-- Logging that is set up. -/
structure Setup where
  /-- What is logged. -/
  filter : Filter
  /-- Whether there is a file. -/
  writes : Bool
  deriving DecidableEq, Repr

/-- Sets up logging. -/
def setUp (filter : Option (List Char)) (destination : Destination) : Except SetupFault Setup := do
  let filter ← (Filter.ofText filter).mapError .filter
  return ⟨filter, ← destination.prepare.mapError .file⟩

end LiveBoard.Log
