/-!
# Log files

Events go to a file that is named from outside, or nowhere. The file is made anew every time
logging is set up, and setting it up again changes nothing else.
-/

set_option autoImplicit false
set_option relaxedAutoImplicit false

namespace LiveBoard.Log

/-- Why a file cannot be made. -/
inductive FileError
  /-- Its directory does not exist. -/
  | notFound
  /-- It may not be written. -/
  | permissionDenied
  /-- A part of its path is no directory. -/
  | notADirectory
  /-- It is a directory. -/
  | isADirectory
  /-- Something else, in the words of the system. -/
  | other (text : String)
  deriving DecidableEq, Repr

/-- A text of the system with its number. -/
def systemText (text : String) (number : Nat) : String := s!"{text} (os error {number})"

/-- The wording of an error. -/
def FileError.message : FileError → String
  | .notFound => systemText "No such file or directory" 2
  | .permissionDenied => systemText "Permission denied" 13
  | .notADirectory => systemText "Not a directory" 20
  | .isADirectory => systemText "Is a directory" 21
  | .other text => text

/-- Where events go. -/
inductive Destination
  /-- Nowhere. -/
  | nowhere
  /-- To a file that can be made. -/
  | file
  /-- To a file that cannot be made. -/
  | unavailable (error : FileError)
  deriving DecidableEq, Repr

/-- Sets up logging, and tells whether there is a file then. -/
def Destination.prepare : Destination → Except FileError Bool
  | .nowhere => .ok false
  | .file => .ok true
  | .unavailable error => .error error

end LiveBoard.Log
