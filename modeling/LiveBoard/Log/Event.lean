/-!
# Log events

An event has a level, the module it comes from, a message and named values. Its line shows the
message and then the values.
-/

set_option autoImplicit false
set_option relaxedAutoImplicit false

namespace LiveBoard.Log

/-- How grave an event is. -/
inductive Level
  | error
  | warn
  | info
  | debug
  | trace
  deriving DecidableEq, Repr

/-- The name of a level. -/
def Level.name : Level → String
  | .error => "ERROR"
  | .warn => "WARN"
  | .info => "INFO"
  | .debug => "DEBUG"
  | .trace => "TRACE"

/-- The place of a level in the order of gravity: a graver level comes first. -/
def Level.rank : Level → Nat
  | .error => 1
  | .warn => 2
  | .info => 3
  | .debug => 4
  | .trace => 5

/-- Something that happened. -/
structure Event where
  /-- How grave it is. -/
  level : Level
  /-- The module it comes from. -/
  target : String
  /-- What happened. -/
  message : String
  /-- The values that belong to it. -/
  fields : List (String × String)
  deriving DecidableEq, Repr

/-- The line of an event without its time, level and thread. -/
def Event.text (event : Event) : String :=
  event.fields.foldl (fun line (name, value) ↦ line ++ " " ++ name ++ "=" ++ value) event.message

end LiveBoard.Log
