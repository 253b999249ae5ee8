import LiveBoard.CommandLine.Wording
import LiveBoard.Log.Setup
import LiveBoard.Mqtt.Subscriber
import LiveBoard.Viewer.Run

/-!
# The program

A call of the program reads its arguments, sets up logging and displays the board until the run
ends. `Program.call` is a whole call over a network on states: its exit code, what it writes and
what it logs. Arguments come first, so a request for help is answered even where logging cannot be
set up, and nothing is drawn before both are in order.
-/

set_option autoImplicit false
set_option relaxedAutoImplicit false

namespace LiveBoard.CommandLine

/-- What the program is called with. -/
structure Call where
  /-- The path under which it is called. -/
  path : Option (List Char)
  /-- The arguments. -/
  arguments : List (List Char)
  /-- Where events go. -/
  destination : Log.Destination
  /-- The text of the log filter. -/
  filter : Option (List Char)

/-- The thread that displays the board. -/
def mainThread : String := "main"

/-- The thread of the listener. -/
def listenerThread : String := "chessview-feed"

/-- What a call leaves behind. -/
structure Result where
  /-- The exit code. -/
  code : Nat
  /-- The bytes on standard output. -/
  output : List UInt8
  /-- The text on standard error. -/
  errors : String
  /-- The events that each thread logged, if there is a log file. -/
  log : Option (List (String × List Log.Event))

/-- A call that ends with a text on standard error. -/
def Result.failure (code : Nat) (errors : String) : Result := ⟨code, [], errors, none⟩

/-- The result of a refusal: requests are answered on standard output. -/
def Refusal.result (refusal : Refusal) (path : Option (List Char)) : Result :=
  let text := refusal.printed (calledName path)
  if refusal.isAnswer then ⟨refusal.exitCode, Text.encodeString text, "", none⟩
  else .failure refusal.exitCode text

/-- The text about a log file that cannot be made. -/
def logFileText (error : Log.FileError) : String :=
  s!"Error: failed to open log file\n\nCaused by:\n    {error.message}\n"

/-- The exit code of a call that breaks down. -/
def breakdownCode : Nat := 101

/-- The result of a call that cannot log. -/
def logFaultResult : Log.SetupFault → Result
  | .filter cut => .failure breakdownCode (cut.message ++ "\n")
  | .file error => .failure 1 (logFileText error)

/-- The settings of a call and how it logs, or the result of a call that ends at once. -/
def Call.prepare (call : Call) : Except Result (Settings × Log.Setup) := do
  let settings ← (readSettings call.arguments).mapError fun refusal ↦ refusal.result call.path
  let setup ← (Log.setUp call.filter call.destination).mapError logFaultResult
  return (settings, setup)

/-- The module that the events of the program name. -/
def programTarget : String := "chessboard_live"

/-- The event of a call that goes on to display the board. -/
def startingEvent (settings : Settings) : Log.Event :=
  ⟨.info, programTarget, "starting",
    [("broker", String.ofList settings.broker.text), ("topic", settings.listener.topic)]⟩

/-- What stands on the outputs after a run with an outcome: a failure is told on standard error. -/
def outcomeTexts (outcome : Viewer.Outcome) : String × String :=
  let line := outcome.message ++ "\n"
  if outcome.isFailure then ("", line) else (line, "")

/-- The name that a client of the program gives to the broker. -/
def clientName (process : Nat) : String := s!"{programName}-{process}"

/-- The events that a filter lets through, for the threads that have any. -/
def threadLogs (filter : Log.Filter) (logs : List (String × List Log.Event)) :
    List (String × List Log.Event) :=
  (logs.map fun (thread, events) ↦ (thread, events.filter filter.enables)).filter
    fun (_, events) ↦ !events.isEmpty

/-- The result of a run. -/
def runResult {σ : Type} (settings : Settings) (setup : Log.Setup) (run : Viewer.Run σ) : Result :=
  let coordinator := run.coordinator
  let outcome := coordinator.outcome.getD .interrupted
  let (output, errors) := outcomeTexts outcome
  let entering := Display.enterBytes settings.alternateScreen
  let leaving := coordinator.terminal.toList.drop entering.length
  let events :=
    [ (mainThread, startingEvent settings :: coordinator.log.toList)
    , (listenerThread, (run.worker.map (·.log.toList)).getD []) ]
  { code := outcome.exitCode
    output := entering ++ coordinator.renderer.outlet.accepted.toList ++ leaving ++
      Text.encodeString output
    errors := errors
    log := if setup.writes then some (threadLogs setup.filter events) else none }

/-- A call over a network on states, as a process of a number, with `fuel` steps at most. -/
def Call.run {ν : Type} (call : Call) (peer : Mqtt.Peer ν) (network : ν) (process fuel : Nat) :
    Result :=
  match call.prepare with
  | .error result => result
  | .ok (settings, setup) =>
    match Mqtt.Subscriber.new (clientName process) settings.broker settings.listener network with
    | .error fault => .failure breakdownCode fault
    | .ok subscriber =>
      let coordinator :=
        (Viewer.Coordinator.new .unlimited settings).withSurface settings.alternateScreen
      let source := Mqtt.Subscriber.source peer
      let (_, started) := (Viewer.Run.new coordinator).start settings subscriber
      runResult settings setup (started.run source settings fuel)

end LiveBoard.CommandLine
