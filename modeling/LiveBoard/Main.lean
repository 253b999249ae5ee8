import LiveBoard.Live.Threads

/-!
# The program as a process

Reads the arguments and the environment of the process, and displays the board on its terminal.
-/

set_option autoImplicit false
set_option relaxedAutoImplicit false

namespace LiveBoard.Live

open Feed Viewer

/-- The variable that names the log file. -/
def logFileVariable : String := "CHESSBOARD_LOG_FILE"

/-- The variable that holds the log filter. -/
def logFilterVariable : String := "CHESSBOARD_LOG"

/-- An error of the system about a file. -/
def fileErrorOf (error : IO.Error) : Log.FileError :=
  match error with
  | .noFileOrDirectory .. => .notFound
  | .permissionDenied _ 13 _ => .permissionDenied
  | .inappropriateType _ 20 _ => .notADirectory
  | .inappropriateType _ 21 _ => .isADirectory
  | error => .other (reasonOf error)

/-- Makes the log file that the environment names, where the filter can be read. -/
def openLog (filter : Option (List Char)) : IO (Log.Destination × Option IO.FS.Handle) := do
  match Log.Filter.ofText filter, ← IO.getEnv logFileVariable with
  | .ok _, some path =>
    try return (.file, some (← IO.FS.Handle.mk path .write))
    catch error => return (.unavailable (fileErrorOf error), none)
  | _, _ => return (.nowhere, none)

/-- Writes a result that needs no run, and gives the exit code. -/
def finish (result : CommandLine.Result) : IO UInt32 := do
  (← IO.getStdout).write ⟨result.output.toArray⟩
  (← IO.getStdout).flush
  IO.eprint result.errors
  return result.code.toUInt32

/-- Starts both threads and waits for the end of the run. -/
def display (settings : Settings) (journal : Journal) (connection : Mqtt.Connection) :
    IO UInt32 := do
  journal.write CommandLine.mainThread [CommandLine.startingEvent settings]
  let shared : Shared := ⟨← IO.mkRef .new, ← IO.mkRef .start⟩
  let socket ← Socket.new settings.broker
  let signal ← Std.Async.Signal.Waiter.mk .sigint false
  let thread : CoordinatorThread :=
    ⟨shared, journal, settings, ← IO.getStdout, ← signal.wait⟩
  let entered :=
    (Coordinator.new .unlimited settings).withSurface settings.alternateScreen
  let entered ← thread.publish entered
  let (_, started) := entered.start settings (.ok ()) (← IO.monoNanosNow)
  let listener : ListenerThread :=
    ⟨shared, journal, settings.listener, socket.network, .new settings.broker settings.listener,
      connection⟩
  let _ ← IO.asTask listener.run .dedicated
  let ended ← thread.run (← thread.publish started).beginRun
  signal.stop
  let outcome := ended.outcome.getD .interrupted
  let (output, errors) := CommandLine.outcomeTexts outcome
  finish ⟨outcome.exitCode, Text.encodeString output, errors, none⟩

/-- Runs the program with the arguments of a process. -/
def runProcess (arguments : List String) : IO UInt32 := do
  let path := (← IO.appPath).toString.toList
  let given := arguments.map String.toList
  match CommandLine.readSettings given with
  | .error refusal => finish (refusal.result (some path))
  | .ok settings =>
    let filter := (← IO.getEnv logFilterVariable).map String.toList
    let (destination, file) ← openLog filter
    match (CommandLine.Call.mk (some path) given destination filter).prepare with
    | .error result => finish result
    | .ok (_, setup) =>
      let process := (← IO.monoNanosNow) % 100000
      match Mqtt.Connection.new (CommandLine.clientName process) settings.listener.keepAlive with
      | .error fault => finish (.failure CommandLine.breakdownCode (fault ++ "\n"))
      | .ok connection => display settings ⟨setup.filter, file⟩ connection

end LiveBoard.Live

/-- The entry of the process. -/
def main (arguments : List String) : IO UInt32 := LiveBoard.Live.runProcess arguments
