import LiveBoard.Board.State
import LiveBoard.Display.Renderer
import LiveBoard.Display.Surface
import LiveBoard.Feed.Join
import LiveBoard.Viewer.Outcome

/-!
# The coordinator

The coordinator owns the board and the renderer. It is started once, which starts the listener and
draws the empty board, and run: then it takes messages from the queue, applies and draws them until
the run is cancelled, waits for the listener to end, takes what is still queued, gives the terminal
back and reports the outcome. Like the listener it is a machine of atomic actions: `Coordinator.act`
is one action, on the queue and the flag, given the listener and the time.

A run that was never started stops at once, and no run makes a second start possible.
-/

set_option autoImplicit false
set_option relaxedAutoImplicit false

namespace LiveBoard.Viewer

open Feed

/-- Where a coordinator is in its life. -/
inductive Phase
  /-- It was not started. -/
  | starting
  /-- It takes messages and draws. -/
  | running
  /-- It waits for the listener to end. -/
  | stopping
  /-- It has given the terminal back. -/
  | stopped
  deriving DecidableEq, Repr

/-- What the coordinator does next in a run. -/
inductive Task
  /-- Nothing: no run is going on. -/
  | idle
  /-- Looks at the flag. -/
  | watching
  /-- Takes a message, unless none comes until the deadline. -/
  | receiving (deadline : Instant)
  /-- Raises the flag because nobody can send any more. -/
  | abandoning
  /-- Draws the staged frame if it is due. -/
  | drawing
  /-- Raises the flag and turns to stopping. -/
  | stopping
  /-- Looks, at a given time, whether the listener has finished. -/
  | joining (wait : Join) (next : Instant)
  /-- Looks whether the time is up; the listener was found at work. -/
  | timing (wait : Join)
  /-- Takes what is still queued; the listener reported this. -/
  | draining (report : Option ListenerExit)
  /-- Draws what is staged and gives the terminal back. -/
  | finishing (report : Option ListenerExit)
  deriving DecidableEq, Repr

/-- The state of the coordinator. -/
structure Coordinator where
  /-- Where it is in its life. -/
  phase : Phase
  /-- What it does next. -/
  task : Task
  /-- Whether the sender for the listener was not given away. -/
  spareSender : Bool
  /-- Whether it holds on to a listener. -/
  holdsListener : Bool
  /-- The board. -/
  board : Board.State
  /-- The renderer. -/
  renderer : Display.Renderer
  /-- The terminal surface, if it was given one and still holds it. -/
  surface : Option Display.Surface
  /-- What the surface wrote. -/
  terminal : Array UInt8
  /-- The number of messages taken. -/
  received : Nat
  /-- The number of messages that carried something to apply. -/
  applied : Nat
  /-- How the last run ended. -/
  outcome : Option Outcome
  /-- What was logged. -/
  log : Array Log.Event

/-- A coordinator that was not started. -/
def Coordinator.new (outlet : Display.Outlet) (settings : Settings) : Coordinator where
  phase := .starting
  task := .idle
  spareSender := true
  holdsListener := false
  board := .initial
  renderer := .new outlet settings.refreshPerSecond
  surface := none
  terminal := #[]
  received := 0
  applied := 0
  outcome := none
  log := #[]

/-- The coordinator that is given a terminal surface, just entered. -/
def Coordinator.withSurface (coordinator : Coordinator) (alternate : Bool) : Coordinator :=
  { coordinator with
    surface := some (.entered alternate)
    terminal := coordinator.terminal ++ (Display.enterBytes alternate).toArray }

/-- Gives the terminal back, if it is still held. -/
def Coordinator.releaseSurface (coordinator : Coordinator) : Coordinator :=
  match coordinator.surface with
  | some surface =>
    { coordinator with
      surface := none
      terminal := coordinator.terminal ++ surface.release.1.toArray }
  | none => coordinator

/-- The module that the events of the coordinator name. -/
def coordinatorTarget : String := "chessview::actor::coordinator"

/-- The coordinator that has logged events. -/
def Coordinator.logged (coordinator : Coordinator) (events : List Log.Event) : Coordinator :=
  { coordinator with log := coordinator.log ++ events.toArray }

/-! ### Starting -/

/-- Starts a coordinator: the listener gets the sender, and the board is drawn. The listener itself
may fail to start for the given reason; then the sender is lost and nothing is drawn. -/
def Coordinator.start (settings : Settings) (coordinator : Coordinator)
    (spawning : Except String Unit) (now : Instant) : Except ViewerError Unit × Coordinator :=
  if coordinator.phase ≠ .starting || !coordinator.spareSender then
    (.error .alreadyStarted, coordinator)
  else
    match spawning with
    | .error reason => (.error (.spawn reason), { coordinator with spareSender := false })
    | .ok () =>
      let started :=
        { coordinator with
          phase := .running
          spareSender := false
          holdsListener := true
          renderer := (coordinator.renderer.update coordinator.board.view now).flushNow now }
      (.ok (), started.logged
        [⟨.info, coordinatorTarget, "viewer running",
          [("broker", String.ofList settings.broker.text)]⟩])

/-- Begins a run. Only a started coordinator takes messages first. -/
def Coordinator.beginRun (coordinator : Coordinator) : Coordinator :=
  { coordinator with task := if coordinator.phase = .running then .watching else .stopping }

/-! ### The actions of a run -/

/-- The time for which a message is waited for: until the staged frame is due, but not longer than
the settings say. -/
def Coordinator.waitTime (settings : Settings) (coordinator : Coordinator) (now : Instant) :
    Duration :=
  match coordinator.renderer.pendingFor now with
  | some due => min due settings.handoffWait
  | none => settings.handoffWait

/-- Applies a message and stages the board. -/
def Coordinator.handle (coordinator : Coordinator) (payload : Payload) (now : Instant) :
    Coordinator :=
  let board := coordinator.board.receive payload
  { coordinator with
    board := board
    renderer := coordinator.renderer.update board.view now
    received := coordinator.received + 1
    applied := coordinator.applied + if Board.carriesUpdate payload then 1 else 0 }

/-- Whether nobody can send messages any more: the only sender is that of the listener. -/
def senderGone (listener : Option Listener) : Bool := listener.all Listener.isFinished

/-- The task after turning to stopping. -/
def Coordinator.joinTask (settings : Settings) (coordinator : Coordinator) (now : Instant) : Task :=
  if coordinator.holdsListener then .joining (.start now settings.joinTimeout) now
  else .draining none

/-- The counts that are logged at the end of a run. -/
def Coordinator.statistics (coordinator : Coordinator) : List (String × String) :=
  let stats := coordinator.renderer.stats
  [ ("received", toString coordinator.received)
  , ("applied", toString coordinator.applied)
  , ("frames", toString stats.frames)
  , ("coalesced", toString stats.coalesced)
  , ("cells_changed", toString stats.cellsChanged)
  , ("bytes", toString stats.bytesWritten) ]

/-- The report of a listener as log lines show it. -/
def describeReport : Option ListenerExit → String
  | some exit => s!"Some({exit.describe})"
  | none => "None"

/-- The coordinator that goes on to take what is still queued. -/
def Coordinator.joined (coordinator : Coordinator) (report : Option ListenerExit) : Coordinator :=
  { coordinator with task := .draining report, holdsListener := false }.logged
    [⟨.debug, coordinatorTarget, "listener joined", [("exit", describeReport report)]⟩]

/-- Ends a run: what is staged is drawn and the terminal is given back. -/
def Coordinator.finish (settings : Settings) (coordinator : Coordinator)
    (report : Option ListenerExit) (now : Instant) : Coordinator :=
  let drawn := { coordinator with renderer := coordinator.renderer.flushNow now }
  let outcome := Outcome.ofExit report settings.broker
  let released := (drawn.logged
    [⟨.debug, coordinatorTarget, "render stats", drawn.statistics⟩]).releaseSurface
  { released with phase := .stopped, task := .idle, outcome := some outcome }.logged
    [⟨.info, coordinatorTarget, "viewer stopped", [("outcome", outcome.message)]⟩]

/-- One action of the coordinator. One that has to wait changes nothing. -/
def Coordinator.act (settings : Settings) (coordinator : Coordinator) (handoff : Handoff)
    (listener : Option Listener) (now : Instant) : Coordinator × Handoff :=
  let goTo (task : Task) : Coordinator := { coordinator with task := task }
  match coordinator.task with
  | .idle => (coordinator, handoff)
  | .watching =>
    (goTo (if handoff.cancelled then .stopping
      else .receiving (now + coordinator.waitTime settings now)), handoff)
  | .receiving deadline =>
    match handoff.queue with
    | payload :: rest =>
      ((goTo .drawing).handle payload now, { handoff with queue := rest })
    | [] =>
      if senderGone listener then (goTo .abandoning, handoff)
      else if deadline ≤ now then (goTo .drawing, handoff)
      else (coordinator, handoff)
  | .abandoning => (goTo .drawing, handoff.cancel)
  | .drawing => ({ goTo .watching with renderer := coordinator.renderer.tick now }, handoff)
  | .stopping =>
    let stopping := { goTo (coordinator.joinTask settings now) with phase := .stopping }
    (if coordinator.holdsListener then stopping else stopping.joined none, handoff.cancel)
  | .joining wait next =>
    if now < next then (coordinator, handoff)
    else
      let verdict : JoinVerdict := match listener with
        | some listener => .ofListener listener
        | none => .finished none
      match verdict with
      | .finished report => ((coordinator.logged (reportEvents report)).joined report, handoff)
      | .busy => (goTo (.timing wait), handoff)
  | .timing wait =>
    if wait.isOver now then ((coordinator.logged wait.expiryEvents).joined none, handoff)
    else (goTo (.joining wait (now + joinStep)), handoff)
  | .draining report =>
    match handoff.queue with
    | payload :: rest => (coordinator.handle payload now, { handoff with queue := rest })
    | [] => (goTo (.finishing report), handoff)
  | .finishing report => (coordinator.finish settings report now, handoff)

/-- When the next action of the coordinator can change something, none where no run goes on. -/
def Coordinator.wakesAt (coordinator : Coordinator) (handoff : Handoff)
    (listener : Option Listener) (now : Instant) : Option Instant :=
  match coordinator.task with
  | .idle => none
  | .receiving deadline =>
    some (if handoff.queue.isEmpty && !senderGone listener then deadline else now)
  | .joining _ next => some next
  | _ => some now

end LiveBoard.Viewer
