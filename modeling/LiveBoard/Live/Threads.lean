import LiveBoard.CommandLine.Program
import LiveBoard.Live.Socket
import LiveBoard.Log.Stamp
import Std.Async.Signal
import Std.Time.DateTime.Timestamp

/-!
# Threads

The listener and the coordinator, each in a thread of its own. A thread performs the actions of its
machine one after the other; what both share is read and changed in one step.
-/

set_option autoImplicit false
set_option relaxedAutoImplicit false

namespace LiveBoard.Live

open Feed Viewer

/-- Where events are written. -/
structure Journal where
  /-- Which ones are. -/
  filter : Log.Filter
  /-- The log file, if there is one. -/
  file : Option IO.FS.Handle

/-- The time in microseconds after the start of 1970. -/
def epochMicroseconds : IO Nat := do
  let now ← Std.Time.Timestamp.now
  return now.toNanosecondsSinceUnixEpoch.val.toNat / 1000

/-- Writes the events of a thread. -/
def Journal.write (journal : Journal) (thread : String) (events : List Log.Event) : IO Unit := do
  match journal.file with
  | none => return
  | some file =>
    for event in events.filter journal.filter.enables do
      file.putStr (event.line thread (← epochMicroseconds))
    file.flush

/-- What both threads share. -/
structure Shared where
  /-- The queue and the flag. -/
  handoff : IO.Ref Handoff
  /-- The listener. -/
  listener : IO.Ref Listener

/-- Sleeps for a time, to the millisecond and at least for one. -/
def sleepFor (time : Duration) : IO Unit :=
  IO.sleep (max 1 (min (time / oneMillisecond) 1000)).toUInt32

/-! ### The listener -/

/-- The listener thread: what it shares, and its own session, connection and socket. -/
structure ListenerThread where
  shared : Shared
  journal : Journal
  settings : ListenerSettings
  network : Mqtt.Network IO
  session : Mqtt.Session
  connection : Mqtt.Connection

/-- Performs an operation of the session on the client. -/
def ListenerThread.perform {α : Type} (thread : ListenerThread)
    (operation : Mqtt.Client (StateT Mqtt.Linked IO) → StateT Mqtt.Linked IO α) :
    IO (α × ListenerThread) := do
  let (result, linked) ← operation thread.network.client ⟨thread.connection, #[]⟩
  thread.journal.write CommandLine.listenerThread linked.log.toList
  return (result, { thread with connection := linked.connection })

/-- Asks the session what an action of the listener needs. -/
def ListenerThread.ask (thread : ListenerThread) (stage : Stage) : IO (Reply × ListenerThread) := do
  match stage with
  | .connecting =>
    let (result, thread) ← thread.perform thread.session.connect
    return (.connected result, thread)
  | .polling =>
    let ((result, session), thread) ← thread.perform fun client ↦
      thread.session.poll client thread.settings.pollInterval
    return (.polled (.returns result), { thread with session := session })
  | .closing _ =>
    let ((), thread) ← thread.perform thread.session.close
    return (.nothing, thread)
  | _ => return (.nothing, thread)

/-- Performs the actions of the listener until it has finished. -/
partial def ListenerThread.run (thread : ListenerThread) : IO Unit := do
  let listener ← thread.shared.listener.get
  if listener.isFinished then return
  let (reply, thread) ← thread.ask listener.stage
  let now ← IO.monoNanosNow
  let (next, sleep) ← thread.shared.handoff.modifyGet fun handoff ↦
    let (next, after) := listener.act thread.settings handoff now reply
    ((next, sleepOf listener handoff now), after)
  thread.journal.write CommandLine.listenerThread (listener.events thread.settings reply)
  thread.shared.listener.set next
  if 0 < sleep then sleepFor sleep
  thread.run

/-! ### The coordinator -/

/-- The coordinator thread: what it shares, and where it writes. -/
structure CoordinatorThread where
  shared : Shared
  journal : Journal
  settings : Settings
  output : IO.FS.Stream
  interrupt : Task (Except IO.Error Int)

/-- Writes what the coordinator has drawn and logged, and takes it out of the coordinator. A drawing
that cannot be written makes the next one whole. -/
def CoordinatorThread.publish (thread : CoordinatorThread) (coordinator : Coordinator) :
    IO Coordinator := do
  let renderer := coordinator.renderer
  let bytes := renderer.outlet.accepted ++ coordinator.terminal
  let written ← try
      unless bytes.isEmpty do
        thread.output.write ⟨bytes⟩
        thread.output.flush
      pure true
    catch _ => pure false
  thread.journal.write CommandLine.mainThread coordinator.log.toList
  return { coordinator with
    renderer :=
      { renderer with
        outlet := .unlimited
        needsRepaint := renderer.needsRepaint || !written }
    terminal := #[]
    log := #[] }

/-- Cancels the run if the process was interrupted. -/
def CoordinatorThread.observeInterrupt (thread : CoordinatorThread) : IO Unit := do
  if ← IO.hasFinished thread.interrupt then thread.shared.handoff.modify Handoff.cancel

/-- The longest time between two looks at what is shared. -/
def observationStep : Duration := milliseconds 5

/-- Performs the actions of the coordinator until its run has ended. -/
partial def CoordinatorThread.run (thread : CoordinatorThread) (coordinator : Coordinator) :
    IO Coordinator := do
  thread.observeInterrupt
  let listener ← thread.shared.listener.get
  let now ← IO.monoNanosNow
  let wake ← thread.shared.handoff.modifyGet fun handoff ↦
    (coordinator.wakesAt handoff (some listener) now, handoff)
  match wake with
  | none => return coordinator
  | some wake =>
    if now < wake then
      sleepFor (min (wake - now) observationStep)
      thread.run coordinator
    else
      let next ← thread.shared.handoff.modifyGet fun handoff ↦
        coordinator.act thread.settings handoff (some listener) now
      thread.run (← thread.publish next)

end LiveBoard.Live
