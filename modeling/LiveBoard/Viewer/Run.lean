import LiveBoard.Feed.Worker
import LiveBoard.Viewer.Coordinator

/-!
# Runs

A run is a coordinator and a worker with what they share and a clock. `Run.toEnd` is one schedule of
their actions: whoever is ready acts, the worker first, and where nobody is the clock goes on to the
next time at which somebody is.
-/

set_option autoImplicit false
set_option relaxedAutoImplicit false

namespace LiveBoard.Viewer

open Feed

/-- Both sides, what they share and the time. -/
structure Run (σ : Type) where
  /-- The coordinator. -/
  coordinator : Coordinator
  /-- The queue and the flag. -/
  handoff : Handoff
  /-- The listener at work, once it was started. -/
  worker : Option (Worker σ)
  /-- The time. -/
  now : Instant

/-- A run before the start. -/
def Run.new {σ : Type} (coordinator : Coordinator) : Run σ :=
  ⟨coordinator, .new, none, firstReading⟩

/-- The listener of a run. -/
def Run.listener {σ : Type} (run : Run σ) : Option Listener := run.worker.map (·.listener)

/-- Starts the coordinator and, with it, a worker over a source. -/
def Run.start {σ : Type} (settings : Settings) (run : Run σ) (source : σ) :
    Except ViewerError Unit × Run σ :=
  let (result, coordinator) := run.coordinator.start settings (.ok ()) run.now
  let worker := match result with
    | .ok () => some (.start source run.now)
    | .error _ => run.worker
  (result, { run with coordinator := coordinator, worker := worker })

/-- Cancels the run from outside, and tells whether this was what cancelled it. -/
def Run.cancel {σ : Type} (run : Run σ) : Bool × Run σ :=
  (!run.handoff.cancelled, { run with handoff := run.handoff.cancel })

/-- Lets the worker work on its own until a condition on its source holds. -/
def Run.await {σ : Type} (kind : Source σ) (settings : Settings) (done : σ → Bool) (fuel : Nat)
    (run : Run σ) : Run σ :=
  match run.worker with
  | some worker =>
    let (worker, handoff, now) :=
      worker.runUntil kind settings.listener (fun worker _ ↦ done worker.source) none fuel
        run.handoff run.now
    { run with worker := some worker, handoff := handoff, now := now }
  | none => run

/-- The next action of the worker. -/
def Run.stepWorker {σ : Type} (kind : Source σ) (settings : Settings) (run : Run σ)
    (worker : Worker σ) : Run σ :=
  let (worker, handoff) := worker.step kind settings.listener run.handoff run.now
  { run with worker := some worker, handoff := handoff }

/-- The next action of the coordinator. -/
def Run.stepCoordinator {σ : Type} (settings : Settings) (run : Run σ) : Run σ :=
  let (coordinator, handoff) :=
    run.coordinator.act settings run.handoff run.listener run.now
  { run with coordinator := coordinator, handoff := handoff }

/-- The worker of a run and the time at which it is ready, where it has not finished. -/
def Run.readyWorker {σ : Type} (run : Run σ) : Option (Worker σ × Instant) :=
  run.worker.bind fun worker ↦ worker.readyAt.map fun ready ↦ (worker, ready)

/-- The next action of either side, or the clock going on, where the coordinator wakes at a given
time. -/
def Run.step {σ : Type} (kind : Source σ) (settings : Settings) (run : Run σ) (wake : Instant) :
    Run σ :=
  match run.readyWorker with
  | some (worker, ready) =>
    if ready ≤ run.now then run.stepWorker kind settings worker
    else if wake ≤ run.now then run.stepCoordinator settings
    else { run with now := min ready wake }
  | none =>
    if wake ≤ run.now then run.stepCoordinator settings else { run with now := wake }

/-- Lets both sides act until the coordinator has ended its run, with `fuel` steps at most. -/
def Run.toEnd {σ : Type} (kind : Source σ) (settings : Settings) : Nat → Run σ → Run σ
  | 0, run => run
  | fuel + 1, run =>
    match run.coordinator.wakesAt run.handoff run.listener run.now with
    | some wake => Run.toEnd kind settings fuel (run.step kind settings wake)
    | none => run

/-- Runs a coordinator to the end, with `fuel` steps at most. -/
def Run.run {σ : Type} (kind : Source σ) (settings : Settings) (fuel : Nat) (run : Run σ) : Run σ :=
  Run.toEnd kind settings fuel { run with coordinator := run.coordinator.beginRun }

end LiveBoard.Viewer
