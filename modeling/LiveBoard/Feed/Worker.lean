import LiveBoard.Feed.Join

/-!
# The listener at work

A worker is the listener together with its source and the clock: it asks the source what the next
action needs, and an action that takes time is performed when that time is over. `Worker.step` is
the next action of a worker that is ready, and `Worker.readyAt` tells when it is.
-/

set_option autoImplicit false
set_option relaxedAutoImplicit false

namespace LiveBoard.Feed

/-- The listener with its source. -/
structure Worker (σ : Type) where
  /-- The listener. -/
  listener : Listener
  /-- The state of the source. -/
  source : σ
  /-- When it is ready for its next action. -/
  ready : Instant
  /-- The reply that the source gives at that time, if it was asked. -/
  reply : Option Reply
  /-- The messages that were taken when the queue was closed. -/
  taken : List Payload
  /-- What was logged. -/
  log : Array Log.Event

/-- A worker before its first action. -/
def Worker.start {σ : Type} (source : σ) (now : Instant) : Worker σ :=
  ⟨.start, source, now, none, [], #[]⟩

/-- When a worker is ready for its next action, none where it has no more. -/
def Worker.readyAt {σ : Type} (worker : Worker σ) : Option Instant :=
  if worker.listener.isFinished then none else some worker.ready

/-- The worker that waits for the reply to a call of its source. -/
def Worker.await {σ α : Type} (worker : Worker σ) (now : Instant) (call : Call α) (source : σ)
    (reply : Reply) : Worker σ :=
  { worker with
    source := source
    ready := now + call.lasts
    reply := some reply
    log := worker.log ++ call.log.toArray }

/-- The state of the queue and the flag when a turn starts. -/
def Turn.begin (turn : Turn) (handoff : Handoff) : Handoff :=
  let handoff := if turn.cancels then handoff.cancel else handoff
  if turn.closesChannel then handoff.hangUp else handoff

/-- Asks the source what the next action needs, none where it needs nothing. -/
def Worker.ask {σ : Type} (kind : Source σ) (settings : ListenerSettings) (worker : Worker σ)
    (handoff : Handoff) (now : Instant) : Option (Worker σ × Handoff) :=
  match worker.listener.stage with
  | .connecting =>
    let (call, source) := kind.connect worker.source now
    some (worker.await now call source (.connected call.result), handoff)
  | .polling =>
    let (turn, source) :=
      kind.poll worker.source ⟨now, settings.pollInterval, handoff.queued⟩
    let waiting :=
      worker.await now ⟨turn.lasts, (), turn.log⟩ source (.polled turn.ending)
    let taken := if turn.closesChannel then worker.taken ++ handoff.queue else worker.taken
    some ({ waiting with taken := taken }, turn.begin handoff)
  | .closing _ =>
    let (call, source) := kind.close worker.source now
    some (worker.await now call source .nothing, handoff)
  | _ => none

/-- How long a worker sleeps before its next action. -/
def sleepOf (listener : Listener) (handoff : Handoff) (now : Instant) : Duration :=
  match listener.stage with
  | .waiting wait =>
    match wait.look handoff.cancelled now with
    | .sleep time => time
    | _ => 0
  | _ => 0

/-- Performs the next action of the listener. -/
def Worker.perform {σ : Type} (settings : ListenerSettings) (worker : Worker σ)
    (handoff : Handoff) (now : Instant) (reply : Reply) : Worker σ × Handoff :=
  let (listener, after) := worker.listener.act settings handoff now reply
  ({ worker with
      listener := listener
      ready := now + sleepOf worker.listener handoff now
      reply := none
      log := worker.log ++ (worker.listener.events settings reply).toArray }, after)

/-- The next step of a worker that is ready: asking its source, or acting on the reply. -/
def Worker.step {σ : Type} (kind : Source σ) (settings : ListenerSettings) (worker : Worker σ)
    (handoff : Handoff) (now : Instant) : Worker σ × Handoff :=
  match worker.reply with
  | some reply => worker.perform settings handoff now reply
  | none =>
    (worker.ask kind settings handoff now).getD
      (worker.perform settings handoff now .nothing)

/-- Steps a worker until a condition holds, it has finished, or its next step comes after the
horizon; the time passes where the worker sleeps. `fuel` bounds the number of steps. -/
def Worker.runUntil {σ : Type} (kind : Source σ) (settings : ListenerSettings)
    (done : Worker σ → Handoff → Bool) (horizon : Option Instant) :
    Nat → Worker σ → Handoff → Instant → Worker σ × Handoff × Instant
  | 0, worker, handoff, now => (worker, handoff, now)
  | fuel + 1, worker, handoff, now =>
    if worker.listener.isFinished || done worker handoff then (worker, handoff, now)
    else if worker.ready ≤ now then
      let (worker, handoff) := worker.step kind settings handoff now
      Worker.runUntil kind settings done horizon fuel worker handoff now
    else if horizon.any (· < worker.ready) then (worker, handoff, now)
    else Worker.runUntil kind settings done horizon fuel worker handoff worker.ready

/-- Waits for a worker to finish, with at most `looks` looks and `fuel` steps between two. -/
def Worker.join {σ : Type} (kind : Source σ) (settings : ListenerSettings) (wait : Join)
    (fuel : Nat) : Nat → Worker σ → Handoff → Instant → Option ListenerExit × Worker σ × Handoff
  | 0, worker, handoff, _ => (none, worker, handoff)
  | looks + 1, worker, handoff, now =>
    match JoinVerdict.ofListener worker.listener with
    | .finished report => (report, worker, handoff)
    | .busy =>
      if wait.isOver now then (none, worker, handoff)
      else
        let next := now + joinStep
        let (worker, handoff, _) :=
          worker.runUntil kind settings (fun _ _ ↦ false) (some next) fuel handoff now
        Worker.join kind settings wait fuel looks worker handoff next

end LiveBoard.Feed
