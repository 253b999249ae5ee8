import LiveBoard.Proofs.Display.Staging
import LiveBoard.Viewer.Coordinator

/-!
# The actions of the coordinator

What an action of the coordinator does, task by task: one equation for each task and each branch of
it (`act_watching`, `act_taking`, `act_timing_of_le` and so on), on which the rest of the theory of
the coordinator rests. From them come what any action does to the messages, to the board and to the
renderer. A message is taken off the front of the queue in the loop and in the drain
(`Coordinator.taken`, `act_handoff`), the board, the renderer and the terminal are left alone but for
a message taken, a frame drawn and the end of a run (`act_effect`), so the board follows the messages
taken (`act_board`) and what the renderer staged last is the painting of the board (`Painted.act`).
-/

set_option autoImplicit false
set_option relaxedAutoImplicit false

namespace LiveBoard.Viewer

open Feed

/-- The messages that are taken off the queue in an action. -/
def Coordinator.taken (coordinator : Coordinator) (handoff : Handoff) : List Payload :=
  match coordinator.task, handoff.queue with
  | .receiving _, payload :: _ => [payload]
  | .draining _, payload :: _ => [payload]
  | _, _ => []

/-- Whether the coordinator ends its run next. -/
def Coordinator.isFinishing (coordinator : Coordinator) : Bool :=
  match coordinator.task with
  | .finishing _ => true
  | _ => false

@[grind =]
theorem Coordinator.isFinishing_iff {coordinator : Coordinator} :
    coordinator.isFinishing = true ↔ ∃ report, coordinator.task = .finishing report := by
  unfold Coordinator.isFinishing
  cases coordinator.task <;> simp

/-! ### The beginning and the end of a run -/

section Runs

variable {settings : Settings} {coordinator : Coordinator} {handoff : Handoff}
  {listener : Option Listener} {now : Instant} {report : Option ListenerExit}

@[simp]
theorem Coordinator.beginRun_of_running (hrunning : coordinator.phase = .running) :
    coordinator.beginRun = { coordinator with task := .watching } := by
  unfold Coordinator.beginRun
  rw [if_pos hrunning]

@[simp]
theorem Coordinator.beginRun_of_not_running (hover : coordinator.phase ≠ .running) :
    coordinator.beginRun = { coordinator with task := .stopping } := by
  unfold Coordinator.beginRun
  rw [if_neg hover]

theorem Coordinator.beginRun_cases (coordinator : Coordinator) :
    coordinator.beginRun = { coordinator with task := .watching } ∨
      coordinator.beginRun = { coordinator with task := .stopping } := by
  by_cases hrunning : coordinator.phase = .running
  · exact Or.inl (Coordinator.beginRun_of_running hrunning)
  · exact Or.inr (Coordinator.beginRun_of_not_running hrunning)

@[simp]
theorem Coordinator.task_beginRun_ne (coordinator : Coordinator) :
    coordinator.beginRun.task ≠ .idle := by
  rcases coordinator.beginRun_cases with hbegun | hbegun <;>
  · rw [hbegun]
    exact Task.noConfusion

@[simp]
theorem Coordinator.isFinishing_beginRun (coordinator : Coordinator) :
    coordinator.beginRun.isFinishing = false := by
  rcases coordinator.beginRun_cases with hbegun | hbegun <;>
  · rw [hbegun]
    rfl

@[simp]
theorem Coordinator.task_finish : (coordinator.finish settings report now).task = .idle := rfl

@[simp]
theorem Coordinator.phase_finish : (coordinator.finish settings report now).phase = .stopped := rfl

@[simp]
theorem Coordinator.outcome_finish :
    (coordinator.finish settings report now).outcome =
      some (.ofExit report settings.broker) := rfl

@[simp]
theorem Coordinator.board_finish :
    (coordinator.finish settings report now).board = coordinator.board := by
  unfold Coordinator.finish Coordinator.releaseSurface
  dsimp only [Coordinator.logged]
  split <;> rfl

@[simp]
theorem Coordinator.renderer_finish :
    (coordinator.finish settings report now).renderer = coordinator.renderer.flushNow now := by
  unfold Coordinator.finish Coordinator.releaseSurface
  dsimp only [Coordinator.logged]
  split <;> rfl

@[simp]
theorem Coordinator.holdsListener_finish :
    (coordinator.finish settings report now).holdsListener = coordinator.holdsListener := by
  unfold Coordinator.finish Coordinator.releaseSurface
  dsimp only [Coordinator.logged]
  split <;> rfl

@[simp]
theorem Coordinator.spareSender_finish :
    (coordinator.finish settings report now).spareSender = coordinator.spareSender := by
  unfold Coordinator.finish Coordinator.releaseSurface
  dsimp only [Coordinator.logged]
  split <;> rfl

end Runs

/-! ### The actions, task by task -/

section Tasks

variable {settings : Settings} {coordinator : Coordinator} {handoff : Handoff}
  {listener : Option Listener} {now : Instant} {deadline look : Instant} {wait : Join}
  {report : Option ListenerExit} {payload : Payload} {rest : List Payload}

@[simp]
theorem Coordinator.act_of_idle (hidle : coordinator.task = .idle) :
    coordinator.act settings handoff listener now = (coordinator, handoff) := by
  unfold Coordinator.act
  rw [hidle]

/-- The coordinator leaves the loop where the run is cancelled, -/
@[simp]
theorem Coordinator.act_noticing (htask : coordinator.task = .watching)
    (hraised : handoff.cancelled = true) :
    coordinator.act settings handoff listener now =
      ({ coordinator with task := .stopping }, handoff) := by
  unfold Coordinator.act
  rw [htask, hraised]
  rfl

/-- and turns to a wait where it is not. -/
@[simp]
theorem Coordinator.act_watching (htask : coordinator.task = .watching)
    (hclear : handoff.cancelled = false) :
    coordinator.act settings handoff listener now =
      ({ coordinator with task := .receiving (now + coordinator.waitTime settings now) },
        handoff) := by
  unfold Coordinator.act
  rw [htask, hclear]
  rfl

theorem Coordinator.act_taking (htask : coordinator.task = .receiving deadline)
    (hqueue : handoff.queue = payload :: rest) :
    coordinator.act settings handoff listener now =
      (({ coordinator with task := .drawing }).handle payload now,
        { handoff with queue := rest }) := by
  unfold Coordinator.act
  rw [htask, hqueue]

/-- Without a message the coordinator waits until the deadline, unless nobody can send one. -/
theorem Coordinator.act_empty (htask : coordinator.task = .receiving deadline)
    (hqueue : handoff.queue = []) :
    coordinator.act settings handoff listener now =
      ({ coordinator with
          task := if senderGone listener then .abandoning
            else if deadline ≤ now then .drawing else .receiving deadline }, handoff) := by
  unfold Coordinator.act
  rw [htask, hqueue]
  dsimp only
  split_ifs
  · rfl
  · rfl
  · rw [← htask]

@[simp]
theorem Coordinator.act_abandoning (htask : coordinator.task = .abandoning) :
    coordinator.act settings handoff listener now =
      ({ coordinator with task := .drawing }, handoff.cancel) := by
  unfold Coordinator.act
  rw [htask]

@[simp]
theorem Coordinator.act_drawing (htask : coordinator.task = .drawing) :
    coordinator.act settings handoff listener now =
      ({ coordinator with task := .watching, renderer := coordinator.renderer.tick now },
        handoff) := by
  unfold Coordinator.act
  rw [htask]

@[simp]
theorem Coordinator.act_stopping_of_holds (htask : coordinator.task = .stopping)
    (hholds : coordinator.holdsListener = true) :
    coordinator.act settings handoff listener now =
      ({ coordinator with
          task := .joining (.start now settings.joinTimeout) now, phase := .stopping },
        handoff.cancel) := by
  unfold Coordinator.act Coordinator.joinTask
  rw [htask, hholds]
  rfl

@[simp]
theorem Coordinator.act_stopping_of_released (htask : coordinator.task = .stopping)
    (hreleased : coordinator.holdsListener = false) :
    coordinator.act settings handoff listener now =
      (({ coordinator with phase := .stopping }).joined none, handoff.cancel) := by
  unfold Coordinator.act
  rw [htask, hreleased]
  rfl

/-- Between two looks the coordinator sleeps, -/
theorem Coordinator.act_asleep (htask : coordinator.task = .joining wait look)
    (hearly : now < look) :
    coordinator.act settings handoff listener now = (coordinator, handoff) := by
  unfold Coordinator.act
  rw [htask]
  dsimp only
  rw [if_pos hearly]

/-- then it looks at the listener, -/
theorem Coordinator.act_joining_of_gone (htask : coordinator.task = .joining wait look)
    (hready : look ≤ now) (hgone : senderGone listener = true) :
    coordinator.act settings handoff listener now =
      ((coordinator.logged (reportEvents (listener.bind Listener.report))).joined
        (listener.bind Listener.report), handoff) := by
  unfold Coordinator.act
  rw [htask]
  dsimp only
  rw [if_neg (Nat.not_lt_of_le hready)]
  cases listener with
  | none => rfl
  | some worker =>
    have hfinished : worker.isFinished = true := hgone
    dsimp only
    unfold JoinVerdict.ofListener
    rw [hfinished]
    rfl

theorem Coordinator.act_joining_of_busy (htask : coordinator.task = .joining wait look)
    (hready : look ≤ now) (hbusy : senderGone listener = false) :
    coordinator.act settings handoff listener now =
      ({ coordinator with task := .timing wait }, handoff) := by
  unfold Coordinator.act
  rw [htask]
  dsimp only
  rw [if_neg (Nat.not_lt_of_le hready)]
  cases listener with
  | none => cases hbusy
  | some worker =>
    have hworking : worker.isFinished = false := hbusy
    dsimp only
    unfold JoinVerdict.ofListener
    rw [hworking]
    rfl

/-- and if that is at work, at the clock. -/
theorem Coordinator.act_timing_of_le (htask : coordinator.task = .timing wait)
    (hlate : wait.deadline ≤ now) :
    coordinator.act settings handoff listener now =
      ((coordinator.logged wait.expiryEvents).joined none, handoff) := by
  unfold Coordinator.act Join.isOver
  rw [htask]
  dsimp only
  rw [if_pos (decide_eq_true hlate)]

theorem Coordinator.act_timing_of_lt (htask : coordinator.task = .timing wait)
    (hearly : now < wait.deadline) :
    coordinator.act settings handoff listener now =
      ({ coordinator with task := .joining wait (now + joinStep) }, handoff) := by
  unfold Coordinator.act Join.isOver
  rw [htask]
  dsimp only
  rw [if_neg (by simpa using hearly)]

theorem Coordinator.act_draining_cons (htask : coordinator.task = .draining report)
    (hqueue : handoff.queue = payload :: rest) :
    coordinator.act settings handoff listener now =
      (coordinator.handle payload now, { handoff with queue := rest }) := by
  unfold Coordinator.act
  rw [htask, hqueue]

theorem Coordinator.act_draining_nil (htask : coordinator.task = .draining report)
    (hqueue : handoff.queue = []) :
    coordinator.act settings handoff listener now =
      ({ coordinator with task := .finishing report }, handoff) := by
  unfold Coordinator.act
  rw [htask, hqueue]

theorem Coordinator.act_finishing (htask : coordinator.task = .finishing report) :
    coordinator.act settings handoff listener now =
      (coordinator.finish settings report now, handoff) := by
  unfold Coordinator.act
  rw [htask]

end Tasks

/-! ### What an action does -/

/-- What the coordinator shows and holds is the same after as before. -/
structure Coordinator.Keeps (before after : Coordinator) : Prop where
  board : after.board = before.board
  renderer : after.renderer = before.renderer
  surface : after.surface = before.surface
  terminal : after.terminal = before.terminal
  sender : after.spareSender = before.spareSender

section Actions

variable (settings : Settings) (coordinator : Coordinator) (handoff : Handoff)
  (listener : Option Listener) (now : Instant)

/-- Only taking a message and raising the flag touch what both sides share. -/
theorem Coordinator.act_handoff :
    (coordinator.act settings handoff listener now).2 =
      match coordinator.task with
      | .receiving _ => { handoff with queue := handoff.queue.tail }
      | .draining _ => { handoff with queue := handoff.queue.tail }
      | .abandoning => handoff.cancel
      | .stopping => handoff.cancel
      | _ => handoff := by
  obtain ⟨queue, receiving, cancelled⟩ := handoff
  unfold Coordinator.act
  cases coordinator.task with
  | receiving deadline =>
    cases queue with
    | cons payload rest => rfl
    | nil =>
      dsimp only
      split
      · rfl
      · split <;> rfl
  | joining wait next =>
    dsimp only
    split
    · rfl
    · split <;> rfl
  | timing wait =>
    dsimp only
    split <;> rfl
  | draining report => cases queue <;> rfl
  | _ => rfl

theorem Coordinator.act_queue :
    coordinator.taken handoff ++ (coordinator.act settings handoff listener now).2.queue =
      handoff.queue := by
  rw [Coordinator.act_handoff]
  unfold Coordinator.taken
  cases coordinator.task with
  | receiving deadline => cases handoff.queue <;> rfl
  | draining report => cases handoff.queue <;> rfl
  | _ => rfl

@[simp]
theorem Coordinator.act_receiving :
    (coordinator.act settings handoff listener now).2.receiving = handoff.receiving := by
  rw [Coordinator.act_handoff]
  cases coordinator.task <;> rfl

@[simp]
theorem Coordinator.act_cancelled (hcancelled : handoff.cancelled = true) :
    (coordinator.act settings handoff listener now).2.cancelled = true := by
  rw [Coordinator.act_handoff]
  cases coordinator.task <;> first | rfl | exact hcancelled

/-- What an action does to the coordinator, but for its course: it handles a message, draws what is
due, ends the run, or keeps all of it. -/
theorem Coordinator.act_effect :
    (∃ payload, coordinator.taken handoff = [payload] ∧
      (coordinator.handle payload now).Keeps
        (coordinator.act settings handoff listener now).1) ∨
    (coordinator.taken handoff = [] ∧
      (coordinator.Keeps (coordinator.act settings handoff listener now).1 ∨
        ({ coordinator with renderer := coordinator.renderer.tick now }).Keeps
          (coordinator.act settings handoff listener now).1 ∨
        ∃ report, coordinator.task = .finishing report ∧
          (coordinator.act settings handoff listener now).1 =
            coordinator.finish settings report now)) := by
  unfold Coordinator.taken
  cases htask : coordinator.task with
  | receiving deadline =>
    cases hqueue : handoff.queue with
    | cons payload rest =>
      rw [Coordinator.act_taking htask hqueue]
      exact Or.inl ⟨payload, rfl, rfl, rfl, rfl, rfl, rfl⟩
    | nil =>
      rw [Coordinator.act_empty htask hqueue]
      exact Or.inr ⟨rfl, Or.inl ⟨rfl, rfl, rfl, rfl, rfl⟩⟩
  | draining report =>
    cases hqueue : handoff.queue with
    | cons payload rest =>
      rw [Coordinator.act_draining_cons htask hqueue]
      exact Or.inl ⟨payload, rfl, rfl, rfl, rfl, rfl, rfl⟩
    | nil =>
      rw [Coordinator.act_draining_nil htask hqueue]
      exact Or.inr ⟨rfl, Or.inl ⟨rfl, rfl, rfl, rfl, rfl⟩⟩
  | drawing =>
    rw [Coordinator.act_drawing htask]
    exact Or.inr ⟨rfl, Or.inr (Or.inl ⟨rfl, rfl, rfl, rfl, rfl⟩)⟩
  | finishing report =>
    rw [Coordinator.act_finishing htask]
    exact Or.inr ⟨rfl, Or.inr (Or.inr ⟨report, rfl, rfl⟩)⟩
  | idle =>
    rw [Coordinator.act_of_idle htask]
    exact Or.inr ⟨rfl, Or.inl ⟨rfl, rfl, rfl, rfl, rfl⟩⟩
  | watching =>
    refine Or.inr ⟨rfl, Or.inl ?_⟩
    cases hflag : handoff.cancelled with
    | true =>
      rw [Coordinator.act_noticing htask hflag]
      exact ⟨rfl, rfl, rfl, rfl, rfl⟩
    | false =>
      rw [Coordinator.act_watching htask hflag]
      exact ⟨rfl, rfl, rfl, rfl, rfl⟩
  | abandoning =>
    rw [Coordinator.act_abandoning htask]
    exact Or.inr ⟨rfl, Or.inl ⟨rfl, rfl, rfl, rfl, rfl⟩⟩
  | stopping =>
    refine Or.inr ⟨rfl, Or.inl ?_⟩
    cases hholds : coordinator.holdsListener with
    | true =>
      rw [Coordinator.act_stopping_of_holds htask hholds]
      exact ⟨rfl, rfl, rfl, rfl, rfl⟩
    | false =>
      rw [Coordinator.act_stopping_of_released htask hholds]
      exact ⟨rfl, rfl, rfl, rfl, rfl⟩
  | joining wait look =>
    refine Or.inr ⟨rfl, Or.inl ?_⟩
    by_cases hready : look ≤ now
    · cases hsender : senderGone listener with
      | true =>
        rw [Coordinator.act_joining_of_gone htask hready hsender]
        exact ⟨rfl, rfl, rfl, rfl, rfl⟩
      | false =>
        rw [Coordinator.act_joining_of_busy htask hready hsender]
        exact ⟨rfl, rfl, rfl, rfl, rfl⟩
    · rw [Coordinator.act_asleep htask (Nat.lt_of_not_le hready)]
      exact ⟨rfl, rfl, rfl, rfl, rfl⟩
  | timing wait =>
    refine Or.inr ⟨rfl, Or.inl ?_⟩
    by_cases hlate : wait.deadline ≤ now
    · rw [Coordinator.act_timing_of_le htask hlate]
      exact ⟨rfl, rfl, rfl, rfl, rfl⟩
    · rw [Coordinator.act_timing_of_lt htask (Nat.lt_of_not_le hlate)]
      exact ⟨rfl, rfl, rfl, rfl, rfl⟩

/-- The board and the renderer in an action: a message that is taken is applied and drawn, and
without one the board stays and at most what was staged before is drawn, which need not be due only
where the run ends. -/
theorem Coordinator.act_view :
    (∃ payload, coordinator.taken handoff = [payload] ∧
      (coordinator.act settings handoff listener now).1.board =
        coordinator.board.receive payload ∧
      (coordinator.act settings handoff listener now).1.renderer =
        coordinator.renderer.update (coordinator.board.receive payload).view now) ∨
    (coordinator.taken handoff = [] ∧
      (coordinator.act settings handoff listener now).1.board = coordinator.board ∧
      ((coordinator.act settings handoff listener now).1.renderer = coordinator.renderer ∨
        (coordinator.act settings handoff listener now).1.renderer =
          coordinator.renderer.tick now ∨
        (coordinator.isFinishing = true ∧
          (coordinator.act settings handoff listener now).1.renderer =
            coordinator.renderer.flushNow now))) := by
  rcases coordinator.act_effect settings handoff listener now with
    ⟨payload, htaken, hkeeps⟩ | ⟨htaken, hkeeps | hkeeps | ⟨report, htask, hfinished⟩⟩
  · exact Or.inl ⟨payload, htaken, hkeeps.board, hkeeps.renderer⟩
  · exact Or.inr ⟨htaken, hkeeps.board, Or.inl hkeeps.renderer⟩
  · exact Or.inr ⟨htaken, hkeeps.board, Or.inr (Or.inl hkeeps.renderer)⟩
  · rw [hfinished]
    exact Or.inr ⟨htaken, Coordinator.board_finish,
      Or.inr (Or.inr ⟨Coordinator.isFinishing_iff.mpr ⟨report, htask⟩,
        Coordinator.renderer_finish⟩)⟩

/-- The board follows the messages that are taken. -/
theorem Coordinator.act_board :
    (coordinator.act settings handoff listener now).1.board =
      (coordinator.taken handoff).foldl Board.State.receive coordinator.board := by
  rcases coordinator.act_view settings handoff listener now with
    ⟨payload, htaken, hboard, -⟩ | ⟨htaken, hboard, -⟩
  · rw [htaken, hboard]
    rfl
  · rw [htaken, hboard]
    rfl

/-- No action gives a sender away or takes one back. -/
@[simp]
theorem Coordinator.act_spareSender :
    (coordinator.act settings handoff listener now).1.spareSender = coordinator.spareSender := by
  rcases coordinator.act_effect settings handoff listener now with
    ⟨payload, -, hkeeps⟩ | ⟨-, hkeeps | hkeeps | ⟨report, -, hfinished⟩⟩
  · exact hkeeps.sender
  · exact hkeeps.sender
  · exact hkeeps.sender
  · rw [hfinished, Coordinator.spareSender_finish]

end Actions

/-! ### The wait for a message -/

section Wait

variable {settings : Settings} {coordinator : Coordinator} {handoff : Handoff}
  {listener : Option Listener} {now : Instant}

/-- A wait in which no message is taken finds the queue empty. -/
theorem Coordinator.queue_of_taken {deadline : Instant}
    (htask : coordinator.task = .receiving deadline) (htaken : coordinator.taken handoff = []) :
    handoff.queue = [] := by
  unfold Coordinator.taken at htaken
  rw [htask] at htaken
  cases hqueue : handoff.queue with
  | nil => rfl
  | cons payload rest =>
    rw [hqueue] at htaken
    cases htaken

/-- The time of a wait with a frame staged. -/
theorem Coordinator.waitTime_of_staged (hstaged : coordinator.renderer.staged = true) :
    coordinator.waitTime settings now =
      min (coordinator.renderer.throttle.remaining now) settings.handoffWait := by
  unfold Coordinator.waitTime Display.Renderer.pendingFor
  rw [if_pos hstaged]

end Wait

/-! ### What the renderer has -/

/-- The frame staged last is the painting of the board. -/
structure Coordinator.Painted (coordinator : Coordinator) : Prop where
  tidy : coordinator.renderer.Tidy
  next : coordinator.renderer.next = coordinator.board.view.painting

section Painted

variable {settings : Settings} {coordinator : Coordinator} {handoff : Handoff}
  {listener : Option Listener} {now : Instant}

theorem Coordinator.tidy_act (h : coordinator.renderer.Tidy) :
    (coordinator.act settings handoff listener now).1.renderer.Tidy := by
  rcases coordinator.act_view settings handoff listener now with
    ⟨payload, -, -, hrenderer⟩ | ⟨-, -, hrenderer | hrenderer | ⟨-, hrenderer⟩⟩
  · rw [hrenderer]
    exact h.update _ now
  · rw [hrenderer]
    exact h
  · rw [hrenderer]
    exact h.tick now
  · rw [hrenderer]
    exact h.flushNow now

theorem Coordinator.Painted.act (h : coordinator.Painted) :
    (coordinator.act settings handoff listener now).1.Painted := by
  refine ⟨Coordinator.tidy_act h.tidy, ?_⟩
  rcases coordinator.act_view settings handoff listener now with
    ⟨payload, -, hboard, hrenderer⟩ | ⟨-, hboard, hrenderer | hrenderer | ⟨-, hrenderer⟩⟩
  · rw [hboard, hrenderer]
    exact h.tidy.next_update _ now
  · rw [hboard, hrenderer]
    exact h.next
  · rw [hboard, hrenderer, Display.Renderer.next_tick]
    exact h.next
  · rw [hboard, hrenderer, Display.Renderer.next_flushNow]
    exact h.next

end Painted

/-! ### Leaving the loop -/

/-- Whether the coordinator has left the loop: it waits for the listener, drains or finishes. -/
def Coordinator.isLeaving (coordinator : Coordinator) : Bool :=
  match coordinator.task with
  | .joining .. => true
  | .timing _ => true
  | .draining _ => true
  | .finishing _ => true
  | _ => false

theorem Coordinator.isLeaving_of_isFinishing {coordinator : Coordinator}
    (hfinishing : coordinator.isFinishing = true) : coordinator.isLeaving = true := by
  obtain ⟨report, htask⟩ := Coordinator.isFinishing_iff.mp hfinishing
  unfold Coordinator.isLeaving
  rw [htask]

/-- Once the coordinator has left the loop it is stopping, and it has let go of the listener
before it takes what is still queued. -/
def Coordinator.Coherent (coordinator : Coordinator) : Prop :=
  match coordinator.task with
  | .joining .. => coordinator.phase = .stopping
  | .timing _ => coordinator.phase = .stopping
  | .draining _ => coordinator.phase = .stopping ∧ coordinator.holdsListener = false
  | .finishing _ => coordinator.phase = .stopping ∧ coordinator.holdsListener = false
  | _ => True

/-! ### Giving the terminal back -/

/-- The coordinator that has drawn what is staged. -/
def Coordinator.drawn (coordinator : Coordinator) (now : Instant) : Coordinator :=
  { coordinator with renderer := coordinator.renderer.flushNow now }

/-- What the end of a run does once the last frame is drawn. -/
def Coordinator.concluded (settings : Settings) (coordinator : Coordinator)
    (report : Option ListenerExit) : Coordinator :=
  let outcome := Outcome.ofExit report settings.broker
  let released := (coordinator.logged
    [⟨.debug, coordinatorTarget, "render stats", coordinator.statistics⟩]).releaseSurface
  { released with phase := .stopped, task := .idle, outcome := some outcome }.logged
    [⟨.info, coordinatorTarget, "viewer stopped", [("outcome", outcome.message)]⟩]

section Release

variable (settings : Settings) (coordinator : Coordinator) (handoff : Handoff)
  (listener : Option Listener) (now : Instant) (report : Option ListenerExit)

/-- A run ends by drawing first and giving the terminal back after that. -/
theorem Coordinator.finish_eq :
    coordinator.finish settings report now =
      (coordinator.drawn now).concluded settings report := rfl

/-- A terminal that is held is given back by one write, and then it is not held any more. -/
theorem Coordinator.releaseSurface_fields :
    coordinator.releaseSurface.surface = none ∧
      coordinator.releaseSurface.renderer = coordinator.renderer ∧
      coordinator.releaseSurface.terminal.toList = coordinator.terminal.toList ++
        coordinator.surface.elim [] fun surface ↦ surface.release.1 := by
  unfold Coordinator.releaseSurface
  cases hsurface : coordinator.surface with
  | some surface => exact ⟨rfl, rfl, by simp⟩
  | none => exact ⟨hsurface, rfl, by simp⟩

theorem Coordinator.concluded_fields :
    (coordinator.concluded settings report).surface = none ∧
      (coordinator.concluded settings report).renderer = coordinator.renderer ∧
      (coordinator.concluded settings report).terminal = coordinator.releaseSurface.terminal := by
  unfold Coordinator.concluded Coordinator.releaseSurface
  dsimp only [Coordinator.logged]
  cases coordinator.surface <;> exact ⟨rfl, rfl, rfl⟩

/-- Only the end of a run touches the terminal surface. -/
theorem Coordinator.act_terminal (hgoing : coordinator.isFinishing = false) :
    (coordinator.act settings handoff listener now).1.terminal = coordinator.terminal ∧
      (coordinator.act settings handoff listener now).1.surface = coordinator.surface := by
  rcases coordinator.act_effect settings handoff listener now with
    ⟨payload, -, hkeeps⟩ | ⟨-, hkeeps | hkeeps | ⟨report, htask, -⟩⟩
  · exact ⟨hkeeps.terminal, hkeeps.surface⟩
  · exact ⟨hkeeps.terminal, hkeeps.surface⟩
  · exact ⟨hkeeps.terminal, hkeeps.surface⟩
  · rw [Coordinator.isFinishing_iff.mpr ⟨report, htask⟩] at hgoing
    cases hgoing

end Release

end LiveBoard.Viewer
