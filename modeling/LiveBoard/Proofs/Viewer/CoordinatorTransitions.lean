import LiveBoard.Proofs.Viewer.CoordinatorActions

/-!
# The transitions of the coordinator

`Coordinator.Transition` lists what an action of the coordinator can be, as far as its course is
concerned: from which task to which, with which effect on what it shares with the listener, and
where it changes its phase, lets go of the listener or yields an outcome. The board and the renderer
do not decide any of this. `Coordinator.act_transition` says that every action is one of these. So a
case split over the transitions shows what the course of a run keeps: it never leads back to before
the start (`phase_act`), leaving the loop raises the flag (`act_isLeaving`), and once the loop is
left the phase goes with the task (`Coherent.act`).
-/

set_option autoImplicit false
set_option relaxedAutoImplicit false

namespace LiveBoard.Viewer

open Feed

/-- The coordinator turns to a task, and its course stays the same otherwise. -/
structure Coordinator.TurnsTo (coordinator next : Coordinator) (task : Task) : Prop where
  task : next.task = task
  phase : next.phase = coordinator.phase
  holds : next.holdsListener = coordinator.holdsListener
  outcome : next.outcome = coordinator.outcome

/-- An action of the coordinator at a time, given the listener. -/
inductive Coordinator.Transition (settings : Settings) (listener : Option Listener) (now : Instant)
    (coordinator : Coordinator) (handoff : Handoff) (next : Coordinator) : Handoff → Prop
  /-- No run is going on. -/
  | idles (htask : coordinator.task = .idle) (hturns : coordinator.TurnsTo next .idle) :
    Transition settings listener now coordinator handoff next handoff
  /-- The flag is seen. -/
  | notices (htask : coordinator.task = .watching) (hcancelled : handoff.cancelled = true)
      (hturns : coordinator.TurnsTo next .stopping) :
    Transition settings listener now coordinator handoff next handoff
  /-- The flag is not raised, so a message is waited for. -/
  | goesOn (deadline : Instant) (htask : coordinator.task = .watching)
      (hclear : handoff.cancelled = false)
      (hturns : coordinator.TurnsTo next (.receiving deadline)) :
    Transition settings listener now coordinator handoff next handoff
  /-- A message is taken in the loop. -/
  | takes (deadline : Instant) (payload : Payload) (rest : List Payload)
      (htask : coordinator.task = .receiving deadline) (hqueue : handoff.queue = payload :: rest)
      (hturns : coordinator.TurnsTo next .drawing) :
    Transition settings listener now coordinator handoff next { handoff with queue := rest }
  /-- Nobody can send any more. -/
  | findsNobody (deadline : Instant) (htask : coordinator.task = .receiving deadline)
      (hqueue : handoff.queue = []) (hgone : senderGone listener = true)
      (hturns : coordinator.TurnsTo next .abandoning) :
    Transition settings listener now coordinator handoff next handoff
  /-- No message came in time. -/
  | timesOut (deadline : Instant) (htask : coordinator.task = .receiving deadline)
      (hqueue : handoff.queue = []) (hsender : senderGone listener = false)
      (hlate : deadline ≤ now) (hturns : coordinator.TurnsTo next .drawing) :
    Transition settings listener now coordinator handoff next handoff
  /-- A message is still waited for. -/
  | waits (deadline : Instant) (htask : coordinator.task = .receiving deadline)
      (hqueue : handoff.queue = []) (hsender : senderGone listener = false)
      (hearly : now < deadline) (hturns : coordinator.TurnsTo next (.receiving deadline)) :
    Transition settings listener now coordinator handoff next handoff
  /-- The flag is raised because nobody can send any more. -/
  | abandons (htask : coordinator.task = .abandoning)
      (hturns : coordinator.TurnsTo next .drawing) :
    Transition settings listener now coordinator handoff next handoff.cancel
  /-- What is staged is drawn if it is due. -/
  | draws (htask : coordinator.task = .drawing) (hturns : coordinator.TurnsTo next .watching) :
    Transition settings listener now coordinator handoff next handoff
  /-- The flag is raised, and the listener is waited for. -/
  | stops (htask : coordinator.task = .stopping) (hholds : coordinator.holdsListener = true)
      (hnext : next.task = .joining (.start now settings.joinTimeout) now)
      (hphase : next.phase = .stopping) (hstill : next.holdsListener = true) :
    Transition settings listener now coordinator handoff next handoff.cancel
  /-- The flag is raised, and there is no listener to wait for. -/
  | stopsAlone (htask : coordinator.task = .stopping) (hholds : coordinator.holdsListener = false)
      (hnext : next.task = .draining none) (hphase : next.phase = .stopping)
      (hgone : next.holdsListener = false) :
    Transition settings listener now coordinator handoff next handoff.cancel
  /-- It is too early for a look at the listener. -/
  | pauses (wait : Join) (look : Instant) (htask : coordinator.task = .joining wait look)
      (hearly : now < look) (hturns : coordinator.TurnsTo next (.joining wait look)) :
    Transition settings listener now coordinator handoff next handoff
  /-- The listener has finished. -/
  | joins (wait : Join) (look : Instant) (htask : coordinator.task = .joining wait look)
      (hready : look ≤ now) (hgone : senderGone listener = true)
      (hnext : next.task = .draining (listener.bind Listener.report))
      (hphase : next.phase = coordinator.phase) (hlet : next.holdsListener = false) :
    Transition settings listener now coordinator handoff next handoff
  /-- The listener is at work, so the clock is looked at. -/
  | findsBusy (wait : Join) (look : Instant) (htask : coordinator.task = .joining wait look)
      (hready : look ≤ now) (hsender : senderGone listener = false)
      (hturns : coordinator.TurnsTo next (.timing wait)) :
    Transition settings listener now coordinator handoff next handoff
  /-- The time is up and the listener is left to itself, whatever it does by now. -/
  | detaches (wait : Join) (htask : coordinator.task = .timing wait) (hlate : wait.deadline ≤ now)
      (hnext : next.task = .draining none) (hphase : next.phase = coordinator.phase)
      (hlet : next.holdsListener = false) :
    Transition settings listener now coordinator handoff next handoff
  /-- The listener is looked at again later. -/
  | looksAgain (wait : Join) (htask : coordinator.task = .timing wait)
      (hearly : now < wait.deadline)
      (hturns : coordinator.TurnsTo next (.joining wait (now + joinStep))) :
    Transition settings listener now coordinator handoff next handoff
  /-- A message is taken after the loop. -/
  | drains (report : Option ListenerExit) (payload : Payload) (rest : List Payload)
      (htask : coordinator.task = .draining report) (hqueue : handoff.queue = payload :: rest)
      (hturns : coordinator.TurnsTo next (.draining report)) :
    Transition settings listener now coordinator handoff next { handoff with queue := rest }
  /-- No message is left. -/
  | drained (report : Option ListenerExit) (htask : coordinator.task = .draining report)
      (hqueue : handoff.queue = []) (hturns : coordinator.TurnsTo next (.finishing report)) :
    Transition settings listener now coordinator handoff next handoff
  /-- The run ends with an outcome. -/
  | finishes (report : Option ListenerExit) (htask : coordinator.task = .finishing report)
      (hnext : next.task = .idle) (hphase : next.phase = .stopped)
      (hholds : next.holdsListener = coordinator.holdsListener)
      (houtcome : next.outcome = some (.ofExit report settings.broker)) :
    Transition settings listener now coordinator handoff next handoff

section Transitions

variable (settings : Settings) (coordinator : Coordinator) (handoff : Handoff)
  (listener : Option Listener) (now : Instant)

/-- Every action is a transition. -/
theorem Coordinator.act_transition :
    Coordinator.Transition settings listener now coordinator handoff
      (coordinator.act settings handoff listener now).1
      (coordinator.act settings handoff listener now).2 := by
  cases htask : coordinator.task with
  | idle =>
    rw [Coordinator.act_of_idle htask]
    exact .idles htask ⟨htask, rfl, rfl, rfl⟩
  | watching =>
    cases hflag : handoff.cancelled with
    | true =>
      rw [Coordinator.act_noticing htask hflag]
      exact .notices htask hflag ⟨rfl, rfl, rfl, rfl⟩
    | false =>
      rw [Coordinator.act_watching htask hflag]
      exact .goesOn _ htask hflag ⟨rfl, rfl, rfl, rfl⟩
  | receiving deadline =>
    cases hqueue : handoff.queue with
    | cons payload rest =>
      rw [Coordinator.act_taking htask hqueue]
      exact .takes deadline payload rest htask hqueue ⟨rfl, rfl, rfl, rfl⟩
    | nil =>
      rw [Coordinator.act_empty htask hqueue]
      cases hsender : senderGone listener with
      | true => exact .findsNobody deadline htask hqueue hsender ⟨rfl, rfl, rfl, rfl⟩
      | false =>
        by_cases hlate : deadline ≤ now
        · exact .timesOut deadline htask hqueue hsender hlate ⟨if_pos hlate, rfl, rfl, rfl⟩
        · exact .waits deadline htask hqueue hsender (Nat.lt_of_not_le hlate)
            ⟨if_neg hlate, rfl, rfl, rfl⟩
  | abandoning =>
    rw [Coordinator.act_abandoning htask]
    exact .abandons htask ⟨rfl, rfl, rfl, rfl⟩
  | drawing =>
    rw [Coordinator.act_drawing htask]
    exact .draws htask ⟨rfl, rfl, rfl, rfl⟩
  | stopping =>
    cases hholds : coordinator.holdsListener with
    | true =>
      rw [Coordinator.act_stopping_of_holds htask hholds]
      exact .stops htask hholds rfl rfl hholds
    | false =>
      rw [Coordinator.act_stopping_of_released htask hholds]
      exact .stopsAlone htask hholds rfl rfl rfl
  | joining wait look =>
    by_cases hready : look ≤ now
    · cases hsender : senderGone listener with
      | true =>
        rw [Coordinator.act_joining_of_gone htask hready hsender]
        exact .joins wait look htask hready hsender rfl rfl rfl
      | false =>
        rw [Coordinator.act_joining_of_busy htask hready hsender]
        exact .findsBusy wait look htask hready hsender ⟨rfl, rfl, rfl, rfl⟩
    · have hearly := Nat.lt_of_not_le hready
      rw [Coordinator.act_asleep htask hearly]
      exact .pauses wait look htask hearly ⟨htask, rfl, rfl, rfl⟩
  | timing wait =>
    by_cases hlate : wait.deadline ≤ now
    · rw [Coordinator.act_timing_of_le htask hlate]
      exact .detaches wait htask hlate rfl rfl rfl
    · have hearly := Nat.lt_of_not_le hlate
      rw [Coordinator.act_timing_of_lt htask hearly]
      exact .looksAgain wait htask hearly ⟨rfl, rfl, rfl, rfl⟩
  | draining report =>
    cases hqueue : handoff.queue with
    | cons payload rest =>
      rw [Coordinator.act_draining_cons htask hqueue]
      exact .drains report payload rest htask hqueue ⟨htask, rfl, rfl, rfl⟩
    | nil =>
      rw [Coordinator.act_draining_nil htask hqueue]
      exact .drained report htask hqueue ⟨rfl, rfl, rfl, rfl⟩
  | finishing report =>
    rw [Coordinator.act_finishing htask]
    exact .finishes report htask Coordinator.task_finish Coordinator.phase_finish
      Coordinator.holdsListener_finish Coordinator.outcome_finish

end Transitions

/-! ### The course of a run -/

section Course

variable {settings : Settings} {listener : Option Listener} {now : Instant}
  {coordinator next : Coordinator} {handoff shared : Handoff}

/-- No action leads back to before the start. -/
theorem Coordinator.Transition.starting
    (htransition : Coordinator.Transition settings listener now coordinator handoff next shared)
    (hstarting : next.phase = .starting) : coordinator.phase = .starting := by
  cases htransition with
  | stops htask hholds hnext hphase hstill => cases hphase.symm.trans hstarting
  | stopsAlone htask hholds hnext hphase hgone => cases hphase.symm.trans hstarting
  | joins wait look htask hready hgone hnext hphase hlet => exact hphase.symm.trans hstarting
  | detaches wait htask hlate hnext hphase hlet => exact hphase.symm.trans hstarting
  | finishes report htask hnext hphase hholds houtcome => cases hphase.symm.trans hstarting
  | _ =>
    rename_i hturns
    exact hturns.phase.symm.trans hstarting

theorem Coordinator.phase_act
    (hstarting : (coordinator.act settings handoff listener now).1.phase = .starting) :
    coordinator.phase = .starting :=
  (coordinator.act_transition settings handoff listener now).starting hstarting

/-- The coordinator raises the flag before it leaves the loop. -/
theorem Coordinator.Transition.isLeaving
    (htransition : Coordinator.Transition settings listener now coordinator handoff next shared)
    (hleaving : next.isLeaving = true) :
    coordinator.isLeaving = true ∨ shared.cancelled = true := by
  unfold Coordinator.isLeaving at hleaving ⊢
  cases htransition with
  | stops htask hholds hnext hphase hstill => exact Or.inr rfl
  | stopsAlone htask hholds hnext hphase hgone => exact Or.inr rfl
  | joins wait look htask hready hgone hnext hphase hlet =>
    rw [htask]
    exact Or.inl rfl
  | detaches wait htask hlate hnext hphase hlet =>
    rw [htask]
    exact Or.inl rfl
  | finishes report htask hnext hphase hholds houtcome =>
    rw [hnext] at hleaving
    cases hleaving
  | _ =>
    rename_i hturns
    rw [hturns.task] at hleaving
    rw [‹coordinator.task = _›]
    first | exact Or.inl rfl | cases hleaving

theorem Coordinator.act_isLeaving (h : coordinator.isLeaving = true → handoff.cancelled = true)
    (hleaving : (coordinator.act settings handoff listener now).1.isLeaving = true) :
    (coordinator.act settings handoff listener now).2.cancelled = true := by
  rcases (coordinator.act_transition settings handoff listener now).isLeaving hleaving with
    hbefore | hraised
  · exact coordinator.act_cancelled settings handoff listener now (h hbefore)
  · exact hraised

theorem Coordinator.Transition.coherent
    (htransition : Coordinator.Transition settings listener now coordinator handoff next shared)
    (h : coordinator.Coherent) : next.Coherent := by
  unfold Coordinator.Coherent at h ⊢
  cases htransition with
  | stops htask hholds hnext hphase hstill =>
    rw [hnext]
    exact hphase
  | stopsAlone htask hholds hnext hphase hgone =>
    rw [hnext]
    exact ⟨hphase, hgone⟩
  | joins wait look htask hready hgone hnext hphase hlet =>
    rw [htask] at h
    rw [hnext]
    exact ⟨hphase.trans h, hlet⟩
  | detaches wait htask hlate hnext hphase hlet =>
    rw [htask] at h
    rw [hnext]
    exact ⟨hphase.trans h, hlet⟩
  | finishes report htask hnext hphase hholds houtcome =>
    rw [hnext]
    trivial
  | _ =>
    rename_i hturns
    rw [‹coordinator.task = _›] at h
    rw [hturns.task]
    first
      | trivial
      | exact hturns.phase.trans h
      | exact ⟨hturns.phase.trans h.1, hturns.holds.trans h.2⟩

theorem Coordinator.Coherent.act (h : coordinator.Coherent) :
    (coordinator.act settings handoff listener now).1.Coherent :=
  (coordinator.act_transition settings handoff listener now).coherent h

end Course

/-! ### Raising the flag -/

/-- The run is cancelled, or the coordinator is about to cancel it. -/
def Coordinator.Cancels (coordinator : Coordinator) (handoff : Handoff) : Prop :=
  handoff.cancelled = true ∨ coordinator.task = .stopping ∨ coordinator.task = .abandoning

section Raising

variable {settings : Settings} {listener : Option Listener} {now : Instant}
  {coordinator next : Coordinator} {handoff shared : Handoff}

theorem Coordinator.TurnsTo.not_cancels {task : Task} (hturns : coordinator.TurnsTo next task)
    (hstopping : task ≠ .stopping) (habandoning : task ≠ .abandoning)
    (h : next.Cancels handoff) : handoff.cancelled = true := by
  unfold Coordinator.Cancels at h
  rw [hturns.task] at h
  rcases h with hcancelled | hstops | habandons
  · exact hcancelled
  · exact absurd hstops hstopping
  · exact absurd habandons habandoning

/-- The coordinator turns to cancelling the run only where it is cancelled or nobody can send. -/
theorem Coordinator.Transition.cancels
    (htransition : Coordinator.Transition settings listener now coordinator handoff next shared)
    (h : next.Cancels shared) : coordinator.Cancels handoff ∨ senderGone listener = true := by
  cases htransition with
  | notices htask hcancelled hturns => exact Or.inl (Or.inl hcancelled)
  | findsNobody deadline htask hqueue hgone hturns => exact Or.inr hgone
  | abandons htask hturns => exact Or.inl (Or.inr (Or.inr htask))
  | stops htask hholds hnext hphase hstill => exact Or.inl (Or.inr (Or.inl htask))
  | stopsAlone htask hholds hnext hphase hgone => exact Or.inl (Or.inr (Or.inl htask))
  | joins wait look htask hready hgone hnext hphase hlet => exact Or.inr hgone
  | detaches wait htask hlate hnext hphase hlet =>
    unfold Coordinator.Cancels at h
    rw [hnext] at h
    exact Or.inl (Or.inl (by simpa using h))
  | finishes report htask hnext hphase hholds houtcome =>
    unfold Coordinator.Cancels at h
    rw [hnext] at h
    exact Or.inl (Or.inl (by simpa using h))
  | _ =>
    rename_i hturns
    exact Or.inl (Or.inl (hturns.not_cancels Task.noConfusion Task.noConfusion h))

/-- The phase changes only where the run is cancelled or ends. -/
theorem Coordinator.Transition.phase
    (htransition : Coordinator.Transition settings listener now coordinator handoff next shared) :
    next.phase = coordinator.phase ∨ shared.cancelled = true ∨
      ∃ report, coordinator.task = .finishing report := by
  cases htransition with
  | stops htask hholds hnext hphase hstill => exact Or.inr (Or.inl rfl)
  | stopsAlone htask hholds hnext hphase hgone => exact Or.inr (Or.inl rfl)
  | joins wait look htask hready hgone hnext hphase hlet => exact Or.inl hphase
  | detaches wait htask hlate hnext hphase hlet => exact Or.inl hphase
  | finishes report htask hnext hphase hholds houtcome => exact Or.inr (Or.inr ⟨report, htask⟩)
  | _ =>
    rename_i hturns
    exact Or.inl hturns.phase

/-- An action leads to the end of a run where the queue is empty, it ends the run, no run is going
on, or the run goes on. -/
theorem Coordinator.Transition.task_cases
    (htransition : Coordinator.Transition settings listener now coordinator handoff next shared) :
    (coordinator.task = .idle ∧ next.task = .idle ∧ shared = handoff) ∨
    (next.isFinishing = true ∧ next.task ≠ .idle ∧ shared.queue = []) ∨
    (coordinator.isFinishing = true ∧ next.task = .idle ∧ next.phase = .stopped) ∨
    (next.isFinishing = false ∧ next.task ≠ .idle) := by
  unfold Coordinator.isFinishing
  cases htransition with
  | idles htask hturns => exact Or.inl ⟨htask, hturns.task, rfl⟩
  | drained report htask hqueue hturns => simp [hturns.task, hqueue]
  | finishes report htask hnext hphase hholds houtcome => simp [htask, hnext, hphase]
  | stops htask hholds hnext hphase hstill => simp [hnext]
  | stopsAlone htask hholds hnext hphase hgone => simp [hnext]
  | joins wait look htask hready hgone hnext hphase hlet => simp [hnext]
  | detaches wait htask hlate hnext hphase hlet => simp [hnext]
  | _ =>
    rename_i hturns
    simp [hturns.task]

/-- A coordinator without a run was without one before, or has ended one and is stopped. -/
theorem Coordinator.Transition.idle
    (htransition : Coordinator.Transition settings listener now coordinator handoff next shared)
    (hidle : next.task = .idle) :
    (coordinator.task = .idle ∧ shared = handoff) ∨
      (coordinator.isFinishing = true ∧ next.phase = .stopped) := by
  rcases htransition.task_cases with ⟨hbefore, -, hsame⟩ | ⟨-, hbusy, -⟩ |
    ⟨hfinishing, -, hstopped⟩ | ⟨-, hbusy⟩
  · exact Or.inl ⟨hbefore, hsame⟩
  · exact absurd hidle hbusy
  · exact Or.inr ⟨hfinishing, hstopped⟩
  · exact absurd hidle hbusy

/-- The end of a run comes after the queue was found empty. -/
theorem Coordinator.Transition.finishing
    (htransition : Coordinator.Transition settings listener now coordinator handoff next shared)
    (hfinishing : next.isFinishing = true) : shared.queue = [] := by
  have hbusy : next.task ≠ .idle := by
    obtain ⟨report, htask⟩ := Coordinator.isFinishing_iff.mp hfinishing
    rw [htask]
    exact Task.noConfusion
  rcases htransition.task_cases with ⟨-, hidle, -⟩ | ⟨-, -, hqueue⟩ | ⟨-, hidle, -⟩ | ⟨hgoing, -⟩
  · exact absurd hidle hbusy
  · exact hqueue
  · exact absurd hidle hbusy
  · exact Bool.noConfusion (hgoing.symm.trans hfinishing)

/-- A coordinator stops at the end of a run only. -/
theorem Coordinator.Transition.stopped
    (htransition : Coordinator.Transition settings listener now coordinator handoff next shared)
    (hstopped : next.phase = .stopped) :
    coordinator.phase = .stopped ∨ coordinator.isFinishing = true := by
  cases htransition with
  | finishes report htask hnext hphase hholds houtcome =>
    exact Or.inr (Coordinator.isFinishing_iff.mpr ⟨report, htask⟩)
  | stops htask hholds hnext hphase hstill =>
    exact absurd (hphase.symm.trans hstopped) Phase.noConfusion
  | stopsAlone htask hholds hnext hphase hgone =>
    exact absurd (hphase.symm.trans hstopped) Phase.noConfusion
  | joins wait look htask hready hgone hnext hphase hlet =>
    exact Or.inl (hphase.symm.trans hstopped)
  | detaches wait htask hlate hnext hphase hlet =>
    exact Or.inl (hphase.symm.trans hstopped)
  | _ =>
    rename_i hturns
    exact Or.inl (hturns.phase.symm.trans hstopped)

end Raising

end LiveBoard.Viewer
