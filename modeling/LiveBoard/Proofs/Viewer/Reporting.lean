import LiveBoard.Proofs.Viewer.TimelyReturn

/-!
# Reports

A run yields an outcome when it ends (`Interplay.yielded`). Of a listener that has ended, the
coordinator reports the exit (`Coordinator.Reports`), with one exception. It looks at the listener
first and at the clock next, so a listener that it found at work may end between the two looks; and
if the time is up at the second one (`Interplay.Misses`), it lets go of the listener without looking
at it again. A coordinator that has let go of its listener without a report (`Coordinator.Bereft`)
never has one again, so all the runs that end after that yield an interruption.
-/

set_option autoImplicit false
set_option relaxedAutoImplicit false

namespace LiveBoard.Viewer

open Feed

/-- The outcome that a run yields in a move. -/
def Interplay.yielded (settings : Settings) (state : Interplay) : Move → List Outcome
  | .coordinator now =>
    match state.coordinator.task with
    | .finishing _ => (state.step settings (.coordinator now)).coordinator.outcome.toList
    | _ => []
  | _ => []

/-- The times at which the coordinator acts. -/
def Move.looks (moves : List Move) : List Instant :=
  moves.filterMap fun move ↦
    match move with
    | .coordinator now => some now
    | _ => none

theorem Move.looks_elsewhere {move : Move} (hmove : ∀ now, move ≠ .coordinator now)
    (rest : List Move) : Move.looks (move :: rest) = Move.looks rest := by
  cases move with
  | coordinator now => exact absurd rfl (hmove now)
  | _ => rfl

/-- A look at the listener has found it at work, and it has ended since. The next look of the
coordinator is one at the clock, which finds the time up. -/
def Interplay.Misses (state : Interplay) (after : List Move) : Prop :=
  ∃ wait, state.coordinator.task = .timing wait ∧
    ∃ now ∈ (Move.looks after).head?, wait.deadline ≤ now

section Yielding

variable {settings : Settings} {state : Interplay} {now : Instant}

theorem Interplay.yielded_of_finishing {report : Option ListenerExit}
    (hfinishing : state.coordinator.task = .finishing report) :
    state.yielded settings (.coordinator now) = [.ofExit report settings.broker] := by
  have houtcome : (state.step settings (.coordinator now)).coordinator.outcome =
      some (.ofExit report settings.broker) := by
    rw [Interplay.step_act, Coordinator.act_finishing hfinishing]
    rfl
  unfold Interplay.yielded
  dsimp only
  rw [hfinishing, houtcome]
  rfl

theorem Interplay.yielded_of_running
    (hruns : ∀ report, state.coordinator.task ≠ .finishing report) :
    state.yielded settings (.coordinator now) = [] := by
  unfold Interplay.yielded
  dsimp only
  split
  · exact absurd ‹_› (hruns _)
  · rfl

theorem Interplay.yielded_elsewhere {move : Move} (hmove : ∀ now, move ≠ .coordinator now) :
    state.yielded settings move = [] := by
  cases move with
  | coordinator now => exact absurd rfl (hmove now)
  | _ => rfl

/-- A run yields in a move only what it reports. -/
theorem Interplay.mem_yielded {move : Move} {outcome : Outcome}
    (h : outcome ∈ state.yielded settings move) :
    ∃ report, state.coordinator.task = .finishing report ∧
      outcome = .ofExit report settings.broker := by
  by_cases hmove : ∀ now, move ≠ .coordinator now
  · rw [Interplay.yielded_elsewhere hmove] at h
    cases h
  · obtain ⟨now, rfl⟩ : ∃ now, move = .coordinator now := by
      simpa using hmove
    by_cases hruns : ∀ report, state.coordinator.task ≠ .finishing report
    · rw [Interplay.yielded_of_running hruns] at h
      cases h
    · obtain ⟨report, hfinishing⟩ : ∃ report, state.coordinator.task = .finishing report := by
        simpa using hruns
      rw [Interplay.yielded_of_finishing hfinishing] at h
      exact ⟨report, hfinishing, List.mem_singleton.mp h⟩

end Yielding

/-! ### Without a report -/

/-- The coordinator has let go of the listener and has no report of it. -/
structure Coordinator.Bereft (coordinator : Coordinator) : Prop where
  released : coordinator.holdsListener = false
  task : match coordinator.task with
    | .joining .. => False
    | .timing _ => False
    | .draining report => report = none
    | .finishing report => report = none
    | _ => True

section Bereft

variable {settings : Settings} {coordinator next : Coordinator} {handoff shared : Handoff}
  {worker : Option Listener} {listener : Listener} {now : Instant} {state : Interplay}

/-- A coordinator that has let go of the listener does not look at it any more. -/
theorem Coordinator.Bereft.wait? (h : coordinator.Bereft) : coordinator.task.wait? = none := by
  have htask := h.task
  cases hcase : coordinator.task with
  | joining wait look => grind
  | timing wait => grind
  | _ => rfl

theorem Coordinator.Transition.bereft
    (htransition : Coordinator.Transition settings worker now coordinator handoff next shared)
    (h : coordinator.Bereft) : next.Bereft := by
  have hwait := h.wait?
  obtain ⟨hreleased, hreport⟩ := h
  cases htransition with
  | stops htask hholds hnext hphase hstill =>
    rw [hreleased] at hholds
    cases hholds
  | stopsAlone htask hholds hnext hphase hgone => exact ⟨hgone, by rw [hnext]⟩
  | pauses wait look htask hearly hturns =>
    rw [htask] at hwait
    cases hwait
  | joins wait look htask hready hgone hnext hphase hlet =>
    rw [htask] at hwait
    cases hwait
  | findsBusy wait look htask hready hsender hturns =>
    rw [htask] at hwait
    cases hwait
  | detaches wait htask hlate hnext hphase hlet => exact ⟨hlet, by rw [hnext]⟩
  | looksAgain wait htask hearly hturns =>
    rw [htask] at hwait
    cases hwait
  | drains report payload rest htask hqueue hturns =>
    rw [htask] at hreport
    exact ⟨hturns.holds.trans hreleased, by rw [hturns.task]; exact hreport⟩
  | drained report htask hqueue hturns =>
    rw [htask] at hreport
    exact ⟨hturns.holds.trans hreleased, by rw [hturns.task]; exact hreport⟩
  | finishes report htask hnext hphase hholds houtcome =>
    exact ⟨hholds.trans hreleased, by rw [hnext]; trivial⟩
  | _ =>
    rename_i hturns
    exact ⟨hturns.holds.trans hreleased, by rw [hturns.task]; trivial⟩

/-- A look at the clock that finds the time up is not followed by another look at the listener. -/
theorem Coordinator.bereft_of_late {wait : Join} (htask : coordinator.task = .timing wait)
    (hlate : wait.deadline ≤ now) :
    (coordinator.act settings handoff worker now).1.Bereft := by
  rw [Coordinator.act_timing_of_le htask hlate]
  exact ⟨rfl, rfl⟩

/-- At the end of a run the coordinator has let go of the listener and forgets the report. -/
theorem Coordinator.Coherent.bereft_finish (h : coordinator.Coherent)
    {report : Option ListenerExit} (htask : coordinator.task = .finishing report) :
    (coordinator.finish settings report now).Bereft := by
  unfold Coordinator.Coherent at h
  rw [htask] at h
  exact ⟨Coordinator.holdsListener_finish.trans h.2, trivial⟩

theorem Interplay.step_bereft (hsane : state.Sane) (hlistener : state.listener = some listener)
    (h : state.coordinator.Bereft) (move : Move) :
    (state.step settings move).coordinator.Bereft := by
  rcases state.coordinator_cases settings move with ⟨now, -, hstep⟩ |
    ⟨spawning, now, -, hstarting, -⟩ | ⟨-, -, hstep⟩ | ⟨spare, hstep⟩
  · rw [hstep]
    exact (Coordinator.act_transition settings state.coordinator state.handoff state.listener
      now).bereft h
  · rw [hsane.unstarted hstarting] at hlistener
    cases hlistener
  · rw [hstep]
    rcases state.coordinator.beginRun_cases with hbegun | hbegun <;>
    · rw [hbegun]
      exact ⟨h.released, trivial⟩
  · rw [hstep]
    exact ⟨h.released, h.task⟩

/-- Assumes: the listener has finished, and the coordinator has let go of it without a report. Every
run yields an interruption. -/
theorem Interplay.interrupted_of_bereft (hsane : state.Sane)
    (hlistener : state.listener = some listener) (hfinished : listener.isFinished = true)
    (h : state.coordinator.Bereft) (moves : List Move) :
    ∀ outcome ∈ Interplay.gather settings (Interplay.yielded settings) state moves,
      outcome = .interrupted := by
  induction moves generalizing state with
  | nil => exact nofun
  | cons move rest ih =>
    intro outcome hmem
    rcases List.mem_append.mp hmem with hfirst | hrest
    · obtain ⟨report, hfinishing, rfl⟩ := Interplay.mem_yielded hfirst
      have hreport := h.task
      rw [hfinishing] at hreport
      obtain rfl : report = none := hreport
      rfl
    · exact ih (hsane.step settings move)
        (Interplay.step_finished settings hsane hlistener hfinished move)
        (Interplay.step_bereft hsane hlistener h move) outcome hrest

/-- Assumes: the listener has finished, and the coordinator misses that. Every run yields an
interruption. -/
theorem Interplay.interrupted_of_misses (hsane : state.Sane)
    (hlistener : state.listener = some listener) (hfinished : listener.isFinished = true)
    {moves : List Move} (h : state.Misses moves) :
    ∀ outcome ∈ Interplay.gather settings (Interplay.yielded settings) state moves,
      outcome = .interrupted := by
  induction moves generalizing state with
  | nil => exact nofun
  | cons move rest ih =>
    obtain ⟨wait, htask, first, hfirst, hlate⟩ := h
    have hsane' := hsane.step settings move
    have hlistener' := Interplay.step_finished settings hsane hlistener hfinished move
    have hnothing : state.yielded settings move = [] := by
      by_contra hsome
      obtain ⟨outcome, hmem⟩ := List.exists_mem_of_ne_nil _ hsome
      obtain ⟨report, hfinishing, -⟩ := Interplay.mem_yielded hmem
      cases htask.symm.trans hfinishing
    unfold Interplay.gather
    rw [hnothing, List.nil_append]
    by_cases hmove : ∀ now, move ≠ .coordinator now
    · have hsame := Interplay.coordinator_step settings hmove
        (fun hidle ↦ Task.noConfusion (htask.symm.trans hidle))
      rw [Move.looks_elsewhere hmove] at hfirst
      exact ih hsane' hlistener' ⟨wait, hsame ▸ htask, first, hfirst, hlate⟩
    · obtain ⟨now, rfl⟩ : ∃ now, move = .coordinator now := by
        simpa using hmove
      obtain rfl : now = first := Option.some.inj hfirst
      exact Interplay.interrupted_of_bereft hsane' hlistener' hfinished
        (Coordinator.bereft_of_late htask hlate) rest

end Bereft

/-! ### With a report -/

/-- The coordinator, acting at these times, reports this, or holds on to the listener that will. If
it looks at the clock next it finds some time left. -/
def Coordinator.Reports (report : Option ListenerExit) (times : List Instant)
    (coordinator : Coordinator) : Prop :=
  match coordinator.task with
  | .draining found => found = report
  | .finishing found => found = report
  | .timing wait => coordinator.holdsListener = true ∧ ∀ now ∈ times.head?, now < wait.deadline
  | _ => coordinator.holdsListener = true

section Reporting

variable {settings : Settings} {listener : Listener} {exit : ListenerExit} {now : Instant}
  {coordinator next : Coordinator} {handoff shared : Handoff} {state : Interplay}
  {times : List Instant}

/-- A coordinator that still holds on to the listener reports what that will report. -/
theorem Coordinator.Coherent.reports (h : coordinator.Coherent)
    (hholds : coordinator.holdsListener = true) (report : Option ListenerExit)
    (hearly : ∀ wait, coordinator.task = .timing wait → ∀ now ∈ times.head?, now < wait.deadline) :
    coordinator.Reports report times := by
  unfold Coordinator.Coherent at h
  unfold Coordinator.Reports
  cases htask : coordinator.task with
  | draining found =>
    rw [htask, hholds] at h
    cases h.2
  | finishing found =>
    rw [htask, hholds] at h
    cases h.2
  | timing wait => exact ⟨hholds, hearly wait htask⟩
  | _ => exact hholds

/-- Assumes: the listener has ended. The coordinator reports its exit until the run ends. -/
theorem Coordinator.Transition.reports
    (htransition :
      Coordinator.Transition settings (some listener) now coordinator handoff next shared)
    (hended : listener.stage = .ended exit) (h : coordinator.Reports (some exit) (now :: times))
    (hruns : ∀ report, coordinator.task ≠ .finishing report) : next.Reports (some exit) times := by
  have hgone : senderGone (some listener) = true := Listener.isFinished_of_ended hended
  have hreport : (some listener).bind Listener.report = some exit :=
    Listener.report_of_ended hended
  unfold Coordinator.Reports at h ⊢
  cases htransition with
  | stops htask hholds hnext hphase hstill =>
    rw [hnext]
    exact hstill
  | stopsAlone htask hnone hnext hphase hlet =>
    rw [htask, hnone] at h
    cases h
  | joins wait look htask hready _ hnext hphase hlet =>
    rw [hnext]
    exact hreport
  | findsBusy wait look htask hready hsender hturns =>
    rw [hgone] at hsender
    cases hsender
  | detaches wait htask hlate hnext hphase hlet =>
    rw [htask] at h
    exact absurd (h.2 now rfl) (Nat.not_lt_of_le hlate)
  | looksAgain wait htask hearly hturns =>
    rw [htask] at h
    rw [hturns.task]
    exact hturns.holds.trans h.1
  | finishes report htask hnext hphase hsame houtcome => exact absurd htask (hruns report)
  | drains report payload rest htask hqueue hturns =>
    rw [htask] at h
    rw [hturns.task]
    exact h
  | drained report htask hqueue hturns =>
    rw [htask] at h
    rw [hturns.task]
    exact h
  | _ =>
    rename_i hturns
    rw [‹coordinator.task = _›] at h
    rw [hturns.task]
    exact hturns.holds.trans h

/-- What else happens does not change what will be reported. -/
theorem Interplay.step_reports {move : Move} (hmove : ∀ now, move ≠ .coordinator now)
    (hlistener : state.listener = some listener) (hsane : state.Sane)
    (h : state.coordinator.Reports (some exit) times) :
    (state.step settings move).coordinator.Reports (some exit) times := by
  rcases state.coordinator_cases settings move with ⟨now, hcoordinator, -⟩ |
    ⟨spawning, now, -, hstarting, -⟩ | ⟨-, hidle, hstep⟩ | ⟨spare, hstep⟩
  · exact absurd hcoordinator (hmove now)
  · rw [hsane.unstarted hstarting] at hlistener
    cases hlistener
  · have hholds : state.coordinator.holdsListener = true := by
      unfold Coordinator.Reports at h
      rw [hidle] at h
      exact h
    rw [hstep]
    rcases state.coordinator.beginRun_cases with hbegun | hbegun <;>
    · rw [hbegun]
      exact hholds
  · rw [hstep]
    exact h

/-- Assumes: the listener has ended, and the coordinator does not miss that. The first outcome that
is yielded is that of its exit, and only interruptions come after it. -/
theorem Interplay.yields_report (horderly : state.Orderly)
    (hlistener : state.listener = some listener) (hended : listener.stage = .ended exit)
    {moves : List Move} (h : state.coordinator.Reports (some exit) (Move.looks moves))
    {outcome : Outcome} {later : List Outcome}
    (hyields : Interplay.gather settings (Interplay.yielded settings) state moves =
      outcome :: later) :
    outcome = .ofExit (some exit) settings.broker ∧ ∀ other ∈ later, other = .interrupted := by
  have hfinished := Listener.isFinished_of_ended hended
  induction moves generalizing state with
  | nil => cases hyields
  | cons move rest ih =>
    have hsane := horderly.sane
    have horderly' := horderly.step settings move
    have hlistener' := Interplay.step_finished settings hsane hlistener hfinished move
    unfold Interplay.gather at hyields
    by_cases hmove : ∀ now, move ≠ .coordinator now
    · rw [Interplay.yielded_elsewhere hmove] at hyields
      rw [Move.looks_elsewhere hmove] at h
      exact ih horderly' hlistener' (Interplay.step_reports hmove hlistener hsane h) hyields
    · obtain ⟨now, rfl⟩ : ∃ now, move = .coordinator now := by
        simpa using hmove
      by_cases hruns : ∀ report, state.coordinator.task ≠ .finishing report
      · rw [Interplay.yielded_of_running hruns] at hyields
        have htransition := Coordinator.act_transition settings state.coordinator state.handoff
          state.listener now
        rw [hlistener] at htransition
        refine ih horderly' hlistener' ?_ hyields
        have hreports := htransition.reports hended h hruns
        rw [← hlistener] at hreports
        exact hreports
      · obtain ⟨report, hfinishing⟩ : ∃ report, state.coordinator.task = .finishing report := by
          simpa using hruns
        have hbereft : (state.step settings (.coordinator now)).coordinator.Bereft := by
          rw [Interplay.step_act, Coordinator.act_finishing hfinishing]
          exact horderly.coherent.bereft_finish hfinishing
        unfold Coordinator.Reports at h
        rw [hfinishing] at h
        obtain rfl : report = some exit := h
        rw [Interplay.yielded_of_finishing hfinishing] at hyields
        obtain ⟨rfl, rfl⟩ := List.cons.inj hyields
        exact ⟨rfl, Interplay.interrupted_of_bereft horderly'.sane hlistener' hfinished hbereft
          rest⟩

end Reporting

end LiveBoard.Viewer
