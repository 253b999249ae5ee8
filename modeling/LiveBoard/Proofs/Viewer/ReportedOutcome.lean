import LiveBoard.Proofs.Viewer.BoundedTail
import LiveBoard.Proofs.Viewer.Reporting

/-!
# The reported outcome

Where the listener returns within the time that it is waited for, the coordinator reports its exit,
unless it misses that return between its two looks. Since the exit tells what the source replied and
who cancelled the run, so does the outcome: `Interplay.reported_outcome`. The run does come to its
end, for every action of the coordinator then brings it closer (`Coordinator.rank`), as long as it
does not sleep (`Interplay.wakings`).

A missed return is a failure that nobody hears of. In `Interplay.missed_return` the listener reports
a lost connection a millisecond before the time is up, nobody has cancelled the run, and the outcome
is an interruption.
-/

set_option autoImplicit false
set_option relaxedAutoImplicit false

namespace LiveBoard.Viewer

open Feed

/-! ### Coming to the end -/

/-- The times at which the coordinator acts and does not sleep. -/
def Interplay.wakings (state : Interplay) : Move → List Instant
  | .coordinator now =>
    if (state.coordinator.wakesAt state.handoff state.listener now).all (· ≤ now) then [now] else []
  | _ => []

/-- The number of actions of the coordinator after which a cancelled run is over at the latest. -/
def Coordinator.rank (coordinator : Coordinator) (handoff : Handoff) : Nat :=
  match coordinator.task with
  | .idle => 0
  | .finishing _ => 1
  | .draining _ => 2 + handoff.queue.length
  | .joining .. => 3 + handoff.queue.length
  | .timing _ => 4 + handoff.queue.length
  | .stopping => 4 + handoff.queue.length
  | .watching => 5 + handoff.queue.length
  | .drawing => 6 + handoff.queue.length
  | .abandoning => 7 + handoff.queue.length
  | .receiving _ => 8 + handoff.queue.length

theorem Coordinator.rank_le (coordinator : Coordinator) (handoff : Handoff) :
    coordinator.rank handoff ≤ handoff.queue.length + 8 := by
  unfold Coordinator.rank
  split <;> omega

theorem Coordinator.rank_pos {coordinator : Coordinator} (hbusy : coordinator.task ≠ .idle)
    (handoff : Handoff) : 0 < coordinator.rank handoff := by
  unfold Coordinator.rank
  split
  · exact absurd ‹_› hbusy
  all_goals omega

section Ending

variable {settings : Settings} {listener : Listener} {now : Instant} {state : Interplay}

theorem Interplay.length_wakings_le (state : Interplay) (move : Move) :
    (state.wakings move).length ≤ 1 := by
  unfold Interplay.wakings
  split
  · split_ifs
    · exact Nat.le_refl 1
    · exact Nat.zero_le 1
  · exact Nat.zero_le 1

theorem Interplay.wakings_elsewhere {move : Move} (hmove : ∀ now, move ≠ .coordinator now) :
    state.wakings move = [] := by
  cases move with
  | coordinator now => exact absurd rfl (hmove now)
  | _ => rfl

theorem Interplay.wakings_of_asleep {wait : Join} {look : Instant}
    (htask : state.coordinator.task = .joining wait look) (hearly : now < look) :
    state.wakings (.coordinator now) = [] := by
  unfold Interplay.wakings Coordinator.wakesAt
  dsimp only
  rw [htask]
  exact if_neg (by simpa using hearly)

/-- Assumes: the run is cancelled, the listener has finished, and the coordinator does not sleep. It
comes closer to the end of the run. -/
theorem Coordinator.Transition.rank_lt {worker : Option Listener} {coordinator next : Coordinator}
    {handoff shared : Handoff}
    (htransition : Coordinator.Transition settings worker now coordinator handoff next shared)
    (hgone : senderGone worker = true) (hcancelled : handoff.cancelled = true)
    (hbusy : coordinator.task ≠ .idle) (hruns : ∀ report, coordinator.task ≠ .finishing report)
    (hready : ∀ wait look, coordinator.task = .joining wait look → look ≤ now) :
    next.rank shared < coordinator.rank handoff ∧ next.task ≠ .idle := by
  unfold Coordinator.rank
  cases htransition with
  | idles htask hturns => exact absurd htask hbusy
  | notices htask _ hturns =>
    rw [htask, hturns.task]
    exact ⟨by dsimp only; omega, Task.noConfusion⟩
  | goesOn deadline htask hclear hturns =>
    rw [hcancelled] at hclear
    cases hclear
  | takes deadline payload rest htask hqueue hturns =>
    rw [htask, hturns.task, hqueue]
    exact ⟨by dsimp only; rw [List.length_cons]; omega, Task.noConfusion⟩
  | findsNobody deadline htask hqueue _ hturns =>
    rw [htask, hturns.task]
    exact ⟨by dsimp only; omega, Task.noConfusion⟩
  | timesOut deadline htask hqueue hsender hlate hturns =>
    rw [hgone] at hsender
    cases hsender
  | waits deadline htask hqueue hsender hearly hturns =>
    rw [hgone] at hsender
    cases hsender
  | abandons htask hturns =>
    rw [htask, hturns.task]
    exact ⟨Nat.add_lt_add_right (by decide) _, Task.noConfusion⟩
  | draws htask hturns =>
    rw [htask, hturns.task]
    exact ⟨by dsimp only; omega, Task.noConfusion⟩
  | stops htask hholds hnext hphase hstill =>
    rw [htask, hnext]
    exact ⟨Nat.add_lt_add_right (by decide) _, Task.noConfusion⟩
  | stopsAlone htask hholds hnext hphase hlet =>
    rw [htask, hnext]
    exact ⟨Nat.add_lt_add_right (by decide) _, Task.noConfusion⟩
  | pauses wait look htask hearly hturns =>
    exact absurd (hready wait look htask) (Nat.not_le_of_lt hearly)
  | joins wait look htask _ _ hnext hphase hlet =>
    rw [htask, hnext]
    exact ⟨by dsimp only; omega, Task.noConfusion⟩
  | findsBusy wait look htask hready hsender hturns =>
    rw [hgone] at hsender
    cases hsender
  | detaches wait htask hlate hnext hphase hlet =>
    rw [htask, hnext]
    exact ⟨by dsimp only; omega, Task.noConfusion⟩
  | looksAgain wait htask hearly hturns =>
    rw [htask, hturns.task]
    exact ⟨by dsimp only; omega, Task.noConfusion⟩
  | drains report payload rest htask hqueue hturns =>
    rw [htask, hturns.task, hqueue]
    exact ⟨by dsimp only; rw [List.length_cons]; omega, Task.noConfusion⟩
  | drained report htask hqueue hturns =>
    rw [htask, hturns.task]
    exact ⟨by dsimp only; omega, Task.noConfusion⟩
  | finishes report htask hnext hphase hsame houtcome => exact absurd htask (hruns report)

/-- Assumes: a run is going on and cancelled, and the listener has finished. The run yields an
outcome when the coordinator has acted often enough. -/
theorem Interplay.yields (hsane : state.Sane) (hlistener : state.listener = some listener)
    (hfinished : listener.isFinished = true) (hcancelled : state.handoff.cancelled = true)
    (hbusy : state.coordinator.task ≠ .idle) {moves : List Move}
    (hmany : state.coordinator.rank state.handoff ≤
      (Interplay.gather settings Interplay.wakings state moves).length) :
    Interplay.gather settings (Interplay.yielded settings) state moves ≠ [] := by
  induction moves generalizing state with
  | nil => exact absurd hmany (Nat.not_le_of_lt (Coordinator.rank_pos hbusy _))
  | cons move rest ih =>
    have hsane' := hsane.step settings move
    have hlistener' := Interplay.step_finished settings hsane hlistener hfinished move
    have hcancelled' := Interplay.step_cancelled hcancelled settings move
    unfold Interplay.gather at hmany ⊢
    rw [List.length_append] at hmany
    refine fun hnone ↦ absurd (List.append_eq_nil_iff.mp hnone).2 ?_
    by_cases hmove : ∀ now, move ≠ .coordinator now
    · have hsame := Interplay.coordinator_step settings hmove hbusy
      have hqueue := Interplay.queue_finished settings hlistener hfinished hmove
      have hrank : (state.step settings move).coordinator.rank
          (state.step settings move).handoff = state.coordinator.rank state.handoff := by
        unfold Coordinator.rank
        rw [hsame, hqueue]
      rw [Interplay.wakings_elsewhere hmove, List.length_nil, Nat.zero_add] at hmany
      exact ih hsane' hlistener' hcancelled' (hsame ▸ hbusy) (hrank.trans_le hmany)
    · obtain ⟨now, rfl⟩ : ∃ now, move = .coordinator now := by
        simpa using hmove
      by_cases hruns : ∀ report, state.coordinator.task ≠ .finishing report
      · by_cases hasleep : ∃ wait look, state.coordinator.task = .joining wait look ∧ now < look
        · obtain ⟨wait, look, htask, hearly⟩ := hasleep
          have hsame : state.step settings (.coordinator now) = state := by
            rw [Interplay.step_act, Coordinator.act_asleep htask hearly]
          rw [Interplay.wakings_of_asleep htask hearly, List.length_nil, Nat.zero_add] at hmany
          rw [hsame] at hmany ⊢
          exact ih hsane hlistener hcancelled hbusy hmany
        · have hready : ∀ wait look, state.coordinator.task = .joining wait look → look ≤ now :=
            fun wait look htask ↦ Nat.le_of_not_lt fun hearly ↦ hasleep ⟨wait, look, htask, hearly⟩
          have hgone : senderGone state.listener = true := by
            rw [hlistener]
            exact hfinished
          obtain ⟨hrank, hbusy'⟩ :=
            (Coordinator.act_transition settings state.coordinator state.handoff state.listener
              now).rank_lt hgone hcancelled hbusy hruns hready
          have hone := state.length_wakings_le (.coordinator now)
          refine ih hsane' hlistener' hcancelled' hbusy' (Nat.le_of_lt_succ ?_)
          calc (state.step settings (.coordinator now)).coordinator.rank
                (state.step settings (.coordinator now)).handoff
              < state.coordinator.rank state.handoff := hrank
            _ ≤ _ := hmany
            _ ≤ _ := by rw [Nat.succ_eq_one_add]; exact Nat.add_le_add_right hone _
      · obtain ⟨report, hfinishing⟩ : ∃ report, state.coordinator.task = .finishing report := by
          simpa using hruns
        rw [Interplay.yielded_of_finishing hfinishing] at hnone
        cases hnone

end Ending

/-! ### The outcome -/

theorem Outcome.ofExit_connectFailed (exit : ListenerExit) (address broker : Broker.Address)
    (error : FeedError) :
    Outcome.ofExit (some exit) address = .connectFailed broker error ↔
      broker = address ∧ exit = .connectFailed error := by
  cases exit <;> simp [Outcome.ofExit, eq_comm]

theorem Outcome.ofExit_connectionLost (exit : ListenerExit) (address broker : Broker.Address)
    (error : FeedError) :
    Outcome.ofExit (some exit) address = .connectionLost broker error ↔
      broker = address ∧ exit = .connectionLost error := by
  cases exit <;> simp [Outcome.ofExit, eq_comm]

theorem Outcome.ofExit_interrupted {exit : ListenerExit} {address : Broker.Address}
    (h : Outcome.ofExit (some exit) address = .interrupted) :
    exit = .cancelled ∨ exit = .channelClosed := by
  cases exit with
  | cancelled => exact Or.inl rfl
  | channelClosed => exact Or.inr rfl
  | connectFailed error => cases h
  | connectionLost error => cases h

theorem Outcome.exitCode_of_ne {outcome : Outcome} (h : outcome ≠ .interrupted) :
    outcome.exitCode = 1 := by
  cases outcome with
  | interrupted => exact absurd rfl h
  | _ => rfl

/-- A listener that leaves because the run was cancelled was cancelled by somebody else. -/
theorem Interplay.Explained.outside_of_cancelled {limit : Nat} {outside : Prop} {state : Interplay}
    {connections : List (Except FeedError Unit)} {results : List PollResult}
    (h : state.Explained limit outside connections results) {listener : Listener}
    (hlistener : state.listener = some listener) (hclosing : listener.stage = .closing .cancelled) :
    outside := by
  have hraised := h.raised listener hlistener
  unfold Listener.LeavesRaised at hraised
  rw [hclosing] at hraised
  have hcancelled : state.handoff.cancelled = true := hraised ListenerExit.noConfusion
  rcases h.blames.cause listener hlistener (Or.inl hcancelled) with
    houtside | hfinished | ⟨exit, hleaving, hexit⟩
  · exact houtside
  · unfold Listener.isFinished at hfinished
    rw [hclosing] at hfinished
    cases hfinished
  · rw [Listener.leaving_of_closing hclosing] at hleaving
    exact absurd (Option.some.inj hleaving).symm hexit

/-- Assumes: the failures that the policy tolerates can be counted. The listener returns as
cancelled only where somebody else has cancelled the run before. -/
theorem Interplay.Returns.cancelled {settings : Settings} {outlet : Display.Outlet}
    {surface : Option Bool} {before : List Move} {now : Instant} {reply : Reply}
    (hattempts : settings.listener.reconnect.maxAttempts < failureLimit)
    (h : (Interplay.new (.fresh outlet settings surface)).Returns settings before
      (.listener now reply) .cancelled) : Move.cancel ∈ before := by
  obtain ⟨worker, hworker, hworking⟩ := h.working
  obtain ⟨last, hlast, hended⟩ := h.ended
  have hexplained := (Interplay.explained_new outlet settings surface
    settings.listener.reconnect.maxAttempts (Move.cancel ∈ before)).after hattempts before id
  rw [Interplay.after_append] at hlast
  rcases Interplay.step_listener settings _ now reply with ⟨other, hother, hstep⟩ | ⟨hnone, -⟩
  · obtain rfl : worker = other := Option.some.inj (hworker.symm.trans hother)
    have hnext : last = (worker.act settings.listener _ now reply).1 :=
      Option.some.inj (hlast.symm.trans (congrArg Interplay.listener hstep))
    rw [hnext] at hended
    rcases (Listener.act_transition settings.listener _ now worker reply).ended hended with
      hfinished | hclosing | ⟨error, herror⟩
    · rw [hworking] at hfinished
      cases hfinished
    · exact hexplained.outside_of_cancelled hworker hclosing
    · cases herror
  · rw [hnone] at hworker
    cases hworker

/-- A run that begins, or is going on, is going on after that. -/
theorem Interplay.step_run_busy (settings : Settings) (state : Interplay) :
    (state.step settings .run).coordinator.task ≠ .idle := by
  by_cases hidle : state.coordinator.task = .idle
  · rw [Interplay.step_run_of_idle settings hidle]
    exact state.coordinator.task_beginRun_ne
  · rw [Interplay.step_run_of_busy settings hidle]
    exact hidle

/-- Assumes: the failures that the policy tolerates can be counted, and the coordinator looks at the
listener and at the clock only while there is time left, up to the return of the listener.

If the coordinator does not miss that return, the first outcome that is yielded after it names the
real cause. If it does, the outcome is an interruption, whatever the cause was. And so is the
outcome of every further run. A run yields its outcome when the coordinator has acted often enough
while it does not sleep. -/
theorem Interplay.reported_outcome (settings : Settings)
    (hattempts : settings.listener.reconnect.maxAttempts < failureLimit)
    (outlet : Display.Outlet) (surface : Option Bool) (before : List Move) (now : Instant)
    (reply : Reply) (exit : ListenerExit) :
    let initial := Interplay.new (.fresh outlet settings surface)
    let returned := initial.after settings (before ++ [.listener now reply])
    initial.Returns settings before (.listener now reply) exit →
    initial.InTime settings before →
    (∀ after outcome later,
      Interplay.gather settings (Interplay.yielded settings) returned after = outcome :: later →
      let run := before ++ .listener now reply :: after
      let connections := Interplay.gather settings Interplay.connections initial run
      let results := Interplay.gather settings Interplay.returned initial run
      (¬ returned.Misses after →
        -- a failed connection
        (∀ broker error, outcome = .connectFailed broker error ↔
          broker = settings.broker ∧ .error error ∈ connections) ∧
        -- one failed poll too many
        (∀ broker error, outcome = .connectionLost broker error ↔
          broker = settings.broker ∧ ∃ earlier later, results = earlier ++ .error error :: later ∧
            settings.listener.reconnect.maxAttempts <
              failureStreak (earlier ++ [.error error])) ∧
        -- a cancellation by somebody else
        (outcome = .interrupted → Move.cancel ∈ before)) ∧
      (returned.Misses after → outcome = .interrupted) ∧
      (∀ other ∈ later, other = .interrupted) ∧
      (outcome = .interrupted → outcome.exitCode = 0) ∧
      (outcome ≠ .interrupted → outcome.exitCode = 1)) ∧
    ∀ after,
      returned.handoff.queue.length + 8 ≤
        (Interplay.gather settings Interplay.wakings returned (.run :: after)).length →
      Interplay.gather settings (Interplay.yielded settings) returned (.run :: after) ≠ [] := by
  intro initial returned hreturns hintime
  obtain ⟨last, hlast, hended⟩ := hreturns.ended
  have hfinished := Listener.isFinished_of_ended hended
  have hexplained := (Interplay.explained_new outlet settings surface
    settings.listener.reconnect.maxAttempts True).after hattempts (before ++ [.listener now reply])
    fun _ ↦ trivial
  have horderly : returned.Orderly := hexplained.orderly
  have hholds : returned.coordinator.holdsListener = true := hreturns.holds hintime
  have hserved : exit ≠ .channelClosed := by
    rintro rfl
    exact hexplained.served last hlast (Listener.leaving_of_ended hended)
  refine ⟨?_, ?_⟩
  · intro after outcome later hyields run connections results
    have hcode : (outcome = .interrupted → outcome.exitCode = 0) ∧
        (outcome ≠ .interrupted → outcome.exitCode = 1) :=
      ⟨fun hinterrupted ↦ by rw [hinterrupted]; rfl, Outcome.exitCode_of_ne⟩
    by_cases hmisses : returned.Misses after
    · have hall : ∀ other ∈ outcome :: later, other = .interrupted := by
        rw [← hyields]
        exact Interplay.interrupted_of_misses horderly.sane hlast hfinished hmisses
      exact ⟨fun hfinds ↦ absurd hmisses hfinds, fun _ ↦ hall outcome (List.mem_cons_self ..),
        fun other hother ↦ hall other (List.mem_cons_of_mem _ hother), hcode⟩
    · have hearly : ∀ wait, returned.coordinator.task = .timing wait →
          ∀ look ∈ (Move.looks after).head?, look < wait.deadline :=
        fun wait htask look hlook ↦
          Nat.lt_of_not_le fun hlate ↦ hmisses ⟨wait, htask, look, hlook, hlate⟩
      obtain ⟨rfl, hlater⟩ := Interplay.yields_report horderly hlast hended
        (horderly.coherent.reports hholds _ hearly) hyields
      refine ⟨fun _ ↦ ?_, fun hmissed ↦ absurd hmissed hmisses, hlater, hcode⟩
      have hrun : run = (before ++ [.listener now reply]) ++ after := by
        rw [List.append_assoc]
        rfl
      have hconnections := Interplay.gather_finished settings
        (fun _ ↦ Interplay.connections_finished hfinished) horderly.sane hlast hfinished after
      have hresults := Interplay.gather_finished settings
        (fun _ ↦ Interplay.returned_finished hfinished) horderly.sane hlast hfinished after
      have hfollows : exit.Follows settings.listener.reconnect.maxAttempts connections results := by
        change exit.Follows _ (Interplay.gather settings Interplay.connections initial run)
          (Interplay.gather settings Interplay.returned initial run)
        rw [hrun, initial.gather_append settings Interplay.connections (before ++ [_]),
          initial.gather_append settings Interplay.returned (before ++ [_]), hconnections,
          hresults, List.append_nil, List.append_nil]
        exact hexplained.recounts.follows hlast hended
      refine ⟨?_, ?_, ?_⟩
      · intro broker error
        rw [Outcome.ofExit_connectFailed, hfollows.connectFailed_iff]
      · intro broker error
        rw [Outcome.ofExit_connectionLost, hfollows.connectionLost_iff]
      · intro hinterrupted
        rcases Outcome.ofExit_interrupted hinterrupted with rfl | rfl
        · exact hreturns.cancelled hattempts
        · exact absurd rfl hserved
  · intro after hmany
    have hcancelled : returned.handoff.cancelled = true := by
      have hraised := hexplained.raised last hlast
      unfold Listener.LeavesRaised at hraised
      rw [hended] at hraised
      exact hraised hserved
    have hqueue : (returned.step settings .run).handoff.queue = returned.handoff.queue :=
      Interplay.queue_finished settings hlast hfinished fun _ ↦ Move.noConfusion
    refine Interplay.yields (horderly.sane.step settings .run)
      (Interplay.step_finished settings horderly.sane hlast hfinished .run) hfinished
      (Interplay.step_cancelled hcancelled settings .run) (returned.step_run_busy settings) ?_
    refine (Coordinator.rank_le _ _).trans ?_
    rw [hqueue]
    exact hmany

/-! ### A failure during a cancellation -/

/-- Settings that tolerate no failure. -/
def Settings.impatient : Settings :=
  { Settings.standard with listener := { ListenerSettings.standard with reconnect := .disabled } }

/-- Moves of a run that is cancelled during a poll, which fails while the coordinator waits for the
listener already. -/
def Move.failingPoll : List Move :=
  [.start (.ok ()) 0, .run, .listener 0 (.connected (.ok ())), .listener 0 .nothing, .cancel,
    .coordinator 0, .coordinator 0, .coordinator 0,
    .listener 0 (.polled (.returns (.error (.disconnected "reset")))), .listener 0 .nothing]

/-- The coordinator looks at the clock and then acts until its run has ended, and in another one
after that. -/
def Move.twoRuns : List Move :=
  .coordinator oneSecond :: List.replicate 7 (.coordinator (oneSecond + joinStep)) ++
    .run :: List.replicate 3 (.coordinator (oneSecond + joinStep))

/-- The failure is reported, although somebody had cancelled the run before. A second run has
nothing to report. -/
theorem Interplay.reported_outcome_failingPoll :
    let initial := Interplay.new (.fresh .unlimited Settings.impatient none)
    let returned := initial.after Settings.impatient
      (Move.failingPoll ++ [.listener 0 .nothing])
    Move.cancel ∈ Move.failingPoll ∧
      initial.Returns Settings.impatient Move.failingPoll (.listener 0 .nothing)
        (.connectionLost (.disconnected "reset")) ∧
      initial.InTime Settings.impatient Move.failingPoll ∧
      ∃ outcome later,
        Interplay.gather Settings.impatient (Interplay.yielded Settings.impatient) returned
          (.run :: Move.twoRuns) = outcome :: later ∧
        outcome = .connectionLost .standard (.disconnected "reset") ∧ outcome.exitCode = 1 ∧
        later = [.interrupted] := by
  intro initial returned
  have hreturns : initial.Returns Settings.impatient Move.failingPoll (.listener 0 .nothing)
      (.connectionLost (.disconnected "reset")) :=
    ⟨⟨_, rfl, rfl⟩, ⟨_, rfl, rfl⟩⟩
  have hintime : initial.InTime Settings.impatient Move.failingPoll := by
    unfold Interplay.InTime
    decide +kernel
  obtain ⟨hnames, hyields⟩ := Interplay.reported_outcome Settings.impatient (by decide) .unlimited
    none Move.failingPoll 0 .nothing _ hreturns hintime
  have hmany : returned.handoff.queue.length + 8 ≤
      (Interplay.gather Settings.impatient Interplay.wakings returned
        (.run :: Move.twoRuns)).length := by decide +kernel
  obtain ⟨outcome, later, houtcomes⟩ := List.exists_cons_of_ne_nil (hyields Move.twoRuns hmany)
  have hfinds : ¬ returned.Misses (.run :: Move.twoRuns) := by
    rintro ⟨wait, htask, look, hlook, hlate⟩
    cases htask
    obtain rfl : oneSecond = look := Option.some.inj hlook
    exact absurd hlate (by decide)
  obtain ⟨hcause, -, hlater, -, hcode⟩ := hnames _ outcome later houtcomes
  obtain ⟨-, hlost, -⟩ := hcause hfinds
  have hfailed : outcome = .connectionLost .standard (.disconnected "reset") :=
    (hlost _ _).mpr ⟨rfl, [], [], rfl, by decide⟩
  have hsecond : later.length = 1 := by
    have htwo : (Interplay.gather Settings.impatient (Interplay.yielded Settings.impatient)
        returned (.run :: Move.twoRuns)).length = 2 := by decide +kernel
    rw [houtcomes] at htwo
    exact Nat.succ.inj htwo
  obtain ⟨second, rfl⟩ := List.length_eq_one_iff.mp hsecond
  refine ⟨by simp [Move.failingPoll], hreturns, hintime, outcome, [second], houtcomes, hfailed,
    hcode (by rw [hfailed]; exact Outcome.noConfusion), ?_⟩
  rw [hlater second (List.mem_singleton_self _)]

/-! ### A return that is missed -/

/-- Moves of a run whose connection is lost. The listener raises the flag and closes its source,
which takes nearly as long as the coordinator waits: it looks at the listener a millisecond and a
half before the time is up. -/
def Move.slowClosing : List Move :=
  [.start (.ok ()) 0, .run, .listener 0 (.connected (.ok ())), .listener 0 .nothing,
    .listener 0 (.polled (.returns (.error (.disconnected "reset")))), .listener 0 .nothing,
    .coordinator 0, .coordinator 0, .coordinator 0, .coordinator 0,
    .coordinator (milliseconds 1998)]

/-- The coordinator looks at the clock when the time is up, and ends its run. -/
def Move.lateLook : List Move := List.replicate 3 (.coordinator (2 * oneSecond))

/-- The listener reports a lost connection before the time is up, and nobody else has cancelled the
run. It is an interruption for all that. -/
theorem Interplay.missed_return :
    let initial := Interplay.new (.fresh .unlimited Settings.impatient none)
    let last := Move.listener (milliseconds 1999) .nothing
    let returned := initial.after Settings.impatient (Move.slowClosing ++ [last])
    (Move.cancel ∉ Move.slowClosing ∧
      milliseconds 1999 < Settings.impatient.joinTimeout ∧
      initial.Returns Settings.impatient Move.slowClosing last
        (.connectionLost (.disconnected "reset")) ∧
      initial.InTime Settings.impatient Move.slowClosing) ∧
    Interplay.gather Settings.impatient (Interplay.yielded Settings.impatient) returned
      Move.lateLook = [.interrupted] ∧ Outcome.interrupted.exitCode = 0 := by
  intro initial last returned
  refine ⟨⟨by simp [Move.slowClosing], by decide, ⟨⟨_, rfl, rfl⟩, ⟨_, rfl, rfl⟩⟩, ?_⟩, ?_, rfl⟩
  · unfold Interplay.InTime
    decide +kernel
  · decide +kernel

end LiveBoard.Viewer
