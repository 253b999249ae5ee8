import LiveBoard.Feed.Worker
import Mathlib.Algebra.Order.Floor.Div

/-!
# The wait between two tries

A wait looks at the flag and the clock, and where neither decides it sleeps until the next look
(`BackoffWait.run?`). Every sleep but the last one takes a whole step, and the last one takes the
rest of the time, so a wait whose clock lets the time of each sleep pass (`BackoffWait.Passes`) has
no more sleeps than there are steps in its length, a part of a step counted as one
(`BackoffWait.Sleeps.length_le`). This holds of the shortest steps, too: none is below a
millisecond.

`BackoffWait.ends_in_time` collects what a wait comes to. It ends, with that many sleeps, each of
them of some length and none longer than a step; it lasts to its time or a look saw the flag, and a
worker whose listener waits sleeps just so, and goes on accordingly.
-/

set_option autoImplicit false
set_option relaxedAutoImplicit false

namespace LiveBoard.Feed

/-- What is seen when a worker takes a step. -/
structure Sight where
  /-- The queue and the flag. -/
  handoff : Handoff
  /-- The time. -/
  now : Instant

/-! ### Looks -/

/-- What a look decides at a sight. -/
def BackoffWait.verdict (wait : BackoffWait) (sight : Sight) : WaitVerdict :=
  wait.look sight.handoff.cancelled sight.now

/-- The sleeps of a wait, and whether it lasted to its time, none where it goes on after these
sights. -/
def BackoffWait.run? (wait : BackoffWait) : List Sight → Option (List Duration × Bool)
  | [] => none
  | sight :: rest =>
    match wait.verdict sight with
    | .cancelled => some ([], false)
    | .over => some ([], true)
    | .sleep time => (wait.run? rest).map fun (sleeps, lasted) ↦ (time :: sleeps, lasted)

/-- From an instant on the clock does not run backwards, and it lets the time of every sleep
pass. -/
def BackoffWait.Passes (wait : BackoffWait) (earliest : Instant) : List Sight → Prop
  | [] => True
  | sight :: rest =>
    earliest ≤ sight.now ∧
      ∀ time, wait.verdict sight = .sleep time → wait.Passes (sight.now + time) rest

/-- The looks at sights lead to sleeps. -/
def BackoffWait.Sleeps (wait : BackoffWait) (sights : List Sight) (sleeps : List Duration) : Prop :=
  List.Forall₂ (fun sight time ↦ wait.verdict sight = .sleep time) sights sleeps

/-- What the last look of a wait decides, by whether the wait lasted to its time. -/
def WaitVerdict.ofLasted (lasted : Bool) : WaitVerdict := if lasted then .over else .cancelled

section Looks

variable {wait : BackoffWait} {sight : Sight} {sights : List Sight} {sleeps : List Duration}

/-- The flag decides before the clock is read. -/
@[grind =]
theorem BackoffWait.verdict_eq_cancelled_iff :
    wait.verdict sight = .cancelled ↔ sight.handoff.cancelled = true := by
  unfold BackoffWait.verdict BackoffWait.look
  split_ifs with hflag <;> simp [hflag]

@[grind =]
theorem BackoffWait.verdict_eq_over_iff :
    wait.verdict sight = .over ↔ sight.handoff.cancelled = false ∧ wait.deadline ≤ sight.now := by
  unfold BackoffWait.verdict BackoffWait.look
  cases sight.handoff.cancelled <;> by_cases hover : wait.deadline ≤ sight.now <;> simp [hover]

@[grind =]
theorem BackoffWait.verdict_eq_sleep_iff {time : Duration} :
    wait.verdict sight = .sleep time ↔
      sight.handoff.cancelled = false ∧ sight.now < wait.deadline ∧
        time = min (wait.deadline - sight.now) wait.step := by
  unfold BackoffWait.verdict BackoffWait.look
  rw [← Nat.not_le]
  cases sight.handoff.cancelled <;> by_cases hover : wait.deadline ≤ sight.now <;>
    simp [hover, eq_comm]

/-- A verdict ends the wait one way or the other, or it is a sleep. -/
theorem WaitVerdict.exists_ofLasted_or_sleep (verdict : WaitVerdict) :
    (∃ lasted, verdict = .ofLasted lasted) ∨ ∃ time, verdict = .sleep time :=
  match verdict with
  | .cancelled => .inl ⟨false, rfl⟩
  | .over => .inl ⟨true, rfl⟩
  | .sleep time => .inr ⟨time, rfl⟩

theorem BackoffWait.run?_cons_of_lasted {lasted : Bool}
    (h : wait.verdict sight = .ofLasted lasted) :
    wait.run? (sight :: sights) = some ([], lasted) := by
  rw [BackoffWait.run?, h]
  cases lasted <;> rfl

theorem BackoffWait.run?_cons_of_sleep {time : Duration} (h : wait.verdict sight = .sleep time) :
    wait.run? (sight :: sights) =
      (wait.run? sights).map fun (sleeps, lasted) ↦ (time :: sleeps, lasted) := by
  rw [BackoffWait.run?, h]

/-- A wait that has ended slept after every look but the last one. -/
theorem BackoffWait.exists_of_run? {lasted : Bool} (h : wait.run? sights = some (sleeps, lasted)) :
    ∃ before last after, sights = before ++ last :: after ∧ wait.Sleeps before sleeps ∧
      wait.verdict last = .ofLasted lasted := by
  induction sights generalizing sleeps with
  | nil => cases h
  | cons sight rest ih =>
    obtain ⟨ended, hended⟩ | ⟨time, hsleep⟩ := (wait.verdict sight).exists_ofLasted_or_sleep
    · rw [BackoffWait.run?_cons_of_lasted hended] at h
      cases h
      exact ⟨[], sight, rest, rfl, .nil, hended⟩
    · rw [BackoffWait.run?_cons_of_sleep hsleep] at h
      obtain ⟨⟨more, _⟩, hrest, hpair⟩ := Option.map_eq_some_iff.mp h
      cases hpair
      obtain ⟨before, last, after, rfl, hsleeps, hlast⟩ := ih hrest
      exact ⟨sight :: before, last, after, rfl, .cons hsleep hsleeps, hlast⟩

/-- A wait that goes on slept after every look. -/
theorem BackoffWait.exists_of_run?_eq_none (h : wait.run? sights = none) :
    ∃ sleeps, wait.Sleeps sights sleeps := by
  induction sights with
  | nil => exact ⟨[], .nil⟩
  | cons sight rest ih =>
    obtain ⟨ended, hended⟩ | ⟨time, hsleep⟩ := (wait.verdict sight).exists_ofLasted_or_sleep
    · rw [BackoffWait.run?_cons_of_lasted hended] at h
      cases h
    · rw [BackoffWait.run?_cons_of_sleep hsleep] at h
      obtain ⟨sleeps, hsleeps⟩ := ih (Option.map_eq_none_iff.mp h)
      exact ⟨time :: sleeps, .cons hsleep hsleeps⟩

end Looks

/-! ### The number of sleeps -/

section Number

variable {wait : BackoffWait} {sights : List Sight} {sleeps : List Duration}

/-- A sleep takes one of the steps that are left: a whole one, or what is left of the last one. -/
theorem succ_ceilDiv_le {left step : Nat} (hstep : 0 < step) (hleft : 0 < left) :
    (left - min left step) ⌈/⌉ step + 1 ≤ left ⌈/⌉ step := by
  have hcovers : left ≤ step * (left ⌈/⌉ step) := le_smul_ceilDiv hstep
  obtain ⟨others, hothers⟩ : ∃ others, left ⌈/⌉ step = others + 1 := by
    refine Nat.exists_eq_succ_of_ne_zero fun hnone ↦ ?_
    rw [hnone, Nat.mul_zero] at hcovers
    exact Nat.not_lt_of_le hcovers hleft
  rw [hothers, Nat.mul_succ] at hcovers
  rw [hothers, Nat.succ_le_succ_iff, ceilDiv_le_iff_le_mul hstep]
  omega

/-- Sleeps follow the looks that do not see the flag. -/
theorem BackoffWait.Sleeps.clear (h : wait.Sleeps sights sleeps) :
    ∀ sight ∈ sights, sight.handoff.cancelled = false := by
  induction h with
  | nil => exact nofun
  | cons hverdict _ ih => grind

/-- A sleep takes some time and at most a step. -/
theorem BackoffWait.Sleeps.time_bounds (h : wait.Sleeps sights sleeps) (hstep : 0 < wait.step) :
    ∀ time ∈ sleeps, 0 < time ∧ time ≤ wait.step := by
  induction h with
  | nil => exact nofun
  | cons hverdict _ ih =>
    obtain ⟨-, hearly, rfl⟩ := BackoffWait.verdict_eq_sleep_iff.mp hverdict
    refine List.forall_mem_cons.mpr ⟨⟨?_, Nat.min_le_right _ _⟩, ih⟩
    exact Nat.lt_min.mpr ⟨Nat.sub_pos_of_lt hearly, hstep⟩

/-- Assumes: a clock that lets the time of every sleep pass, from an instant on. There are no more
sleeps than steps in the time that is left then. -/
theorem BackoffWait.Sleeps.length_le {earliest : Instant} (h : wait.Sleeps sights sleeps)
    (hstep : 0 < wait.step) {rest : List Sight} (hpasses : wait.Passes earliest (sights ++ rest)) :
    sleeps.length ≤ (wait.deadline - earliest) ⌈/⌉ wait.step := by
  induction h generalizing earliest with
  | nil => exact Nat.zero_le _
  | @cons sight time sights sleeps hverdict _ ih =>
    obtain ⟨hearliest, hlater⟩ := hpasses
    obtain ⟨-, hearly, rfl⟩ := BackoffWait.verdict_eq_sleep_iff.mp hverdict
    calc sleeps.length + 1
        ≤ (wait.deadline - (sight.now + min (wait.deadline - sight.now) wait.step)) ⌈/⌉ wait.step
            + 1 := Nat.succ_le_succ (ih (hlater _ hverdict))
      _ = (wait.deadline - sight.now - min (wait.deadline - sight.now) wait.step) ⌈/⌉ wait.step
            + 1 := by rw [Nat.sub_sub]
      _ ≤ (wait.deadline - sight.now) ⌈/⌉ wait.step :=
          succ_ceilDiv_le hstep (Nat.sub_pos_of_lt hearly)
      _ ≤ (wait.deadline - earliest) ⌈/⌉ wait.step :=
          (gc_smul_ceilDiv hstep).monotone_l (Nat.sub_le_sub_left hearliest _)

/-- Assumes: a clock that lets the time of every sleep pass, and more sights than there are steps
in the time that is left. The wait ends within them. -/
theorem BackoffWait.exists_run? {earliest : Instant} (hstep : 0 < wait.step)
    (hpasses : wait.Passes earliest sights)
    (hmany : (wait.deadline - earliest) ⌈/⌉ wait.step < sights.length) :
    ∃ sleeps lasted, wait.run? sights = some (sleeps, lasted) := by
  cases hrun : wait.run? sights with
  | some outcome => exact ⟨outcome.1, outcome.2, rfl⟩
  | none =>
    obtain ⟨sleeps, hsleeps⟩ := BackoffWait.exists_of_run?_eq_none hrun
    have hall : wait.Passes earliest (sights ++ []) := by rwa [List.append_nil]
    have hbound := hsleeps.length_le hstep hall
    rw [← hsleeps.length_eq] at hbound
    exact absurd hmany (Nat.not_lt_of_le hbound)

end Number

/-! ### Workers that wait -/

section Workers

variable {σ : Type} (kind : Source σ) (settings : ListenerSettings)

/-- The worker after its steps at sights. -/
def Worker.watch (worker : Worker σ) (sights : List Sight) : Worker σ :=
  sights.foldl (fun worker sight ↦ (worker.step kind settings sight.handoff sight.now).1) worker

/-- The times from the steps of a worker at sights until it is ready for the next ones. -/
def Worker.pauses (worker : Worker σ) : List Sight → List Duration
  | [] => []
  | sight :: rest =>
    let next := (worker.step kind settings sight.handoff sight.now).1
    (next.ready - sight.now) :: next.pauses rest

variable {wait : BackoffWait} {worker : Worker σ} {sight : Sight}

/-- The listener of a worker waits, and the worker awaits no reply. -/
structure Worker.Waits (worker : Worker σ) (wait : BackoffWait) : Prop where
  stage : worker.listener.stage = .waiting wait
  reply : worker.reply = none

theorem Worker.Waits.step (h : worker.Waits wait) (handoff : Handoff) (now : Instant) :
    worker.step kind settings handoff now =
      worker.perform settings handoff now .nothing := by
  unfold Worker.step Worker.ask
  rw [h.reply, h.stage]
  rfl

/-- A worker whose wait goes on is the same, and ready after the sleep. -/
theorem Worker.Waits.step_of_sleep (h : worker.Waits wait) {time : Duration}
    (hverdict : wait.verdict sight = .sleep time) :
    let next := (worker.step kind settings sight.handoff sight.now).1
    next.listener = worker.listener ∧ next.reply = none ∧ next.ready = sight.now + time := by
  have hlook : wait.look sight.handoff.cancelled sight.now = .sleep time := hverdict
  rw [h.step]
  unfold Worker.perform Listener.act sleepOf
  dsimp only
  rw [h.stage]
  dsimp only
  rw [hlook]
  exact ⟨rfl, rfl, rfl⟩

/-- A wait that is over leads to the next try, and a cancellation to the end. -/
theorem Worker.Waits.step_of_lasted (h : worker.Waits wait) {lasted : Bool}
    (hverdict : wait.verdict sight = .ofLasted lasted) :
    (worker.step kind settings sight.handoff sight.now).1.listener =
      { worker.listener with stage := if lasted then .checking else .closing .cancelled } := by
  have hlook : wait.look sight.handoff.cancelled sight.now = .ofLasted lasted := hverdict
  rw [h.step]
  unfold Worker.perform Listener.act
  dsimp only
  rw [h.stage]
  dsimp only
  rw [hlook]
  cases lasted <;> rfl

/-- While its wait goes on a worker sleeps after every look, and nothing else happens to its
listener. -/
theorem Worker.Waits.watch (h : worker.Waits wait) {sights : List Sight} {sleeps : List Duration}
    (hsleeps : wait.Sleeps sights sleeps) :
    (worker.watch kind settings sights).Waits wait ∧
      (worker.watch kind settings sights).listener = worker.listener ∧
      worker.pauses kind settings sights = sleeps := by
  induction hsleeps generalizing worker with
  | nil => exact ⟨h, rfl, rfl⟩
  | @cons sight time sights sleeps hverdict _ ih =>
    obtain ⟨hlistener, hreply, hready⟩ := h.step_of_sleep kind settings hverdict
    have hnext : (worker.step kind settings sight.handoff sight.now).1.Waits wait :=
      ⟨hlistener ▸ h.stage, hreply⟩
    obtain ⟨hwaits, hsame, hpauses⟩ := ih hnext
    refine ⟨hwaits, hsame.trans hlistener, ?_⟩
    rw [Worker.pauses, hpauses, hready, Nat.add_sub_cancel_left]

end Workers

/-! ### What a wait comes to -/

/-- Assumes: a clock that lets the time of every sleep pass from the start of the wait on, and more
sights than there are steps in its length, a part of a step counted as one.

The wait ends, whatever its length and its steps and whenever the run is cancelled. Before the look
that ends it, each look is followed by a sleep of some length and at most a step. -/
theorem BackoffWait.ends_in_time (now : Instant) (total step : Duration) (sights : List Sight)
    (hpasses : (BackoffWait.start now total step).Passes now sights)
    (hmany : total ⌈/⌉ max step oneMillisecond < sights.length) :
    let wait := BackoffWait.start now total step
    ∃ before last after sleeps lasted, sights = before ++ last :: after ∧
      wait.run? sights = some (sleeps, lasted) ∧
      -- the looks before the last one are those that sleeps follow, and they are not many
      sleeps.length = before.length ∧ sleeps.length ≤ total ⌈/⌉ max step oneMillisecond ∧
      (∀ time ∈ sleeps, 0 < time ∧ time ≤ max step oneMillisecond) ∧
      -- the wait lasts to its time, or one of its looks saw the flag
      (lasted = true → now + total ≤ last.now) ∧
      (lasted = false ↔ ∃ sight ∈ before ++ [last], sight.handoff.cancelled = true) ∧
      -- a worker whose listener waits sleeps just so, and goes on accordingly
      ∀ {σ : Type} (kind : Source σ) (settings : ListenerSettings) (worker : Worker σ),
        worker.Waits wait →
          (worker.watch kind settings before).listener = worker.listener ∧
            worker.pauses kind settings before = sleeps ∧
            (worker.watch kind settings (before ++ [last])).listener =
              { worker.listener with
                stage := if lasted then .checking else .closing .cancelled } := by
  intro wait
  have hstep : 0 < wait.step := Nat.lt_of_lt_of_le (by decide) (Nat.le_max_right _ _)
  have hlength : wait.deadline - now = total := Nat.add_sub_cancel_left _ _
  obtain ⟨sleeps, lasted, hrun⟩ := BackoffWait.exists_run? hstep hpasses (by rwa [hlength])
  obtain ⟨before, last, after, rfl, hsleeps, hlast⟩ := BackoffWait.exists_of_run? hrun
  refine ⟨before, last, after, sleeps, lasted, rfl, hrun, hsleeps.length_eq.symm, ?_,
    hsleeps.time_bounds hstep, ?_, ?_, ?_⟩
  · have hbound := hsleeps.length_le hstep hpasses
    rwa [hlength] at hbound
  · rintro rfl
    exact (BackoffWait.verdict_eq_over_iff.mp hlast).2
  · constructor
    · rintro rfl
      exact ⟨last, List.mem_append_right _ (List.mem_singleton_self _),
        BackoffWait.verdict_eq_cancelled_iff.mp hlast⟩
    · rintro ⟨sight, hsight, hseen⟩
      rcases List.mem_append.mp hsight with hbefore | hend
      · rw [hsleeps.clear sight hbefore] at hseen
        cases hseen
      · rw [List.mem_singleton.mp hend, ← BackoffWait.verdict_eq_cancelled_iff, hlast] at hseen
        cases lasted with
        | false => rfl
        | true => cases hseen
  · intro σ kind settings worker hwaits
    obtain ⟨hstill, hsame, hpauses⟩ := hwaits.watch kind settings hsleeps
    refine ⟨hsame, hpauses, ?_⟩
    have hend := hstill.step_of_lasted kind settings hlast
    rw [hsame] at hend
    rw [Worker.watch, List.foldl_append]
    exact hend

/-- Looks at a flag that nobody sets, the third of them late. -/
def Sight.lateLook : List Sight :=
  [⟨.new, 0⟩, ⟨.new, 1000000⟩, ⟨.new, 2100000⟩, ⟨.new, 2500000⟩]

theorem BackoffWait.passes_lateLook : (BackoffWait.start 0 2500000 0).Passes 0 Sight.lateLook := by
  refine ⟨by decide, fun time hfirst ↦ ?_⟩
  obtain ⟨-, -, rfl⟩ := BackoffWait.verdict_eq_sleep_iff.mp hfirst
  refine ⟨by decide, fun time hsecond ↦ ?_⟩
  obtain ⟨-, -, rfl⟩ := BackoffWait.verdict_eq_sleep_iff.mp hsecond
  refine ⟨by decide, fun time hthird ↦ ?_⟩
  obtain ⟨-, -, rfl⟩ := BackoffWait.verdict_eq_sleep_iff.mp hthird
  exact ⟨by decide, fun _ _ ↦ trivial⟩

/-- A wait of two milliseconds and a half with steps of no length sleeps for a millisecond, for
another one, and for what is left after the late look. -/
theorem BackoffWait.ends_in_time_lateLook :
    (BackoffWait.start 0 2500000 0).Passes 0 Sight.lateLook ∧
      2500000 ⌈/⌉ max 0 oneMillisecond < Sight.lateLook.length ∧
      (BackoffWait.start 0 2500000 0).run? Sight.lateLook =
        some ([1000000, 1000000, 400000], true) ∧
      [1000000, 1000000, 400000].length ≤ 2500000 ⌈/⌉ max 0 oneMillisecond ∧
      ∀ time ∈ [1000000, 1000000, 400000], 0 < time ∧ time ≤ max 0 oneMillisecond := by
  have hmany : 2500000 ⌈/⌉ max 0 oneMillisecond < Sight.lateLook.length := by decide
  have hcourse : (BackoffWait.start 0 2500000 0).run? Sight.lateLook =
      some ([1000000, 1000000, 400000], true) := by decide +kernel
  obtain ⟨-, -, -, sleeps, lasted, -, hrun, -, hfew, htimes, -⟩ :=
    BackoffWait.ends_in_time 0 2500000 0 Sight.lateLook BackoffWait.passes_lateLook hmany
  obtain ⟨rfl, rfl⟩ := Prod.mk.inj (Option.some.inj (hrun.symm.trans hcourse))
  exact ⟨BackoffWait.passes_lateLook, hmany, hcourse, hfew, htimes⟩

end LiveBoard.Feed
