import LiveBoard.Proofs.Feed.ListenerHistory
import LiveBoard.Proofs.Viewer.CoordinatorTransitions
import LiveBoard.Proofs.Viewer.Delivery

/-!
# The account of the listener

What the listener is at in an interplay tells what happened before. Its state recounts the replies
of the source (`Interplay.Recounts`), and where the run is cancelled it tells by whom: by somebody
else, or by the listener because it failed (`Interplay.Blames`). The coordinator raises the flag
only after one of these did, or after the listener has ended. Every move keeps this up, so it holds
in all reachable states (`Interplay.Explained`).
-/

set_option autoImplicit false
set_option relaxedAutoImplicit false

namespace LiveBoard.Viewer

open Feed

/-! ### The replies -/

/-- The results of connecting in a move. -/
def Interplay.connections (state : Interplay) : Move → List (Except FeedError Unit)
  | .listener _ reply =>
    match state.listener with
    | some listener => listener.connections reply
    | none => []
  | _ => []

/-- The listener, once it was started, recounts the replies of the source. -/
def Interplay.Recounts (limit : Nat) (state : Interplay)
    (connections : List (Except FeedError Unit)) (results : List PollResult) : Prop :=
  match state.listener with
  | some listener => listener.Recounts limit connections results
  | none => connections = [] ∧ results = []

section Replies

variable {settings : Settings} {state : Interplay} {connections : List (Except FeedError Unit)}
  {results : List PollResult}

/-- Where the listener has ended, the replies give the reason. -/
theorem Interplay.Recounts.follows {limit : Nat} (h : state.Recounts limit connections results)
    {listener : Listener} (hlistener : state.listener = some listener) {exit : ListenerExit}
    (hended : listener.stage = .ended exit) : exit.Follows limit connections results := by
  unfold Interplay.Recounts at h
  rw [hlistener] at h
  exact Listener.Recounts.follows h (Listener.leaving_of_ended hended)

/-- A move that asks the source nothing keeps the account, unless it starts the listener. -/
theorem Interplay.Recounts.of_listener {limit : Nat} {next : Interplay}
    (h : state.Recounts limit connections results) (hlistener : next.listener = state.listener) :
    next.Recounts limit (connections ++ []) (results ++ []) := by
  unfold Interplay.Recounts
  rw [List.append_nil, List.append_nil, hlistener]
  exact h

/-- Assumes: the failures that the policy tolerates can be counted. -/
theorem Interplay.Recounts.step
    (hattempts : settings.listener.reconnect.maxAttempts < failureLimit) (hsane : state.Sane)
    (h : state.Recounts settings.listener.reconnect.maxAttempts connections results)
    (move : Move) :
    (state.step settings move).Recounts settings.listener.reconnect.maxAttempts
      (connections ++ state.connections move) (results ++ state.returned move) := by
  cases move with
  | start spawning now =>
    rcases state.step_start settings spawning now with
      ⟨started, hstep, hstarting, -⟩ | ⟨spare, hstep⟩
    · unfold Interplay.Recounts at h
      rw [hsane.unstarted hstarting] at h
      obtain ⟨rfl, rfl⟩ := h
      rw [hstep]
      exact Listener.recounts_start _
    · rw [hstep]
      exact h.of_listener rfl
  | run =>
    rcases state.step_run settings with ⟨-, hstep⟩ | hstep
    · rw [hstep]
      exact h.of_listener rfl
    · rw [hstep]
      exact h.of_listener rfl
  | coordinator now => exact h.of_listener rfl
  | listener now reply =>
    rcases state.step_listener settings now reply with
      ⟨listener, hlistener, hstep⟩ | ⟨hnone, hstep⟩
    · unfold Interplay.Recounts at h
      rw [hlistener] at h
      unfold Interplay.connections Interplay.returned
      rw [hstep, hlistener]
      exact (Listener.act_transition settings.listener _ now _ reply).recounts hattempts h
    · unfold Interplay.connections Interplay.returned
      rw [hstep, hnone]
      exact h.of_listener rfl
  | cancel => exact h.of_listener rfl

end Replies

/-! ### The listener in a move -/

/-- Assumes: a fact about the listener and the flag that holds at its start, that its actions keep
while somebody takes its messages, and that does not depend on the flag being down. Every move keeps
it. -/
theorem Interplay.step_keeps {settings : Settings} {state : Interplay}
    (fact : Listener → Handoff → Prop) (hstart : ∀ handoff, fact .start handoff)
    (haction : ∀ listener next handoff shared now reply,
      Listener.Transition settings.listener handoff now listener reply next shared →
        handoff.receiving = true → fact listener handoff → fact next shared)
    (hmono : ∀ listener handoff shared, (handoff.cancelled = true → shared.cancelled = true) →
      fact listener handoff → fact listener shared)
    (hsane : state.Sane) (h : ∀ listener, state.listener = some listener →
      fact listener state.handoff)
    (move : Move) (listener : Listener)
    (hlistener : (state.step settings move).listener = some listener) :
    fact listener (state.step settings move).handoff := by
  rcases state.step_cases settings move with
    ⟨now, -, hstep⟩ | ⟨now, reply, before, -, hbefore, hstep⟩ | hrests
  · rw [hstep] at hlistener ⊢
    exact hmono _ _ _ (state.coordinator.act_cancelled settings state.handoff state.listener now)
      (h listener hlistener)
  · rw [hstep] at hlistener ⊢
    cases hlistener
    exact haction _ _ _ _ now reply
      (Listener.act_transition settings.listener state.handoff now before reply) hsane.receiving
      (h before hbefore)
  · rcases hrests.started with ⟨hsame, -⟩ | ⟨hnew, -⟩
    · rw [hsame] at hlistener
      exact hmono _ _ _ hrests.cancelled (h listener hlistener)
    · rw [hnew] at hlistener
      cases hlistener
      exact hstart _

/-! ### The flag -/

/-- Whoever cancels the run can be told: somebody else, or the listener that gives up. -/
structure Interplay.Blames (outside : Prop) (state : Interplay) : Prop where
  /-- Before the start somebody else did. -/
  unstarted : state.coordinator.phase = .starting → state.coordinator.task = .idle →
    state.handoff.cancelled = true → outside
  /-- A coordinator that was started and takes no messages any more has cancelled the run. -/
  running : ∀ listener, state.listener = some listener →
    state.coordinator.phase = .running ∨ state.handoff.cancelled = true
  /-- The coordinator cancels the run only where it is cancelled already, or nobody can send. -/
  cause : ∀ listener, state.listener = some listener →
    state.coordinator.Cancels state.handoff → outside ∨ listener.GivesUp
  /-- So does the listener, or it gives up. -/
  raising : ∀ listener, state.listener = some listener → listener.RaisesForCause

section Blames

variable {settings : Settings} {state : Interplay} {outside : Prop}

theorem Interplay.blames_new (outlet : Display.Outlet) (settings : Settings)
    (surface : Option Bool) (outside : Prop) :
    (Interplay.new (.fresh outlet settings surface)).Blames outside where
  unstarted _ _ hcancelled := absurd hcancelled Bool.false_ne_true
  running _ hnone := by cases hnone
  cause _ hnone := by cases hnone
  raising _ hnone := by cases hnone

theorem Interplay.Blames.step_raising (settings : Settings) (h : state.Blames outside)
    (hsane : state.Sane) (move : Move) (listener : Listener)
    (hlistener : (state.step settings move).listener = some listener) :
    listener.RaisesForCause :=
  Interplay.step_keeps (fun listener _ ↦ listener.RaisesForCause)
    (fun _ _ hraising ↦ by cases hraising)
    (fun _ _ _ _ _ _ htransition _ hraises ↦ hraises.transition htransition)
    (fun _ _ _ _ hraises ↦ hraises) hsane h.raising move listener hlistener

/-- Starting the listener blames nobody. -/
theorem Interplay.Blames.step_start (h : state.Blames outside) (hsane : state.Sane)
    (spawning : Except String Unit) (now : Instant) :
    (state.step settings (.start spawning now)).Blames outside := by
  have hraising := h.step_raising settings hsane (.start spawning now)
  rcases state.step_start settings spawning now with
    ⟨started, hstep, hstarting, hidle, hrunning, htask, -⟩ | ⟨spare, hstep⟩
  · rw [hstep] at hraising ⊢
    refine ⟨?_, fun _ _ ↦ Or.inl hrunning, ?_, hraising⟩
    · intro hphase
      exact absurd (hphase.symm.trans hrunning) Phase.noConfusion
    · rintro listener - (hcancelled | hstopping | habandoning)
      · exact Or.inl (h.unstarted hstarting hidle hcancelled)
      · exact absurd (htask.symm.trans hstopping) Task.noConfusion
      · exact absurd (htask.symm.trans habandoning) Task.noConfusion
  · rw [hstep] at hraising ⊢
    exact ⟨h.unstarted, h.running, h.cause, hraising⟩

/-- A run that begins blames nobody: only one that was over before cancels at once. -/
theorem Interplay.Blames.step_run (h : state.Blames outside) :
    (state.step settings .run).Blames outside := by
  rcases state.step_run settings with ⟨-, hstep⟩ | hstep
  · rw [hstep]
    refine ⟨?_, h.running, ?_, h.raising⟩
    · intro _ hidle
      exact absurd hidle state.coordinator.task_beginRun_ne
    · rintro listener hlistener hcancels
      have hcancelled : state.handoff.cancelled = true := by
        rcases hcancels with hcancelled | hbegun
        · exact hcancelled
        · rcases h.running listener hlistener with hrunning | hcancelled
          · rw [Coordinator.beginRun_of_running hrunning] at hbegun
            rcases hbegun with hstopping | habandoning
            · cases hstopping
            · cases habandoning
          · exact hcancelled
      exact h.cause listener hlistener (Or.inl hcancelled)
  · rw [hstep]
    exact h

/-- The coordinator blames nobody without reason. -/
theorem Interplay.Blames.step_coordinator (h : state.Blames outside) (horderly : state.Orderly)
    (now : Instant) : (state.step settings (.coordinator now)).Blames outside := by
  have htransition := Coordinator.act_transition settings state.coordinator state.handoff
    state.listener now
  have hcancelled := state.coordinator.act_cancelled settings state.handoff state.listener now
  refine ⟨?_, ?_, ?_, h.raising⟩
  · intro hstarting hidle hflag
    rcases htransition.idle hidle with ⟨hbefore, hsame⟩ | ⟨-, hstopped⟩
    · exact h.unstarted (htransition.starting hstarting) hbefore (hsame ▸ hflag)
    · exact absurd (hstopped.symm.trans hstarting) Phase.noConfusion
  · intro listener hlistener
    rcases htransition.phase with hsame | hflag | ⟨report, hfinishing⟩
    · rcases h.running listener hlistener with hrunning | hflag
      · exact Or.inl (hsame.trans hrunning)
      · exact Or.inr (hcancelled hflag)
    · exact Or.inr hflag
    · have hcoherent := horderly.coherent
      unfold Coordinator.Coherent at hcoherent
      rw [hfinishing] at hcoherent
      rcases h.running listener hlistener with hrunning | hflag
      · exact absurd (hcoherent.1.symm.trans hrunning) Phase.noConfusion
      · exact Or.inr (hcancelled hflag)
  · intro listener hlistener hcancels
    rcases htransition.cancels hcancels with hbefore | hgone
    · exact h.cause listener hlistener hbefore
    · have hsome : state.listener = some listener := hlistener
      rw [hsome] at hgone
      exact Or.inr (Or.inl hgone)

/-- The listener takes the blame itself. -/
theorem Interplay.Blames.step_listener (h : state.Blames outside) (hsane : state.Sane)
    (now : Instant) (reply : Reply) :
    (state.step settings (.listener now reply)).Blames outside := by
  have hraising := h.step_raising settings hsane (.listener now reply)
  rcases state.step_listener settings now reply with ⟨listener, hlistener, hstep⟩ | ⟨-, hstep⟩
  · have htransition := Listener.act_transition settings.listener state.handoff now listener reply
    rw [hstep] at hraising ⊢
    refine ⟨?_, ?_, ?_, hraising⟩
    · intro hstarting
      have hnone := hsane.unstarted hstarting
      rw [hlistener] at hnone
      cases hnone
    · intro _ _
      exact (h.running listener hlistener).imp_right
        (listener.act_cancelled settings.listener state.handoff now reply)
    · intro next hnext hcancels
      cases hnext
      have hbefore : state.coordinator.Cancels state.handoff ∨
          (listener.act settings.listener state.handoff now reply).1.GivesUp := by
        rcases hcancels with hflag | hturns
        · exact (htransition.raised (h.raising listener hlistener) hflag).imp_left Or.inl
        · exact Or.inl (Or.inr hturns)
      rcases hbefore with hcancels | hgivesUp
      · exact (h.cause listener hlistener hcancels).imp_right
          fun hgivesUp ↦ hgivesUp.transition htransition
      · exact Or.inr hgivesUp
  · rw [hstep]
    exact h

/-- Assumes: a cancellation by somebody else is accounted for. -/
theorem Interplay.Blames.step (h : state.Blames outside) (horderly : state.Orderly) (move : Move)
    (houtside : move = .cancel → outside) : (state.step settings move).Blames outside := by
  cases move with
  | start spawning now => exact h.step_start horderly.sane spawning now
  | run => exact h.step_run
  | coordinator now => exact h.step_coordinator horderly now
  | listener now reply => exact h.step_listener horderly.sane now reply
  | cancel =>
    exact ⟨fun _ _ _ ↦ houtside rfl, fun _ _ ↦ Or.inr rfl, fun _ _ _ ↦ Or.inl (houtside rfl),
      h.raising⟩

end Blames

/-! ### Reachable states -/

/-- What a reachable state tells of the listener, where `outside` says that somebody else has
cancelled the run. -/
structure Interplay.Explained (limit : Nat) (outside : Prop) (state : Interplay)
    (connections : List (Except FeedError Unit)) (results : List PollResult) : Prop where
  orderly : state.Orderly
  recounts : state.Recounts limit connections results
  blames : state.Blames outside
  raised : ∀ listener, state.listener = some listener → listener.LeavesRaised state.handoff
  /-- Somebody takes the messages. -/
  served : ∀ listener, state.listener = some listener → listener.leaving ≠ some .channelClosed

section Explained

variable {settings : Settings} {state : Interplay} {outside : Prop}
  {connections : List (Except FeedError Unit)} {results : List PollResult}

theorem Interplay.explained_new (outlet : Display.Outlet) (settings : Settings)
    (surface : Option Bool) (limit : Nat) (outside : Prop) :
    (Interplay.new (.fresh outlet settings surface)).Explained limit outside [] [] where
  orderly := Interplay.orderly_new outlet settings surface
  recounts := ⟨rfl, rfl⟩
  blames := Interplay.blames_new outlet settings surface outside
  raised _ hnone := by cases hnone
  served _ hnone := by cases hnone

/-- Assumes: the failures that the policy tolerates can be counted, and a cancellation by somebody
else is accounted for. -/
theorem Interplay.Explained.step
    (hattempts : settings.listener.reconnect.maxAttempts < failureLimit)
    (h : state.Explained settings.listener.reconnect.maxAttempts outside connections results)
    (move : Move) (houtside : move = .cancel → outside) :
    (state.step settings move).Explained settings.listener.reconnect.maxAttempts outside
      (connections ++ state.connections move) (results ++ state.returned move) where
  orderly := h.orderly.step settings move
  recounts := h.recounts.step hattempts h.orderly.sane move
  blames := h.blames.step h.orderly move houtside
  raised := Interplay.step_keeps Listener.LeavesRaised (fun _ ↦ trivial)
    (fun _ _ _ _ _ _ htransition _ hraised ↦ htransition.leavesRaised hraised)
    (fun _ _ _ hmono hraised ↦ hraised.mono hmono) h.orderly.sane h.raised move
  served := Interplay.step_keeps (fun listener _ ↦ listener.leaving ≠ some .channelClosed)
    (fun _ hleaving ↦ by cases hleaving)
    (fun listener next handoff shared now reply htransition hreceiving hserved hleaving ↦ by
      rcases htransition.refused_of_channelClosed hleaving with hbefore | hrefused
      · exact hserved hbefore
      · exact hrefused (Listener.refused_of_receiving listener hreceiving))
    (fun _ _ _ _ hserved ↦ hserved) h.orderly.sane h.served move

/-- Assumes: the failures that the policy tolerates can be counted, and cancellations by somebody
else are accounted for. -/
theorem Interplay.Explained.after
    (hattempts : settings.listener.reconnect.maxAttempts < failureLimit)
    (h : state.Explained settings.listener.reconnect.maxAttempts outside connections results)
    (moves : List Move) (houtside : Move.cancel ∈ moves → outside) :
    (state.after settings moves).Explained settings.listener.reconnect.maxAttempts outside
      (connections ++ Interplay.gather settings Interplay.connections state moves)
      (results ++ Interplay.gather settings Interplay.returned state moves) := by
  induction moves generalizing state connections results with
  | nil =>
    unfold Interplay.gather
    rw [List.append_nil, List.append_nil]
    exact h
  | cons move rest ih =>
    unfold Interplay.gather
    rw [← List.append_assoc, ← List.append_assoc]
    exact ih (h.step hattempts move fun hcancel ↦ houtside (hcancel ▸ List.mem_cons_self ..))
      fun hmem ↦ houtside (List.mem_cons_of_mem _ hmem)

end Explained

end LiveBoard.Viewer
