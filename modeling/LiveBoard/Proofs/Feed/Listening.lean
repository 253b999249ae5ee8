import LiveBoard.Proofs.Feed.ListenerHistory

/-!
# The listener among others

`Listening` is the listener with the queue and the flag that it shares. An `Incident` is one of its
actions, with the time and the reply of the source, or something that others do: a cancellation, a
message being taken, or the end of whoever takes them. A list of incidents is thus one history of
the listener, over one source and one clock.

What the listener remembers holds along a whole history (`Listening.recounts`). A wait goes on until
its time unless the run is cancelled (`Listening.Waits`), and where the end is settled the listener
comes to it in two more actions, whatever others do (`Listening.EndsWith`).
-/

set_option autoImplicit false
set_option relaxedAutoImplicit false

namespace LiveBoard.Feed

/-- The listener with what it shares with others. -/
structure Listening where
  listener : Listener
  handoff : Handoff

/-- What may happen next. -/
inductive Incident
  /-- The listener acts, with what the source replies if it is asked. -/
  | act (now : Instant) (reply : Reply)
  /-- Somebody cancels the run. -/
  | cancel
  /-- The oldest message is taken. -/
  | take
  /-- Nobody takes messages any more. -/
  | hangUp

/-- Takes the oldest message. -/
def Handoff.take (handoff : Handoff) : Handoff := { handoff with queue := handoff.queue.tail }

/-- A listener before it connects, whatever others have done to the queue and the flag. -/
def Listening.new (handoff : Handoff) : Listening := ⟨.start, handoff⟩

/-- The state after an incident. -/
def Listening.step (settings : ListenerSettings) (state : Listening) : Incident → Listening
  | .act now reply =>
    let (listener, handoff) := state.listener.act settings state.handoff now reply
    ⟨listener, handoff⟩
  | .cancel => { state with handoff := state.handoff.cancel }
  | .take => { state with handoff := state.handoff.take }
  | .hangUp => { state with handoff := state.handoff.hangUp }

@[simp]
theorem Listening.step_act (settings : ListenerSettings) (state : Listening) (now : Instant)
    (reply : Reply) :
    state.step settings (.act now reply) =
      ⟨(state.listener.act settings state.handoff now reply).1,
        (state.listener.act settings state.handoff now reply).2⟩ := rfl

/-- The state after incidents. -/
def Listening.after (settings : ListenerSettings) (state : Listening) (incidents : List Incident) :
    Listening :=
  incidents.foldl (Listening.step settings) state

/-- Whether the listener acts in an incident. -/
def Incident.isAct : Incident → Bool
  | .act .. => true
  | _ => false

/-- Whether the source breaks down in an incident. -/
def Incident.isBreakdown : Incident → Bool
  | .act _ reply => reply.isBreakdown
  | _ => false

/-! ### What can be observed -/

/-- The results of connecting in an incident. -/
def Listening.connections (state : Listening) : Incident → List (Except FeedError Unit)
  | .act _ reply => state.listener.connections reply
  | _ => []

/-- The results that polls return in an incident. -/
def Listening.returned (state : Listening) : Incident → List PollResult
  | .act _ reply => state.listener.returned reply
  | _ => []

/-- The message that nobody takes in an incident. -/
def Listening.refused (state : Listening) : Incident → List Payload
  | .act .. => state.listener.refused state.handoff
  | _ => []

/-- All that is observed in incidents, one after the other. -/
def Listening.gather {α : Type} (settings : ListenerSettings)
    (observe : Listening → Incident → List α) (state : Listening) : List Incident → List α
  | [] => []
  | incident :: rest =>
    observe state incident ++ Listening.gather settings observe (state.step settings incident) rest

section Histories

variable {settings : ListenerSettings} {state : Listening} {incident : Incident}
  {incidents : List Incident} {connections : List (Except FeedError Unit)}
  {results : List PollResult}

/-! ### The replies -/

/-- Assumes: the failures that the policy tolerates can be counted. -/
theorem Listening.step_recounts (hattempts : settings.reconnect.maxAttempts < failureLimit)
    (h : state.listener.Recounts settings.reconnect.maxAttempts connections results) :
    (state.step settings incident).listener.Recounts settings.reconnect.maxAttempts
      (connections ++ state.connections incident) (results ++ state.returned incident) := by
  cases incident with
  | act now reply => exact (Listener.act_transition settings _ now _ reply).recounts hattempts h
  | _ => exact h.unheard

/-- Assumes: the failures that the policy tolerates can be counted. The listener remembers the
replies of a whole history. -/
theorem Listening.after_recounts (hattempts : settings.reconnect.maxAttempts < failureLimit)
    (h : state.listener.Recounts settings.reconnect.maxAttempts connections results) :
    (state.after settings incidents).listener.Recounts settings.reconnect.maxAttempts
      (connections ++ Listening.gather settings Listening.connections state incidents)
      (results ++ Listening.gather settings Listening.returned state incidents) := by
  induction incidents generalizing state connections results with
  | nil => exact h.unheard
  | cons incident rest ih =>
    unfold Listening.gather
    rw [← List.append_assoc, ← List.append_assoc]
    exact ih (Listening.step_recounts hattempts h)

/-- A history from the start. -/
theorem Listening.recounts (hattempts : settings.reconnect.maxAttempts < failureLimit)
    (handoff : Handoff) (incidents : List Incident) :
    ((Listening.new handoff).after settings incidents).listener.Recounts
      settings.reconnect.maxAttempts
      (Listening.gather settings Listening.connections (.new handoff) incidents)
      (Listening.gather settings Listening.returned (.new handoff) incidents) := by
  have hstart : (Listening.new handoff).listener.Recounts settings.reconnect.maxAttempts [] [] :=
    Listener.recounts_start _
  exact Listening.after_recounts hattempts hstart

/-! ### Waits -/

/-- A wait that is not cut short: whatever else happens until its time, the listener sleeps, and
then two actions bring it to the next poll. -/
def Listening.Waits (settings : ListenerSettings) (state : Listening) (wait : BackoffWait) : Prop :=
  ∀ rest, Incident.cancel ∉ rest →
    (∀ now reply, Incident.act now reply ∈ rest → now < wait.deadline) →
    (state.after settings rest).listener = state.listener ∧
    ∀ first firstReply second secondReply, wait.deadline ≤ first →
      (state.after settings (rest ++ [.act first firstReply, .act second secondReply])).listener =
        { state.listener with stage := .polling }

theorem Listener.act_of_early {listener : Listener} {handoff : Handoff} {now : Instant}
    {reply : Reply} {wait : BackoffWait} (hwaiting : listener.stage = .waiting wait)
    (hclear : handoff.cancelled = false) (hearly : now < wait.deadline) :
    listener.act settings handoff now reply = (listener, handoff) := by
  unfold Listener.act BackoffWait.look
  rw [hwaiting, hclear]
  dsimp only
  rw [if_neg Bool.false_ne_true, if_neg (Nat.not_le_of_lt hearly)]

theorem Listener.act_of_over {listener : Listener} {handoff : Handoff} {now : Instant}
    {reply : Reply} {wait : BackoffWait} (hwaiting : listener.stage = .waiting wait)
    (hclear : handoff.cancelled = false) (hover : wait.deadline ≤ now) :
    listener.act settings handoff now reply = ({ listener with stage := .checking }, handoff) := by
  unfold Listener.act BackoffWait.look
  rw [hwaiting, hclear]
  dsimp only
  rw [if_neg Bool.false_ne_true, if_pos hover]

theorem Listener.act_of_clear {listener : Listener} {handoff : Handoff} {now : Instant}
    {reply : Reply} (hchecking : listener.stage = .checking) (hclear : handoff.cancelled = false) :
    listener.act settings handoff now reply = ({ listener with stage := .polling }, handoff) := by
  unfold Listener.act
  rw [hchecking, hclear]
  rfl

@[simp]
theorem Listening.after_append (settings : ListenerSettings) (state : Listening)
    (first second : List Incident) :
    state.after settings (first ++ second) = (state.after settings first).after settings second :=
  List.foldl_append

@[simp]
theorem Listening.after_singleton (settings : ListenerSettings) (state : Listening)
    (incident : Incident) : state.after settings [incident] = state.step settings incident := rfl

/-- Nothing but a cancellation cuts a wait short. -/
theorem Listening.after_of_early {wait : BackoffWait}
    (hwaiting : state.listener.stage = .waiting wait) (hclear : state.handoff.cancelled = false)
    (huncancelled : Incident.cancel ∉ incidents)
    (hearly : ∀ now reply, Incident.act now reply ∈ incidents → now < wait.deadline) :
    (state.after settings incidents).listener = state.listener ∧
      (state.after settings incidents).handoff.cancelled = false := by
  induction incidents generalizing state with
  | nil => exact ⟨rfl, hclear⟩
  | cons incident rest ih =>
    have hrest : Incident.cancel ∉ rest := fun hmem ↦
      huncancelled (List.mem_cons_of_mem _ hmem)
    have hlater : ∀ now reply, Incident.act now reply ∈ rest → now < wait.deadline :=
      fun now reply hmem ↦ hearly now reply (List.mem_cons_of_mem _ hmem)
    cases incident with
    | act now reply =>
      have hsame : state.step settings (.act now reply) = state := by
        rw [Listening.step_act,
          Listener.act_of_early hwaiting hclear (hearly now reply (List.mem_cons_self ..))]
      change ((state.step settings (.act now reply)).after settings rest).listener = _ ∧
        ((state.step settings (.act now reply)).after settings rest).handoff.cancelled = false
      rw [hsame]
      exact ih hwaiting hclear hrest hlater
    | cancel => exact absurd (List.mem_cons_self ..) huncancelled
    | take => exact ih hwaiting hclear hrest hlater
    | hangUp => exact ih hwaiting hclear hrest hlater

theorem Listening.waits_of_waiting {wait : BackoffWait}
    (hwaiting : state.listener.stage = .waiting wait) (hclear : state.handoff.cancelled = false) :
    state.Waits settings wait := by
  intro rest huncancelled hearly
  obtain ⟨hlistener, hstill⟩ := Listening.after_of_early hwaiting hclear huncancelled hearly
  refine ⟨hlistener, ?_⟩
  intro first firstReply second secondReply hover
  have hchecking : (state.after settings (rest ++ [.act first firstReply])) =
      ⟨{ state.listener with stage := .checking }, (state.after settings rest).handoff⟩ := by
    rw [Listening.after_append, Listening.after_singleton, Listening.step_act,
      Listener.act_of_over (hlistener ▸ hwaiting) hstill hover, hlistener]
  rw [← List.singleton_append, ← List.append_assoc, Listening.after_append, hchecking,
    Listening.after_singleton, Listening.step_act, Listener.act_of_clear rfl hstill]

/-! ### The end -/

/-- It is settled that the listener ends with an exit in a number of actions. -/
def Listener.Settled (listener : Listener) (handoff : Handoff) (exit : ListenerExit)
    (acts : Nat) : Prop :=
  match listener.stage with
  | .checking => exit = .cancelled ∧ handoff.cancelled = true ∧ 2 ≤ acts
  | .waiting _ => exit = .cancelled ∧ handoff.cancelled = true ∧ 2 ≤ acts
  | .raising other => other = exit ∧ 2 ≤ acts
  | .closing other => other = exit ∧ 1 ≤ acts
  | .ended other => other = exit
  | _ => False

/-- Whatever happens next, the listener ends with an exit in two more actions, unless the source
breaks down. -/
def Listening.EndsWith (settings : ListenerSettings) (state : Listening) (exit : ListenerExit) :
    Prop :=
  ∀ rest, (∀ incident ∈ rest, incident.isBreakdown = false) → 2 ≤ rest.countP Incident.isAct →
    (state.after settings rest).listener.stage = .ended exit

theorem Listener.Settled.mono {listener : Listener} {handoff shared : Handoff}
    {exit : ListenerExit} {acts more : Nat} (h : listener.Settled handoff exit acts)
    (hraised : handoff.cancelled = true → shared.cancelled = true) (hmore : acts ≤ more) :
    listener.Settled shared exit more := by
  unfold Listener.Settled at h ⊢
  cases hstage : listener.stage with
  | checking =>
    rw [hstage] at h
    exact ⟨h.1, hraised h.2.1, h.2.2.trans hmore⟩
  | waiting wait =>
    rw [hstage] at h
    exact ⟨h.1, hraised h.2.1, h.2.2.trans hmore⟩
  | raising other =>
    rw [hstage] at h
    exact ⟨h.1, h.2.trans hmore⟩
  | closing other =>
    rw [hstage] at h
    exact ⟨h.1, h.2.trans hmore⟩
  | ended other =>
    rw [hstage] at h
    exact h
  | _ =>
    rw [hstage] at h
    exact h.elim

theorem Listener.Transition.settled {listener next : Listener} {handoff shared : Handoff}
    {now : Instant} {reply : Reply} {exit : ListenerExit} {acts : Nat}
    (htransition : Listener.Transition settings handoff now listener reply next shared)
    (h : listener.Settled handoff exit (acts + 1)) (hsteady : reply.isBreakdown = false) :
    next.Settled shared exit acts := by
  cases htransition with
  | goesOn failures reply hclear =>
    obtain ⟨-, hcancelled, -⟩ := h
    rw [hclear] at hcancelled
    cases hcancelled
  | notices failures reply hcancelled =>
    obtain ⟨hexit, -, hacts⟩ := h
    exact ⟨hexit.symm, Nat.le_of_succ_le_succ hacts⟩
  | waitNotices failures wait reply hcancelled =>
    obtain ⟨hexit, -, hacts⟩ := h
    exact ⟨hexit.symm, Nat.le_of_succ_le_succ hacts⟩
  | waitEnds failures wait reply hclear hover =>
    obtain ⟨-, hcancelled, -⟩ := h
    rw [hclear] at hcancelled
    cases hcancelled
  | sleeps failures wait reply hclear hearly =>
    obtain ⟨-, hcancelled, -⟩ := h
    rw [hclear] at hcancelled
    cases hcancelled
  | raisesUnconnected failures error reply => exact h.1
  | raises failures other reply hconnected => exact ⟨h.1, Nat.le_of_succ_le_succ h.2⟩
  | closes failures other reply hbreaks => exact h.1
  | breaks stage failures reply hasked hbreakdown =>
    rw [hsteady] at hbreakdown
    cases hbreakdown
  | unheard stage failures reply hasked =>
    rcases hasked with ⟨rfl, -⟩ | ⟨rfl, -⟩ <;> exact h.elim
  | stays _ _ hfinished =>
    obtain ⟨stage, failures⟩ := listener
    cases stage with
    | ended other => exact h
    | broken => exact h.elim
    | _ => cases hfinished
  | _ => exact h.elim

theorem Listening.endsWith_of_settled {exit : ListenerExit} {acts : Nat}
    (h : state.listener.Settled state.handoff exit acts)
    (hsteady : ∀ incident ∈ incidents, incident.isBreakdown = false)
    (hmany : acts ≤ incidents.countP Incident.isAct) :
    (state.after settings incidents).listener.stage = .ended exit := by
  induction incidents generalizing state acts with
  | nil =>
    obtain rfl : acts = 0 := Nat.le_zero.mp hmany
    unfold Listener.Settled at h
    change state.listener.stage = .ended exit
    cases hstage : state.listener.stage with
    | ended other =>
      rw [hstage] at h
      exact congrArg Stage.ended h
    | _ =>
      rw [hstage] at h
      simp at h
  | cons incident rest ih =>
    have hrest : ∀ incident ∈ rest, incident.isBreakdown = false :=
      fun other hmem ↦ hsteady other (List.mem_cons_of_mem _ hmem)
    cases incident with
    | act now reply =>
      have hreply : reply.isBreakdown = false := hsteady _ (List.mem_cons_self ..)
      rw [List.countP_cons_of_pos rfl] at hmany
      have hearlier : state.listener.Settled state.handoff exit (acts - 1 + 1) :=
        h.mono id (by omega)
      exact ih ((Listener.act_transition settings _ now _ reply).settled hearlier hreply) hrest
        (by omega)
    | cancel => exact ih (h.mono (fun _ ↦ rfl) (Nat.le_refl _)) hrest hmany
    | take => exact ih (h.mono id (Nat.le_refl _)) hrest hmany
    | hangUp => exact ih (h.mono id (Nat.le_refl _)) hrest hmany

/-- A listener that can still be cancelled, and has not begun to leave, ends as cancelled. -/
theorem Listening.endsWith_cancelled
    (hlooks : state.listener.stage = .checking ∨ ∃ wait, state.listener.stage = .waiting wait)
    (hcancelled : state.handoff.cancelled = true) : state.EndsWith settings .cancelled := by
  intro rest hsteady hmany
  refine Listening.endsWith_of_settled ?_ hsteady hmany
  unfold Listener.Settled
  rcases hlooks with hchecking | ⟨wait, hwaiting⟩
  · rw [hchecking]
    exact ⟨rfl, hcancelled, Nat.le_refl _⟩
  · rw [hwaiting]
    exact ⟨rfl, hcancelled, Nat.le_refl _⟩

/-- Assumes: the listener remembers the results, and the last of them is one failure too many. -/
theorem Listening.endsWith_connectionLost
    (h : state.listener.Recounts settings.reconnect.maxAttempts connections results)
    {earlier : List PollResult} {error : FeedError} (hresults : results = earlier ++ [.error error])
    (hbeyond : failureStreak results = settings.reconnect.maxAttempts + 1)
    (hsteady : state.listener.stage ≠ .broken) :
    state.EndsWith settings (.connectionLost error) := by
  intro rest hbreakdowns hmany
  refine Listening.endsWith_of_settled ?_ hbreakdowns hmany
  have hstage := h.stage
  have hleft : ∀ exit : ListenerExit,
      exit.Follows settings.reconnect.maxAttempts connections results →
        exit = .connectionLost error := by
    intro exit hfollows
    refine (hfollows.connectionLost_iff error).mpr ⟨earlier, [], hresults, ?_⟩
    rw [← hresults, hbeyond]
    exact Nat.lt_succ_self _
  unfold Listener.Settled
  cases hcase : state.listener.stage with
  | connecting =>
    rw [hcase] at hstage
    rw [hstage.2] at hbeyond
    cases hbeyond
  | raising exit =>
    rw [hcase] at hstage
    exact ⟨hleft exit hstage, Nat.le_refl _⟩
  | closing exit =>
    rw [hcase] at hstage
    exact ⟨hleft exit hstage, Nat.le_succ _⟩
  | ended exit =>
    rw [hcase] at hstage
    exact hleft exit hstage
  | broken => exact absurd hcase hsteady
  | _ =>
    rw [hcase] at hstage
    have hwithin := hstage.2.whole
    omega

/-! ### What an end tells -/

theorem Listening.step_leavesRaised (h : state.listener.LeavesRaised state.handoff) :
    (state.step settings incident).listener.LeavesRaised
      (state.step settings incident).handoff := by
  cases incident with
  | act now reply => exact (Listener.act_transition settings _ now _ reply).leavesRaised h
  | cancel => exact h.mono fun _ ↦ rfl
  | take => exact h
  | hangUp => exact h

theorem Listening.after_leavesRaised (h : state.listener.LeavesRaised state.handoff) :
    (state.after settings incidents).listener.LeavesRaised
      (state.after settings incidents).handoff := by
  induction incidents generalizing state with
  | nil => exact h
  | cons incident rest ih => exact ih (Listening.step_leavesRaised h)

/-- A listener that leaves because nobody takes its messages had one refused. -/
theorem Listening.refused_of_channelClosed
    (hleaving : (state.after settings incidents).listener.leaving = some .channelClosed) :
    state.listener.leaving = some .channelClosed ∨
      Listening.gather settings Listening.refused state incidents ≠ [] := by
  induction incidents generalizing state with
  | nil => exact Or.inl hleaving
  | cons incident rest ih =>
    unfold Listening.gather
    rcases ih hleaving with hafter | hrefused
    · cases incident with
      | act now reply =>
        rcases (Listener.act_transition settings _ now _ reply).refused_of_channelClosed hafter with
          hbefore | hnow
        · exact Or.inl hbefore
        · exact Or.inr (List.append_ne_nil_of_left_ne_nil hnow _)
      | _ => exact Or.inl hafter
    · exact Or.inr (List.append_ne_nil_of_right_ne_nil _ hrefused)

end Histories

end LiveBoard.Feed
