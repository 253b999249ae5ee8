import LiveBoard.Proofs.Feed.ListenerTransitions
import Mathlib.Data.List.DropRight

/-!
# What the listener remembers

The stage of the listener and its counter tell what the source has replied so far
(`Listener.Recounts`): the counter is the number of polls that failed since the session was last
regained (`failureStreak`), a listener that is still at work was never beyond its limit
(`WithinLimit`), and one that leaves has a reason among the replies (`ListenerExit.Follows`). Every
action keeps this up (`Recounts.act`). So the failures are never too many to be counted.

A listener that has seen the run cancelled, or has given up, leaves the flag raised
(`Listener.LeavesRaised`), and a message that nobody takes ends it (`Listener.refused`).
-/

set_option autoImplicit false
set_option relaxedAutoImplicit false

namespace LiveBoard.Feed

/-! ### Failures in a row -/

/-- Whether a poll failed. -/
def pollFailed : PollResult → Bool
  | .error _ => true
  | .ok _ => false

/-- Whether a poll told that the session was regained. -/
def regains : PollResult → Bool
  | .ok (some .connected) => true
  | _ => false

/-- The number of polls that failed since the session was last regained. -/
def failureStreak (results : List PollResult) : Nat :=
  (results.rtakeWhile fun result ↦ !regains result).countP pollFailed

/-- There were never more failures in a row than a limit. -/
def WithinLimit (limit : Nat) (results : List PollResult) : Prop :=
  ∀ earlier, earlier <+: results → failureStreak earlier ≤ limit

section Streak

variable {results : List PollResult} {limit : Nat}

theorem failureStreak_concat (result : PollResult) (hregains : regains result = false) :
    failureStreak (results ++ [result]) =
      failureStreak results + if pollFailed result then 1 else 0 := by
  unfold failureStreak
  rw [List.rtakeWhile_concat_pos _ _ _ (by rw [hregains]; rfl), List.countP_append,
    List.countP_singleton]

@[simp]
theorem failureStreak_error (error : FeedError) :
    failureStreak (results ++ [.error error]) = failureStreak results + 1 :=
  failureStreak_concat _ rfl

@[simp]
theorem failureStreak_nothing : failureStreak (results ++ [.ok none]) = failureStreak results :=
  failureStreak_concat _ rfl

@[simp]
theorem failureStreak_payload (payload : Payload) :
    failureStreak (results ++ [.ok (some (.payload payload))]) = failureStreak results :=
  failureStreak_concat _ rfl

@[simp]
theorem failureStreak_connected : failureStreak (results ++ [.ok (some .connected)]) = 0 := by
  unfold failureStreak
  rw [List.rtakeWhile_concat_neg _ _ _ (by exact Bool.false_ne_true)]
  rfl

theorem withinLimit_nil : WithinLimit limit [] := by
  intro earlier hearlier
  rw [List.prefix_nil.mp hearlier]
  exact Nat.zero_le _

theorem WithinLimit.concat (h : WithinLimit limit results) {result : PollResult}
    (hstreak : failureStreak (results ++ [result]) ≤ limit) :
    WithinLimit limit (results ++ [result]) := by
  intro earlier hearlier
  rcases List.prefix_concat_iff.mp hearlier with rfl | hbefore
  · exact hstreak
  · exact h earlier hbefore

theorem WithinLimit.whole (h : WithinLimit limit results) : failureStreak results ≤ limit :=
  h results (List.prefix_refl results)

/-- Assumes: the limit was kept. No failure went beyond it. -/
theorem WithinLimit.not_beyond (h : WithinLimit limit results) {earlier later : List PollResult}
    {error : FeedError} (hresults : results = earlier ++ .error error :: later) :
    failureStreak (earlier ++ [.error error]) ≤ limit := by
  refine h _ ⟨later, ?_⟩
  rw [hresults, List.append_assoc]
  rfl

theorem WithinLimit.dropLast (h : WithinLimit limit results) :
    WithinLimit limit results.dropLast :=
  fun earlier hearlier ↦ h earlier (hearlier.trans (List.dropLast_prefix results))

/-- Assumes: the limit was kept before the last result. A failure beyond it is the last result. -/
theorem WithinLimit.beyond_last (h : WithinLimit limit results.dropLast)
    {error : FeedError} {earlier later : List PollResult}
    (hresults : results = earlier ++ .error error :: later)
    (hbeyond : limit < failureStreak (earlier ++ [.error error])) : later = [] := by
  rcases List.eq_nil_or_concat later with rfl | ⟨rest, result, rfl⟩
  · rfl
  · have hbefore : results.dropLast = earlier ++ .error error :: rest := by
      rw [hresults, List.concat_eq_append, ← List.cons_append, ← List.append_assoc,
        List.dropLast_concat]
    exact absurd (h.not_beyond hbefore) (Nat.not_le_of_lt hbeyond)

/-- Assumes: the limit was kept before the last result. Not more than that one is beyond it. -/
theorem WithinLimit.le_succ (h : WithinLimit limit results.dropLast) :
    failureStreak results ≤ limit + 1 := by
  rcases List.eq_nil_or_concat results with rfl | ⟨before, result, rfl⟩
  · exact Nat.zero_le _
  · rw [List.concat_eq_append] at h ⊢
    rw [List.dropLast_concat] at h
    have hbefore := h.whole
    match result with
    | .error error =>
      rw [failureStreak_error]
      exact Nat.succ_le_succ hbefore
    | .ok none =>
      rw [failureStreak_nothing]
      exact Nat.le_succ_of_le hbefore
    | .ok (some (.payload payload)) =>
      rw [failureStreak_payload]
      exact Nat.le_succ_of_le hbefore
    | .ok (some .connected) =>
      rw [failureStreak_connected]
      exact Nat.zero_le _

end Streak

/-! ### Replies and stages -/

/-- The results of connecting in an action. -/
def Listener.connections (listener : Listener) (reply : Reply) :
    List (Except FeedError Unit) :=
  match listener.stage, reply with
  | .connecting, .connected result => [result]
  | _, _ => []

/-- The message that nobody takes in an action. -/
def Listener.refused (listener : Listener) (handoff : Handoff) : List Payload :=
  match listener.stage with
  | .sending payload => if handoff.receiving then [] else [payload]
  | _ => []

/-- The exit with which the listener is on its way out or has ended. -/
def Listener.leaving (listener : Listener) : Option ListenerExit :=
  match listener.stage with
  | .raising exit => some exit
  | .closing exit => some exit
  | .ended exit => some exit
  | _ => none

@[grind →]
theorem Listener.leaving_of_closing {listener : Listener} {exit : ListenerExit}
    (hclosing : listener.stage = .closing exit) : listener.leaving = some exit := by
  unfold Listener.leaving
  rw [hclosing]

section Ended

variable {listener : Listener} {exit : ListenerExit}

@[grind →]
theorem Listener.leaving_of_ended (hended : listener.stage = .ended exit) :
    listener.leaving = some exit := by
  unfold Listener.leaving
  rw [hended]

@[grind →]
theorem Listener.report_of_ended (hended : listener.stage = .ended exit) :
    listener.report = some exit := by
  unfold Listener.report
  rw [hended]

@[grind →]
theorem Listener.isFinished_of_ended (hended : listener.stage = .ended exit) :
    listener.isFinished = true := by
  unfold Listener.isFinished
  rw [hended]

end Ended

@[simp]
theorem Listener.refused_of_receiving (listener : Listener) {handoff : Handoff}
    (hreceiving : handoff.receiving = true) : listener.refused handoff = [] := by
  unfold Listener.refused
  rw [hreceiving]
  cases listener.stage <;> rfl

@[simp]
theorem Listener.connections_of_isFinished {listener : Listener} {reply : Reply}
    (hfinished : listener.isFinished = true) : listener.connections reply = [] := by
  obtain ⟨stage, failures⟩ := listener
  cases stage with
  | connecting => cases hfinished
  | _ => rfl

@[simp]
theorem Listener.returned_of_isFinished {listener : Listener} {reply : Reply}
    (hfinished : listener.isFinished = true) : listener.returned reply = [] := by
  obtain ⟨stage, failures⟩ := listener
  cases stage with
  | polling => cases hfinished
  | _ => rfl

/-- What the source has replied where the listener leaves with an exit. -/
def ListenerExit.Follows (limit : Nat) (connections : List (Except FeedError Unit))
    (results : List PollResult) : ListenerExit → Prop
  | .connectFailed error => connections = [.error error] ∧ results = []
  | .connectionLost error =>
    connections = [.ok ()] ∧ failureStreak results = limit + 1 ∧
      ∃ before, results = before ++ [.error error] ∧ WithinLimit limit before
  | .cancelled => connections = [.ok ()] ∧ WithinLimit limit results
  | .channelClosed => connections = [.ok ()] ∧ WithinLimit limit results

/-- What the source has replied where the listener is at a stage. -/
def Stage.Follows (limit : Nat) (connections : List (Except FeedError Unit))
    (results : List PollResult) : Stage → Prop
  | .connecting => connections = [] ∧ results = []
  | .raising exit => exit.Follows limit connections results
  | .closing exit => exit.Follows limit connections results
  | .ended exit => exit.Follows limit connections results
  | .broken => WithinLimit limit results.dropLast
  | _ => connections = [.ok ()] ∧ WithinLimit limit results

/-- The state of the listener tells what the source has replied, with a limit to the failures in a
row. -/
structure Listener.Recounts (limit : Nat) (listener : Listener)
    (connections : List (Except FeedError Unit)) (results : List PollResult) : Prop where
  failures : listener.failures = failureStreak results
  stage : listener.stage.Follows limit connections results

theorem Listener.recounts_start (limit : Nat) : Listener.start.Recounts limit [] [] :=
  ⟨rfl, rfl, rfl⟩

section Recounts

variable {settings : ListenerSettings} {listener next : Listener} {handoff shared : Handoff}
  {now : Instant} {reply : Reply} {limit : Nat} {connections : List (Except FeedError Unit)}
  {results : List PollResult}

/-- The limit was kept before the last result, whatever that one was. -/
theorem ListenerExit.Follows.before_last {exit : ListenerExit}
    (h : exit.Follows limit connections results) : WithinLimit limit results.dropLast := by
  cases exit with
  | connectFailed error =>
    obtain ⟨-, rfl⟩ := h
    exact withinLimit_nil
  | connectionLost error =>
    obtain ⟨-, -, before, rfl, hwithin⟩ := h
    rwa [List.dropLast_concat]
  | cancelled => exact h.2.dropLast
  | channelClosed => exact h.2.dropLast

/-- The listener leaves because the connection failed exactly where it did. -/
theorem ListenerExit.Follows.connectFailed_iff {exit : ListenerExit}
    (h : exit.Follows limit connections results) (error : FeedError) :
    exit = .connectFailed error ↔ .error error ∈ connections := by
  cases exit with
  | connectFailed other =>
    rw [h.1, List.mem_singleton, ListenerExit.connectFailed.injEq, Except.error.injEq, eq_comm]
  | _ =>
    rw [h.1, List.mem_singleton]
    exact ⟨ListenerExit.noConfusion, fun herror ↦ by cases herror⟩

/-- The listener leaves because the connection was lost exactly where a poll failed once more than
is tolerated. -/
theorem ListenerExit.Follows.connectionLost_iff {exit : ListenerExit}
    (h : exit.Follows limit connections results) (error : FeedError) :
    exit = .connectionLost error ↔ ∃ earlier later, results = earlier ++ .error error :: later ∧
      limit < failureStreak (earlier ++ [.error error]) := by
  constructor
  · rintro rfl
    obtain ⟨-, hstreak, before, hbefore, -⟩ := h
    rw [hbefore] at hstreak
    exact ⟨before, [], hbefore, by omega⟩
  · rintro ⟨earlier, later, hresults, hbeyond⟩
    cases exit with
    | connectFailed other =>
      rw [h.2] at hresults
      exact absurd hresults.symm (List.append_ne_nil_of_right_ne_nil _ (List.cons_ne_nil _ _))
    | connectionLost other =>
      obtain rfl : later = [] := h.before_last.beyond_last hresults hbeyond
      obtain ⟨-, -, before, hbefore, -⟩ := h
      obtain ⟨-, hlast⟩ := List.append_inj' (hbefore.symm.trans hresults) rfl
      cases hlast
      rfl
    | cancelled => exact absurd (h.2.not_beyond hresults) (Nat.not_le_of_lt hbeyond)
    | channelClosed => exact absurd (h.2.not_beyond hresults) (Nat.not_le_of_lt hbeyond)

theorem Listener.Recounts.before_last (h : listener.Recounts limit connections results) :
    WithinLimit limit results.dropLast := by
  have hstage := h.stage
  cases hcase : listener.stage with
  | connecting =>
    rw [hcase] at hstage
    obtain ⟨-, rfl⟩ := hstage
    exact withinLimit_nil
  | raising exit => exact ListenerExit.Follows.before_last (hcase ▸ hstage)
  | closing exit => exact ListenerExit.Follows.before_last (hcase ▸ hstage)
  | ended exit => exact ListenerExit.Follows.before_last (hcase ▸ hstage)
  | broken =>
    rw [hcase] at hstage
    exact hstage
  | _ =>
    rw [hcase] at hstage
    exact hstage.2.dropLast

/-- Where the listener leaves, the replies give the reason. -/
theorem Listener.Recounts.follows (h : listener.Recounts limit connections results)
    {exit : ListenerExit} (hleaving : listener.leaving = some exit) :
    exit.Follows limit connections results := by
  have hstage := h.stage
  unfold Listener.leaving at hleaving
  cases hcase : listener.stage with
  | raising other =>
    rw [hcase] at hleaving hstage
    cases hleaving
    exact hstage
  | closing other =>
    rw [hcase] at hleaving hstage
    cases hleaving
    exact hstage
  | ended other =>
    rw [hcase] at hleaving hstage
    cases hleaving
    exact hstage
  | _ =>
    rw [hcase] at hleaving
    cases hleaving

/-- Where the source is not heard, the account stays what it was. -/
theorem Listener.Recounts.unheard (h : listener.Recounts limit connections results) :
    listener.Recounts limit (connections ++ []) (results ++ []) := by
  rwa [List.append_nil, List.append_nil]

/-- Assumes: the failures that the policy tolerates can be counted. Every action keeps the account
of the replies, whatever else happens to the queue and the flag. -/
theorem Listener.Transition.recounts
    (htransition : Listener.Transition settings handoff now listener reply next shared)
    (hattempts : settings.reconnect.maxAttempts < failureLimit)
    (h : listener.Recounts settings.reconnect.maxAttempts connections results) :
    next.Recounts settings.reconnect.maxAttempts (connections ++ listener.connections reply)
      (results ++ listener.returned reply) := by
  have hunheard := h.unheard
  cases htransition with
  | connects failures =>
    obtain ⟨hfailures, rfl, rfl⟩ := h
    exact ⟨hfailures, rfl, withinLimit_nil⟩
  | connectFails failures error =>
    obtain ⟨hfailures, rfl, rfl⟩ := h
    exact ⟨hfailures, rfl, rfl⟩
  | pollsNothing failures =>
    obtain ⟨hfailures, rfl, hwithin⟩ := h
    exact ⟨hfailures.trans failureStreak_nothing.symm, rfl,
      hwithin.concat (failureStreak_nothing.trans_le hwithin.whole)⟩
  | pollsMessage failures payload =>
    obtain ⟨hfailures, rfl, hwithin⟩ := h
    exact ⟨hfailures.trans (failureStreak_payload payload).symm, rfl,
      hwithin.concat ((failureStreak_payload payload).trans_le hwithin.whole)⟩
  | pollsRegained failures =>
    obtain ⟨-, rfl, hwithin⟩ := h
    exact ⟨failureStreak_connected.symm, rfl,
      hwithin.concat (failureStreak_connected.trans_le (Nat.zero_le _))⟩
  | givesUp failures error hlast hcountable =>
    obtain ⟨hfailures, rfl, hwithin⟩ := h
    have hcounted : failures = failureStreak results := hfailures
    have hstreak : failureStreak (results ++ [.error error]) = failures + 1 := by
      rw [failureStreak_error, hcounted]
    have hbefore := hwithin.whole
    have hlimit : failures + 1 = settings.reconnect.maxAttempts + 1 := by omega
    exact ⟨hstreak.symm, rfl, hstreak.trans hlimit, results, rfl, hwithin⟩
  | retries failures error htolerated hfits =>
    obtain ⟨hfailures, rfl, hwithin⟩ := h
    have hcounted : failures = failureStreak results := hfailures
    have hstreak : failureStreak (results ++ [.error error]) = failures + 1 := by
      rw [failureStreak_error, hcounted]
    exact ⟨hstreak.symm, rfl, hwithin.concat (hstreak.trans_le htolerated)⟩
  | outlasts failures error htolerated hlate =>
    obtain ⟨hfailures, -, hwithin⟩ := h
    have hcounted : failures = failureStreak results := hfailures
    refine ⟨by rw [hcounted]; exact (failureStreak_error error).symm, ?_⟩
    change WithinLimit _ (results ++ [Except.error error]).dropLast
    rwa [List.dropLast_concat]
  | overflows failures error huncountable =>
    obtain ⟨hfailures, -, hwithin⟩ := h
    have hcounted : failures = failureStreak results := hfailures
    have hbefore := hwithin.whole
    omega
  | unheard stage failures reply hasked =>
    rcases hasked with ⟨rfl, hother⟩ | ⟨rfl, hother⟩
    · cases reply with
      | connected result => exact absurd rfl (hother result)
      | _ => exact hunheard
    · cases reply with
      | polled ending => exact absurd rfl (hother ending)
      | _ => exact hunheard
  | breaks stage failures reply hasked hbreakdown =>
    have hbefore := h.before_last
    have hreturned : Listener.returned ⟨stage, failures⟩ reply = [] := by
      unfold Listener.returned
      split
      · cases hbreakdown
      · rfl
    rw [hreturned, List.append_nil]
    exact ⟨h.failures, hbefore⟩
  | stays _ _ hfinished =>
    rw [Listener.connections_of_isFinished hfinished, Listener.returned_of_isFinished hfinished]
    exact hunheard
  | _ => exact ⟨hunheard.failures, hunheard.stage⟩

end Recounts

/-! ### On the way out -/

/-- A listener that is past raising the flag has left it raised, unless nobody took its message. -/
def Listener.LeavesRaised (listener : Listener) (handoff : Handoff) : Prop :=
  match listener.stage with
  | .closing exit => exit ≠ .channelClosed → handoff.cancelled = true
  | .ended exit => exit ≠ .channelClosed → handoff.cancelled = true
  | _ => True

/-- The listener has finished, or leaves for another reason than a cancellation. -/
def Listener.GivesUp (listener : Listener) : Prop :=
  listener.isFinished = true ∨ ∃ exit, listener.leaving = some exit ∧ exit ≠ .cancelled

/-- The listener does not raise the flag because it saw it raised. -/
def Listener.RaisesForCause (listener : Listener) : Prop :=
  ∀ exit, listener.stage = .raising exit → exit ≠ .cancelled

section Leaving

variable {settings : ListenerSettings} {listener next : Listener} {handoff shared : Handoff}
  {now : Instant} {reply : Reply}

theorem Listener.LeavesRaised.mono (h : listener.LeavesRaised handoff)
    (hraised : handoff.cancelled = true → shared.cancelled = true) :
    listener.LeavesRaised shared := by
  unfold Listener.LeavesRaised at h ⊢
  cases hstage : listener.stage with
  | closing exit =>
    rw [hstage] at h
    exact fun hexit ↦ hraised (h hexit)
  | ended exit =>
    rw [hstage] at h
    exact fun hexit ↦ hraised (h hexit)
  | _ => trivial

theorem Listener.Transition.leavesRaised
    (htransition : Listener.Transition settings handoff now listener reply next shared)
    (h : listener.LeavesRaised handoff) : next.LeavesRaised shared := by
  cases htransition with
  | notices failures reply hcancelled => exact fun _ ↦ hcancelled
  | refuses failures payload reply hgone => exact fun hexit ↦ absurd rfl hexit
  | waitNotices failures wait reply hcancelled => exact fun _ ↦ hcancelled
  | raisesUnconnected failures error reply => exact fun _ ↦ rfl
  | raises failures exit reply hconnected => exact fun _ ↦ rfl
  | closes failures exit reply hsteady => exact h
  | unheard stage failures reply hasked => exact h
  | stays _ _ hfinished => exact h
  | _ => trivial

/-- A listener on its way out keeps its exit, unless the source breaks down. -/
theorem Listener.Transition.leaving
    (htransition : Listener.Transition settings handoff now listener reply next shared)
    {exit : ListenerExit} (hleaving : listener.leaving = some exit) :
    next.leaving = some exit ∨ next.stage = .broken := by
  cases htransition with
  | raisesUnconnected failures error reply => exact Or.inl hleaving
  | raises failures exit reply hconnected => exact Or.inl hleaving
  | closes failures exit reply hsteady => exact Or.inl hleaving
  | breaks stage failures reply hasked hbreakdown => exact Or.inr rfl
  | unheard stage failures reply hasked => exact Or.inl hleaving
  | stays _ _ hfinished => exact Or.inl hleaving
  | _ => cases hleaving

theorem Listener.GivesUp.transition (h : listener.GivesUp)
    (htransition : Listener.Transition settings handoff now listener reply next shared) :
    next.GivesUp := by
  rcases h with hfinished | ⟨exit, hleaving, hexit⟩
  · cases htransition with
    | stays _ _ _ => exact Or.inl hfinished
    | breaks stage failures reply hasked hbreakdown => exact Or.inl rfl
    | unheard stage failures reply hasked => exact Or.inl hfinished
    | _ => cases hfinished
  · rcases htransition.leaving hleaving with hstill | hbroken
    · exact Or.inr ⟨exit, hstill, hexit⟩
    · refine Or.inl ?_
      unfold Listener.isFinished
      rw [hbroken]

theorem Listener.RaisesForCause.transition (h : listener.RaisesForCause)
    (htransition : Listener.Transition settings handoff now listener reply next shared) :
    next.RaisesForCause := by
  intro exit hraising
  cases htransition with
  | connectFails failures error =>
    cases hraising
    exact ListenerExit.noConfusion
  | givesUp failures error hlast hcountable =>
    cases hraising
    exact ListenerExit.noConfusion
  | unheard stage failures reply hasked => exact h exit hraising
  | stays _ _ hfinished => exact h exit hraising
  | _ => cases hraising

/-- The listener raises the flag only where it gives up. -/
theorem Listener.Transition.raised
    (htransition : Listener.Transition settings handoff now listener reply next shared)
    (h : listener.RaisesForCause) (hcancelled : shared.cancelled = true) :
    handoff.cancelled = true ∨ next.GivesUp := by
  cases htransition with
  | raisesUnconnected failures error reply => exact Or.inr (Or.inl rfl)
  | raises failures exit reply hconnected => exact Or.inr (Or.inr ⟨exit, rfl, h exit rfl⟩)
  | _ => exact Or.inl hcancelled

/-- A listener ends by closing its source, unless it never connected it. -/
theorem Listener.Transition.ended
    (htransition : Listener.Transition settings handoff now listener reply next shared)
    {exit : ListenerExit} (hended : next.stage = .ended exit) :
    listener.isFinished = true ∨ listener.stage = .closing exit ∨
      ∃ error, exit = .connectFailed error := by
  cases htransition with
  | closes failures other reply hsteady =>
    cases hended
    exact Or.inr (Or.inl rfl)
  | raisesUnconnected failures error reply =>
    cases hended
    exact Or.inr (Or.inr ⟨error, rfl⟩)
  | unheard stage failures reply hasked =>
    have hstage : stage = .ended exit := hended
    rw [hstage]
    exact Or.inl rfl
  | stays _ _ hfinished => exact Or.inl hfinished
  | _ => cases hended

/-- A listener leaves because nobody takes its messages only where one was refused. -/
theorem Listener.Transition.refused_of_channelClosed
    (htransition : Listener.Transition settings handoff now listener reply next shared)
    (hleaving : next.leaving = some .channelClosed) :
    listener.leaving = some .channelClosed ∨ listener.refused handoff ≠ [] := by
  cases htransition with
  | refuses failures payload reply hgone =>
    refine Or.inr ?_
    unfold Listener.refused
    dsimp only
    rw [hgone]
    exact List.cons_ne_nil _ _
  | raisesUnconnected failures error reply => exact Or.inl hleaving
  | raises failures exit reply hconnected => exact Or.inl hleaving
  | closes failures exit reply hsteady => exact Or.inl hleaving
  | unheard stage failures reply hasked => exact Or.inl hleaving
  | stays _ _ hfinished => exact Or.inl hleaving
  | _ => cases hleaving

/-- The listener breaks down only where the source does, a wait would end too late, or the failures
can no longer be counted. -/
theorem Listener.Transition.broken
    (htransition : Listener.Transition settings handoff now listener reply next shared)
    (hbroken : next.stage = .broken) :
    listener.stage = .broken ∨ reply.isBreakdown = true ∨
      (listener.stage = .polling ∧ failureLimit < listener.failures + 1) ∨
      ∃ error, reply = .polled (.returns (.error error)) ∧
        listener.failures + 1 ≤ settings.reconnect.maxAttempts ∧
        instantLimit ≤ now + settings.reconnect.backoff (listener.failures + 1) := by
  cases htransition with
  | breaks stage failures reply hasked hbreakdown => exact Or.inr (Or.inl hbreakdown)
  | outlasts failures error htolerated hlate =>
    exact Or.inr (Or.inr (Or.inr ⟨error, rfl, htolerated, hlate⟩))
  | overflows failures error huncountable => exact Or.inr (Or.inr (Or.inl ⟨rfl, huncountable⟩))
  | unheard stage failures reply hasked => exact Or.inl hbroken
  | stays _ _ hfinished => exact Or.inl hbroken
  | _ => cases hbroken

end Leaving

end LiveBoard.Feed
