import LiveBoard.Proofs.Feed.Listening

/-!
# The account of the reconnects

What the listener does about its session follows from the results of its polls: every failure that
is not one too many leads to its wait and then to the next poll (`deedsAfter`,
`Listening.gather_deeds`), and one too many is the end. `Listening.reconnect_accounting` collects
this for all histories: how failures are counted, which waits they lead to, which exit the listener
takes, and how it leaves the flag.
-/

set_option autoImplicit false
set_option relaxedAutoImplicit false

namespace LiveBoard.Feed

/-! ### Deeds -/

/-- What the listener does about its session. -/
inductive Deed
  /-- A poll returned. -/
  | polled (result : PollResult)
  /-- A wait of a length began. -/
  | waits (length : Duration)
  deriving DecidableEq

/-- The wait that begins in an action after a poll, from the listener before it to the one after
it. -/
def Listener.waitBegun (listener next : Listener) (now : Instant) : List Deed :=
  match listener.stage, next.stage with
  | .polling, .waiting wait => [.waits (wait.deadline - now)]
  | _, _ => []

/-- What the listener does about its session in an action. -/
def Listener.deeds (settings : ListenerSettings) (listener : Listener) (handoff : Handoff)
    (now : Instant) (reply : Reply) : List Deed :=
  (listener.returned reply).map .polled ++
    listener.waitBegun (listener.act settings handoff now reply).1 now

/-- What the listener does about its session in an incident. -/
def Listening.deeds (settings : ListenerSettings) (state : Listening) : Incident → List Deed
  | .act now reply => state.listener.deeds settings state.handoff now reply
  | _ => []

/-! ### What the policy asks for -/

/-- What a result is followed by, where these are the results up to it. -/
def retryAfter (policy : Broker.ReconnectPolicy) (results : List PollResult) :
    PollResult → List Deed
  | .error _ =>
    if failureStreak results ≤ policy.maxAttempts then
      [.waits (policy.backoff (failureStreak results))]
    else []
  | .ok _ => []

/-- The deeds that results lead to, where others came before: each is followed by the wait that the
policy asks for, if it asks for one. -/
def deedsAfter (policy : Broker.ReconnectPolicy) (earlier : List PollResult) :
    List PollResult → List Deed
  | [] => []
  | result :: rest =>
    .polled result :: retryAfter policy (earlier ++ [result]) result ++
      deedsAfter policy (earlier ++ [result]) rest

/-- Every wait that the policy may ask for in incidents ends at an instant that can be told. -/
def WaitsFit (settings : ListenerSettings) (incidents : List Incident) : Prop :=
  ∀ now error attempt, Incident.act now (.polled (.returns (.error error))) ∈ incidents →
    attempt + 1 ≤ settings.reconnect.maxAttempts →
      now + settings.reconnect.backoff (attempt + 1) < instantLimit

theorem WaitsFit.tail {settings : ListenerSettings} {incident : Incident} {rest : List Incident}
    (h : WaitsFit settings (incident :: rest)) : WaitsFit settings rest :=
  fun now error attempt hmem ↦ h now error attempt (List.mem_cons_of_mem _ hmem)

section Histories

variable {settings : ListenerSettings} {state : Listening} {incident : Incident}
  {incidents : List Incident} {connections : List (Except FeedError Unit)}
  {results : List PollResult}

/-- Assumes: the waits that the policy may ask for fit. A failure that is tolerated is followed by
its wait in the same action, and everything else by nothing. -/
theorem Listener.Transition.deeds {listener next : Listener} {handoff shared : Handoff}
    {now : Instant} {reply : Reply}
    (htransition : Listener.Transition settings handoff now listener reply next shared)
    (hattempts : settings.reconnect.maxAttempts < failureLimit)
    (h : listener.Recounts settings.reconnect.maxAttempts connections results)
    (hfits : ∀ error attempt, reply = .polled (.returns (.error error)) →
      attempt + 1 ≤ settings.reconnect.maxAttempts →
        now + settings.reconnect.backoff (attempt + 1) < instantLimit) :
    (listener.returned reply).map .polled ++ listener.waitBegun next now =
      deedsAfter settings.reconnect results (listener.returned reply) := by
  cases htransition with
  | givesUp failures error hlast hcountable =>
    have hcounted : failures = failureStreak results := h.failures
    have hstreak : ¬ failureStreak (results ++ [.error error]) ≤
        settings.reconnect.maxAttempts := by
      rw [failureStreak_error]
      omega
    change [Deed.polled (.error error)] = .polled (.error error) :: (if _ then _ else _) ++ []
    rw [if_neg hstreak]
    rfl
  | retries failures error htolerated hfits =>
    have hstreak : failureStreak (results ++ [.error error]) = failures + 1 := by
      rw [failureStreak_error, ← h.failures]
    have hlength : now + settings.reconnect.backoff (failures + 1) - now =
        settings.reconnect.backoff (failures + 1) := Nat.add_sub_cancel_left _ _
    change [Deed.polled (.error error), .waits (_ - now)] =
      .polled (.error error) :: (if _ then _ else _) ++ []
    rw [hstreak, if_pos htolerated]
    exact congrArg (fun length ↦ [Deed.polled (.error error), .waits length]) hlength
  | outlasts failures error htolerated hlate =>
    exact absurd (hfits error failures rfl htolerated) (Nat.not_lt_of_le hlate)
  | overflows failures error huncountable =>
    obtain ⟨hfailures, -, hwithin⟩ := h
    have hcounted : failures = failureStreak results := hfailures
    have hbefore := hwithin.whole
    omega
  | breaks stage failures reply hasked hbreakdown =>
    rcases hasked with rfl | rfl | ⟨exit, rfl⟩
    · rfl
    · cases reply with
      | polled ending =>
        cases ending with
        | breaks => rfl
        | returns result => cases hbreakdown
      | _ => rfl
    · rfl
  | unheard stage failures reply hasked =>
    rcases hasked with ⟨rfl, hother⟩ | ⟨rfl, hother⟩
    · rfl
    · cases reply with
      | polled ending => exact absurd rfl (hother ending)
      | _ => rfl
  | stays _ _ hfinished =>
    rw [Listener.returned_of_isFinished hfinished]
    obtain ⟨stage, failures⟩ := listener
    cases stage with
    | polling => cases hfinished
    | _ => rfl
  | _ => rfl

@[simp]
theorem deedsAfter_append (policy : Broker.ReconnectPolicy)
    (earlier first second : List PollResult) :
    deedsAfter policy earlier (first ++ second) =
      deedsAfter policy earlier first ++ deedsAfter policy (earlier ++ first) second := by
  induction first generalizing earlier with
  | nil => rw [List.append_nil]; rfl
  | cons result rest ih =>
    change .polled result :: retryAfter policy _ result ++ deedsAfter policy _ (rest ++ second) = _
    rw [ih, List.append_assoc, List.singleton_append, ← List.append_assoc]
    rfl

/-- Assumes: the failures that the policy tolerates can be counted, and its waits fit. The deeds of
a history are those that the results of its polls lead to. -/
theorem Listening.gather_deeds (hattempts : settings.reconnect.maxAttempts < failureLimit)
    (hfits : WaitsFit settings incidents)
    (h : state.listener.Recounts settings.reconnect.maxAttempts connections results) :
    Listening.gather settings (Listening.deeds settings) state incidents =
      deedsAfter settings.reconnect results
        (Listening.gather settings Listening.returned state incidents) := by
  induction incidents generalizing state connections results with
  | nil => rfl
  | cons incident rest ih =>
    have hdeeds : state.deeds settings incident =
        deedsAfter settings.reconnect results (state.returned incident) := by
      cases incident with
      | act now reply =>
        refine (Listener.act_transition settings _ now _ reply).deeds hattempts h ?_
        rintro error attempt rfl
        exact hfits now error attempt (List.mem_cons_self ..)
      | _ => rfl
    unfold Listening.gather
    rw [deedsAfter_append, hdeeds, ih hfits.tail (Listening.step_recounts hattempts h)]

/-! ### A session that never comes back -/

/-- The length of a wait. -/
def Deed.length : Deed → Option Duration
  | .polled _ => none
  | .waits length => some length

/-- Failures that nothing interrupts are counted one by one. -/
theorem failureStreak_lost {lost : List PollResult}
    (hfailed : ∀ result ∈ lost, pollFailed result = true) :
    failureStreak (results ++ lost) = failureStreak results + lost.length := by
  induction lost generalizing results with
  | nil => rw [List.append_nil]; rfl
  | cons result rest ih =>
    have hrest : ∀ result ∈ rest, pollFailed result = true :=
      fun other hmem ↦ hfailed other (List.mem_cons_of_mem _ hmem)
    cases result with
    | ok event => exact absurd (hfailed _ (List.mem_cons_self ..)) Bool.false_ne_true
    | error error =>
      rw [← List.singleton_append, ← List.append_assoc, ih hrest, failureStreak_error,
        List.length_append, List.length_singleton]
      omega

/-- Assumes: the failures that nothing interrupts end with the one that is too many. Each of the
others is followed by the next wait of the policy. -/
theorem waits_of_lost (policy : Broker.ReconnectPolicy) {lost : List PollResult}
    (hfailed : ∀ result ∈ lost, pollFailed result = true) {streak : Nat}
    (hstreak : failureStreak results = streak)
    (hlast : streak + lost.length = policy.maxAttempts + 1) :
    (deedsAfter policy results lost).filterMap Deed.length =
      (List.range' (streak + 1) (lost.length - 1)).map policy.backoff := by
  induction lost generalizing results streak with
  | nil => rfl
  | cons result rest ih =>
    have hrest : ∀ result ∈ rest, pollFailed result = true :=
      fun other hmem ↦ hfailed other (List.mem_cons_of_mem _ hmem)
    cases result with
    | ok event => exact absurd (hfailed _ (List.mem_cons_self ..)) Bool.false_ne_true
    | error error =>
      have hnext : failureStreak (results ++ [.error error]) = streak + 1 := by
        rw [failureStreak_error, hstreak]
      rw [List.length_cons] at hlast
      have hlater := ih hrest hnext (by omega)
      unfold deedsAfter retryAfter
      dsimp only
      rw [hnext]
      cases rest with
      | nil =>
        rw [List.length_nil] at hlast
        rw [if_neg (by omega)]
        rfl
      | cons other more =>
        rw [List.length_cons] at hlast
        rw [if_pos (by omega), List.cons_append, List.filterMap_cons_none rfl,
          List.singleton_append, List.filterMap_cons_some (by rfl), hlater]
        rfl

/-- Assumes: the failures that the policy tolerates can be counted, and its waits fit. The listener
breaks down only where its source does. -/
theorem Listening.breakdown_of_broken (hattempts : settings.reconnect.maxAttempts < failureLimit)
    (hfits : WaitsFit settings incidents)
    (h : state.listener.Recounts settings.reconnect.maxAttempts connections results)
    (hbroken : (state.after settings incidents).listener.stage = .broken) :
    state.listener.stage = .broken ∨ ∃ incident ∈ incidents, incident.isBreakdown = true := by
  induction incidents generalizing state connections results with
  | nil => exact Or.inl hbroken
  | cons incident rest ih =>
    rcases ih hfits.tail (Listening.step_recounts hattempts h) hbroken with
      hafter | ⟨other, hmem, hbreakdown⟩
    · cases incident with
      | act now reply =>
        rcases (Listener.act_transition settings _ now _ reply).broken hafter with
          hbefore | hbreakdown | ⟨hpolling, huncountable⟩ | ⟨error, rfl, htolerated, hlate⟩
        · exact Or.inl hbefore
        · exact Or.inr ⟨_, List.mem_cons_self .., hbreakdown⟩
        · obtain ⟨hfailures, hstage⟩ := h
          rw [hpolling] at hstage
          have hwithin := hstage.2.whole
          omega
        · have hfit := hfits now error state.listener.failures (List.mem_cons_self ..) htolerated
          exact absurd hfit (Nat.not_lt_of_le hlate)
      | _ => exact Or.inl hafter
    · exact Or.inr ⟨other, List.mem_cons_of_mem _ hmem, hbreakdown⟩

end Histories

/-! ### The account -/

/-- Assumes: the failures that the policy tolerates can be counted, and its waits end at instants
that can be told. In every history of the listener, whatever its source replies, whenever the run
is cancelled, and whoever takes the messages, its failures are accounted for. -/
theorem Listening.reconnect_accounting (settings : ListenerSettings) (handoff : Handoff)
    (incidents : List Incident) (hattempts : settings.reconnect.maxAttempts < failureLimit)
    (hfits : WaitsFit settings incidents) :
    let start := Listening.new handoff
    let state := start.after settings incidents
    let results := start.gather settings Listening.returned incidents
    let policy := settings.reconnect
    -- the counter is the number of failures since the session was regained, and can be held
    (state.listener.failures = failureStreak results ∧
      state.listener.failures ≤ failureLimit) ∧
    -- each failure but one too many leads to its wait and to the next poll
    start.gather settings (Listening.deeds settings) incidents = deedsAfter policy [] results ∧
    (∀ wait, state.listener.stage = .waiting wait → state.handoff.cancelled = false →
      state.Waits settings wait) ∧
    -- one failure too many is the last result and the reason of the end, and nothing else is
    (∀ earlier error later, results = earlier ++ .error error :: later →
      policy.maxAttempts < failureStreak (earlier ++ [.error error]) →
        failureStreak results = policy.maxAttempts + 1 ∧ later = [] ∧
          (state.listener.stage ≠ .broken → state.EndsWith settings (.connectionLost error))) ∧
    (∀ error, state.listener.stage = .ended (.connectionLost error) →
      ∃ earlier, results = earlier ++ [.error error] ∧
        failureStreak results = policy.maxAttempts + 1) ∧
    -- a session that never comes back is tried again as often as the policy says
    (∀ error earlier lost, state.listener.stage = .ended (.connectionLost error) →
      results = earlier ++ lost → failureStreak earlier = 0 →
      (∀ result ∈ lost, pollFailed result = true) →
        lost.length = policy.maxAttempts + 1 ∧
          (deedsAfter policy earlier lost).filterMap Deed.length =
            (List.range' 1 policy.maxAttempts).map policy.backoff) ∧
    -- a cancellation that is seen decides the exit
    ((state.listener.stage = .checking ∨ ∃ wait, state.listener.stage = .waiting wait) →
      state.handoff.cancelled = true → state.EndsWith settings .cancelled) ∧
    -- the channel is found closed only where a message was refused
    (state.listener.stage = .ended .channelClosed →
      start.gather settings Listening.refused incidents ≠ []) ∧
    -- every other exit leaves the flag raised
    (∀ exit, state.listener.stage = .ended exit → exit ≠ .channelClosed →
      state.handoff.cancelled = true) ∧
    -- and only the source breaks down
    (state.listener.stage = .broken → ∃ incident ∈ incidents, incident.isBreakdown = true) := by
  intro start state results policy
  have haccount := Listening.recounts hattempts handoff incidents
  have hlost : ∀ error, state.listener.stage = .ended (.connectionLost error) →
      ∃ earlier, results = earlier ++ [.error error] ∧
        failureStreak results = policy.maxAttempts + 1 := by
    intro error hended
    obtain ⟨-, hstreak, before, hbefore, -⟩ :=
      haccount.follows (Listener.leaving_of_ended hended)
    exact ⟨before, hbefore, hstreak⟩
  refine ⟨⟨haccount.failures, ?_⟩, ?_, ?_, ?_, hlost, ?_, ?_, ?_, ?_, ?_⟩
  · have hcounted := haccount.failures
    have hstreak := haccount.before_last.le_succ
    exact (hcounted.trans_le hstreak).trans hattempts
  · exact Listening.gather_deeds hattempts hfits (Listener.recounts_start _)
  · intro wait hwaiting hclear
    exact Listening.waits_of_waiting hwaiting hclear
  · intro earlier error later hresults hbeyond
    obtain rfl : later = [] := haccount.before_last.beyond_last hresults hbeyond
    have hstreak : failureStreak results = policy.maxAttempts + 1 := by
      have hmost : failureStreak results ≤ policy.maxAttempts + 1 := haccount.before_last.le_succ
      rw [← hresults] at hbeyond
      omega
    exact ⟨hstreak, rfl, Listening.endsWith_connectionLost haccount hresults hstreak⟩
  · intro error earlier lost hended hresults hearlier hfailed
    obtain ⟨-, -, hstreak⟩ := hlost error hended
    rw [hresults, failureStreak_lost hfailed, hearlier, Nat.zero_add] at hstreak
    refine ⟨hstreak, ?_⟩
    rw [waits_of_lost policy hfailed hearlier (by omega), hstreak]
    rfl
  · exact Listening.endsWith_cancelled
  · intro hended
    rcases Listening.refused_of_channelClosed (Listener.leaving_of_ended hended) with
      hstart | hrefused
    · cases hstart
    · exact hrefused
  · intro exit hended hexit
    have hraised : state.listener.LeavesRaised state.handoff :=
      Listening.after_leavesRaised trivial
    unfold Listener.LeavesRaised at hraised
    rw [hended] at hraised
    exact hraised hexit
  · intro hbroken
    rcases Listening.breakdown_of_broken hattempts hfits (Listener.recounts_start _) hbroken with
      hstart | hbreakdown
    · cases hstart
    · exact hbreakdown

/-- Settings that let a dropped session be tried again once, after half a second. -/
def retryOnce : ListenerSettings :=
  { ListenerSettings.standard with
    reconnect := { Broker.ReconnectPolicy.standard with maxAttempts := 1 } }

/-- A session that drops right away and is not regained, with a message before the second
failure. -/
def Incident.lostSession : List Incident :=
  [.act 0 (.connected (.ok ())), .act 0 .nothing,
    .act 0 (.polled (.returns (.error (.disconnected "reset")))),
    .act (milliseconds 100) .nothing, .act (milliseconds 500) .nothing,
    .act (milliseconds 500) .nothing,
    .act (milliseconds 600) (.polled (.returns (.ok (some (.payload [0x7B]))))),
    .act (milliseconds 600) .nothing, .act (milliseconds 600) .nothing,
    .act (milliseconds 700) (.polled (.returns (.error (.disconnected "refused")))),
    .act (milliseconds 700) .nothing, .act (milliseconds 700) .nothing]

theorem Incident.waitsFit_lostSession : WaitsFit retryOnce Incident.lostSession := by
  intro now error attempt hmem htolerated
  obtain rfl : attempt = 0 := Nat.le_zero.mp (Nat.le_of_succ_le_succ htolerated)
  have htime : now ≤ milliseconds 700 := by
    simp only [Incident.lostSession, List.mem_cons, Incident.act.injEq, Reply.polled.injEq,
      PollEnd.returns.injEq, reduceCtorEq, and_false, false_or, List.not_mem_nil, or_false] at hmem
    rcases hmem with ⟨rfl, -⟩ | ⟨rfl, -⟩ <;> decide
  have hroom : milliseconds 700 + retryOnce.reconnect.backoff (0 + 1) < instantLimit := by decide
  exact (Nat.add_le_add_right htime _).trans_lt hroom

/-- The message does not help: the listener waits once, and the second failure is its end. -/
theorem Listening.reconnect_accounting_lostSession :
    let start := Listening.new .new
    let state := start.after retryOnce Incident.lostSession
    retryOnce.reconnect.maxAttempts < failureLimit ∧ WaitsFit retryOnce Incident.lostSession ∧
      state.listener.stage = .ended (.connectionLost (.disconnected "refused")) ∧
      state.handoff.cancelled = true ∧
      start.gather retryOnce (Listening.deeds retryOnce) Incident.lostSession =
        [.polled (.error (.disconnected "reset")), .waits (milliseconds 500),
          .polled (.ok (some (.payload [0x7B]))), .polled (.error (.disconnected "refused"))] := by
  have hattempts : retryOnce.reconnect.maxAttempts < failureLimit := by decide
  obtain ⟨-, hdeeds, -, -, -, -, -, -, hraised, -⟩ :=
    Listening.reconnect_accounting retryOnce .new Incident.lostSession hattempts
      Incident.waitsFit_lostSession
  exact ⟨hattempts, Incident.waitsFit_lostSession, rfl, hraised _ rfl ListenerExit.noConfusion,
    hdeeds.trans rfl⟩

end LiveBoard.Feed
