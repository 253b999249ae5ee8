import LiveBoard.Feed.Script
import LiveBoard.Proofs.Feed.Exchanges

/-!
# The call protocol

Every action of the listener and every question to its source keeps to the story that
`Stage.Course` tells (`Workplace.Keeps.step`), and so does every history. Hence
`Workplace.call_protocol`: for all sources and all histories, a source is connected first and once,
polled with the same timeout, and closed once and last; and every message that it returns is sent
unread before the next poll, but for the one that nobody takes.
-/

set_option autoImplicit false
set_option relaxedAutoImplicit false

namespace LiveBoard.Feed

/-! ### Steps -/

/-- The reply that an action waits for, if the source is asked at its stage. -/
def Stage.awaits (reply : Reply) : Stage → Option Reply
  | .connecting => some reply
  | .polling => some reply
  | .closing _ => some reply
  | _ => none

theorem Stage.awaits_nothing (stage : Stage) :
    stage.awaits .nothing = some .nothing ∨ stage.awaits .nothing = none := by
  cases stage with
  | connecting => exact Or.inl rfl
  | polling => exact Or.inl rfl
  | closing exit => exact Or.inl rfl
  | _ => exact Or.inr rfl

section Steps

variable {settings : ListenerSettings} {trace : List Exchange}

/-- What an action sends or cannot send. -/
def Listener.delivery (listener : Listener) (handoff : Handoff) : List Exchange :=
  (listener.enqueued handoff).map .sent ++ (listener.refused handoff).map .refused

theorem Listener.delivery_of_held {listener : Listener} (hheld : listener.held = [])
    (handoff : Handoff) : listener.delivery handoff = [] := by
  obtain ⟨stage, failures⟩ := listener
  cases stage with
  | sending payload => cases hheld
  | _ => rfl

theorem Listener.delivery_of_receiving {handoff : Handoff} (failures : Nat) (payload : Payload)
    (hreceiving : handoff.receiving = true) :
    Listener.delivery ⟨.sending payload, failures⟩ handoff = [.sent payload] := by
  unfold Listener.delivery Listener.enqueued Listener.refused
  dsimp only
  rw [hreceiving]
  rfl

theorem Listener.delivery_of_gone {handoff : Handoff} (failures : Nat) (payload : Payload)
    (hgone : handoff.receiving = false) :
    Listener.delivery ⟨.sending payload, failures⟩ handoff = [.refused payload] := by
  unfold Listener.delivery Listener.enqueued Listener.refused
  dsimp only
  rw [hgone]
  rfl

/-- Assumes: the listener acts on the reply that it waits for, if it asks its source. Every action
keeps to the story. -/
theorem Listener.Transition.course {listener next : Listener} {handoff shared : Handoff}
    {now : Instant} {reply : Reply}
    (htransition : Listener.Transition settings handoff now listener reply next shared)
    (h : listener.stage.Course settings.pollInterval (listener.stage.awaits reply) trace) :
    next.stage.Course settings.pollInterval none (trace ++ listener.delivery handoff) := by
  have hquiet : listener.held = [] → trace ++ listener.delivery handoff = trace := by
    intro hheld
    rw [Listener.delivery_of_held hheld, List.append_nil]
  cases htransition with
  | sends failures payload reply hreceiving =>
    rw [Listener.delivery_of_receiving failures payload hreceiving]
    cases h with
    | holds results _ =>
      rw [← roundsOf_payload]
      exact .checks _
  | refuses failures payload reply hgone =>
    rw [Listener.delivery_of_gone failures payload hgone]
    cases h with
    | holds results _ =>
      rw [List.append_assoc]
      exact .leaves _ _ (.channelClosed results payload)
  | connects failures =>
    rw [hquiet rfl]
    cases h with
    | connects _ => exact .checks []
  | connectFails failures error =>
    rw [hquiet rfl]
    cases h with
    | connects _ => exact .unconnected error
  | goesOn failures reply hclear =>
    rw [hquiet rfl]
    cases h with
    | checks results => exact .asks results
  | notices failures reply hcancelled =>
    rw [hquiet rfl]
    cases h with
    | checks results => exact .leaves _ _ (.cancelled results)
  | pollsNothing failures =>
    rw [hquiet rfl]
    obtain ⟨earlier, rfl⟩ := Stage.Course.polled h rfl
    exact .checks _
  | pollsMessage failures payload =>
    rw [hquiet rfl]
    cases h with
    | polls results _ => exact .holds results payload
  | pollsRegained failures =>
    rw [hquiet rfl]
    obtain ⟨earlier, rfl⟩ := Stage.Course.polled h rfl
    exact .checks _
  | givesUp failures error hlast hcountable =>
    rw [hquiet rfl]
    obtain ⟨earlier, rfl⟩ := Stage.Course.polled h rfl
    exact .raises earlier error
  | retries failures error htolerated hfits =>
    rw [hquiet rfl]
    obtain ⟨earlier, rfl⟩ := Stage.Course.polled h rfl
    exact .waits _ _
  | outlasts failures error htolerated hlate =>
    rw [hquiet rfl]
    obtain ⟨earlier, rfl⟩ := Stage.Course.polled h rfl
    exact .fails earlier error
  | overflows failures error huncountable =>
    rw [hquiet rfl]
    obtain ⟨earlier, rfl⟩ := Stage.Course.polled h rfl
    exact .fails earlier error
  | waitNotices failures wait reply hcancelled =>
    rw [hquiet rfl]
    cases h with
    | waits results _ => exact .leaves _ _ (.cancelled results)
  | waitEnds failures wait reply hclear hover =>
    rw [hquiet rfl]
    cases h with
    | waits results _ => exact .checks results
  | sleeps failures wait reply hclear hearly =>
    rw [hquiet rfl]
    exact h
  | raisesUnconnected failures error reply =>
    rw [hquiet rfl]
    cases h with
    | unconnected _ => exact .ends _ _ (.unconnected error)
  | raises failures exit reply hconnected =>
    rw [hquiet rfl]
    cases h with
    | unconnected error => exact absurd rfl (hconnected error)
    | raises results error => exact .leaves _ _ (.connectionLost results error)
  | closes failures exit reply hsteady =>
    rw [hquiet rfl]
    cases h with
    | closes _ talk htalk => exact .ends _ _ (.closed _ _ htalk)
  | breaks stage failures reply hasked hbreakdown =>
    rcases hasked with rfl | rfl | ⟨exit, rfl⟩
    · cases h with
      | connects result => cases hbreakdown
    · rw [hquiet rfl]
      cases h with
      | polls results ending =>
        cases ending with
        | breaks => exact .breaks results
        | returns result => cases hbreakdown
    · cases h with
      | closes _ talk htalk => cases hbreakdown
  | unheard stage failures reply hasked =>
    rcases hasked with ⟨rfl, hother⟩ | ⟨rfl, hother⟩
    · cases h with
      | connects result => exact absurd rfl (hother result)
    · cases h with
      | polls results ending => exact absurd rfl (hother ending)
  | stays _ _ hfinished =>
    rw [hquiet (Listener.held_of_isFinished hfinished)]
    obtain ⟨stage, failures⟩ := listener
    cases stage with
    | ended exit => exact h
    | broken => exact h
    | _ => cases hfinished

theorem Stage.Course.awaits_of_some {interval : Duration} {stage : Stage} {reply : Reply}
    (h : stage.Course interval (some reply) trace) : stage.awaits reply = some reply := by
  cases h <;> rfl

section Workplaces

variable {σ : Type} {kind : Source σ} {state : Workplace σ} {now : Instant}

/-- The listener keeps to the story. -/
def Workplace.Keeps (settings : ListenerSettings) (state : Workplace σ) : Prop :=
  state.worker.listener.stage.Course settings.pollInterval state.worker.reply state.trace

theorem Workplace.keeps_new (source : σ) (now : Instant) (handoff : Handoff) :
    (Workplace.new source now handoff).Keeps settings := .starts

/-- What is put into the queue in an action is what the listener sends. -/
theorem Workplace.sends_act (now : Instant) (reply : Reply) :
    state.sends (state.worker.listener.act settings state.handoff now reply).2.queue (.step now) =
      state.worker.listener.delivery state.handoff := by
  unfold Workplace.sends Listener.delivery
  dsimp only
  rw [Listener.act_queue, List.drop_left]

/-- An action on a reply that was awaited keeps to the story. -/
theorem Workplace.keeps_perform {reply : Reply}
    (h : state.worker.listener.stage.Course settings.pollInterval
      (state.worker.listener.stage.awaits reply) state.trace)
    (hperforms : state.worker.step kind.noting settings state.handoff now =
      state.worker.perform settings state.handoff now reply) :
    (state.step kind settings (.step now)).Keeps settings := by
  have hcourse := (Listener.act_transition settings state.handoff now _ reply).course h
  rw [← Workplace.sends_act now reply] at hcourse
  unfold Workplace.step Happening.apply
  dsimp only
  rw [hperforms]
  exact hcourse

/-- Nothing is sent where no message is held and nothing is put into the queue. -/
theorem Workplace.sends_of_held {queue : List Payload}
    (hheld : state.worker.listener.held = [])
    (hqueue : queue.length ≤ state.handoff.queue.length) : state.sends queue (.step now) = [] := by
  have hrefused : state.worker.listener.refused state.handoff = [] :=
    List.map_eq_nil_iff.mp
      (List.append_eq_nil_iff.mp (Listener.delivery_of_held hheld state.handoff)).2
  unfold Workplace.sends
  dsimp only
  rw [List.drop_eq_nil_of_le hqueue, hrefused]
  rfl

theorem Turn.begin_queue_le (turn : Turn) (handoff : Handoff) :
    (turn.begin handoff).queue.length ≤ handoff.queue.length := by
  unfold Turn.begin
  cases turn.closesChannel with
  | true => exact Nat.zero_le _
  | false => cases turn.cancels <;> exact Nat.le_refl _

theorem Turn.begin_cancelled (turn : Turn) (handoff : Handoff)
    (hcancelled : handoff.cancelled = true) : (turn.begin handoff).cancelled = true := by
  unfold Turn.begin
  cases turn.closesChannel <;> cases turn.cancels <;> first | exact hcancelled | rfl

/-- A source that is asked keeps to the story. -/
theorem Workplace.keeps_ask (hreply : state.worker.reply = none)
    (hasks : state.worker.listener.stage.awaits .nothing = some .nothing)
    (h : state.Keeps settings) : (state.step kind settings (.step now)).Keeps settings := by
  obtain ⟨⟨⟨stage, failures⟩, ⟨source, trace⟩, ready, reply, taken, log⟩, handoff⟩ := state
  obtain rfl : reply = none := hreply
  cases stage with
  | connecting =>
    cases h with
    | starts =>
      change Stage.Course _ .connecting _ ([] ++ [_] ++ Workplace.sends _ handoff.queue _)
      rw [Workplace.sends_of_held rfl (Nat.le_refl _), List.append_nil]
      exact .connects _
  | polling =>
    cases h with
    | asks results =>
      change Stage.Course _ .polling _
        (_ ++ [_] ++ Workplace.sends _ (Turn.begin _ handoff).queue _)
      rw [Workplace.sends_of_held rfl (Turn.begin_queue_le _ _), List.append_nil]
      exact .polls results _
  | closing exit =>
    cases h with
    | leaves _ talk htalk =>
      change Stage.Course _ (.closing exit) _ (trace ++ [_] ++ Workplace.sends _ handoff.queue _)
      rw [Workplace.sends_of_held rfl (Nat.le_refl _), List.append_nil]
      exact .closes exit trace htalk
  | _ => cases hasks

theorem Worker.ask_of_awaits {σ : Type} {kind : Source σ} {worker : Worker σ}
    {handoff : Handoff} {now : Instant} (hawaits : worker.listener.stage.awaits .nothing = none) :
    worker.ask kind settings handoff now = none := by
  unfold Worker.ask
  cases hstage : worker.listener.stage with
  | connecting =>
    rw [hstage] at hawaits
    cases hawaits
  | polling =>
    rw [hstage] at hawaits
    cases hawaits
  | closing exit =>
    rw [hstage] at hawaits
    cases hawaits
  | _ => rfl

theorem Workplace.Keeps.step (h : state.Keeps settings) (happening : Happening) :
    (state.step kind settings happening).Keeps settings := by
  cases happening with
  | step now =>
    cases hreply : state.worker.reply with
    | some reply =>
      have hcourse := h
      unfold Workplace.Keeps at hcourse
      rw [hreply] at hcourse
      rw [← hcourse.awaits_of_some] at hcourse
      refine Workplace.keeps_perform hcourse ?_
      unfold Worker.step
      rw [hreply]
    | none =>
      rcases state.worker.listener.stage.awaits_nothing with hasks | hsilent
      · exact Workplace.keeps_ask hreply hasks h
      · have hcourse := h
        unfold Workplace.Keeps at hcourse
        rw [hreply, ← hsilent] at hcourse
        refine Workplace.keeps_perform hcourse ?_
        unfold Worker.step
        rw [hreply, Worker.ask_of_awaits hsilent]
        rfl
  | _ =>
    change Stage.Course _ _ _ (state.trace ++ [])
    rw [List.append_nil]
    exact h

/-- Every history keeps to the story. -/
theorem Workplace.Keeps.after (h : state.Keeps settings) (happenings : List Happening) :
    (state.after kind settings happenings).Keeps settings := by
  induction happenings generalizing state with
  | nil => exact h
  | cons happening rest ih => exact ih (h.step happening)

theorem Workplace.trace_step (kind : Source σ) (settings : ListenerSettings)
    (state : Workplace σ) (happening : Happening) :
    state.trace <+: (state.step kind settings happening).trace := by
  obtain ⟨⟨⟨stage, failures⟩, ⟨source, trace⟩, ready, reply, taken, log⟩, handoff⟩ := state
  cases happening with
  | step now =>
    cases reply with
    | some reply => exact List.prefix_append _ _
    | none =>
      cases stage with
      | connecting => exact (List.prefix_append trace [_]).trans (List.prefix_append _ _)
      | polling => exact (List.prefix_append trace [_]).trans (List.prefix_append _ _)
      | closing exit => exact (List.prefix_append trace [_]).trans (List.prefix_append _ _)
      | _ => exact List.prefix_append _ _
  | _ => exact List.prefix_append _ _

theorem Workplace.trace_after (kind : Source σ) (settings : ListenerSettings)
    (state : Workplace σ) (happenings : List Happening) :
    state.trace <+: (state.after kind settings happenings).trace := by
  induction happenings generalizing state with
  | nil => exact List.prefix_refl _
  | cons happening rest ih =>
    exact (Workplace.trace_step kind settings state happening).trans (ih _)

/-- The first step connects the source. -/
theorem Workplace.connects_first (source : σ) (start : Instant) (handoff : Handoff)
    (happenings : List Happening) (hsteps : ∃ now, .step now ∈ happenings) :
    ∃ result later, ((Workplace.new source start handoff).after kind settings happenings).trace =
      .connect result :: later := by
  obtain ⟨now, hmem⟩ := hsteps
  induction happenings generalizing handoff with
  | nil => cases hmem
  | cons happening rest ih =>
    cases happening with
    | step time =>
      obtain ⟨later, hlater⟩ := Workplace.trace_after kind settings
        ((Workplace.new source start handoff).step kind settings (.step time)) rest
      exact ⟨_, _, hlater.symm⟩
    | cancel => exact ih handoff.cancel (List.mem_of_ne_of_mem Happening.noConfusion hmem)
    | take => exact ih handoff.take (List.mem_of_ne_of_mem Happening.noConfusion hmem)
    | hangUp => exact ih handoff.hangUp (List.mem_of_ne_of_mem Happening.noConfusion hmem)

/-- A step is an action, or it asks the source, in which the listener stays what it is. -/
theorem Worker.step_cases (kind : Source σ) (settings : ListenerSettings) (worker : Worker σ)
    (handoff : Handoff) (now : Instant) :
    (∃ reply, worker.step kind settings handoff now = worker.perform settings handoff now reply) ∨
      ((worker.step kind settings handoff now).1.listener = worker.listener ∧
        (handoff.cancelled = true →
          (worker.step kind settings handoff now).2.cancelled = true)) := by
  obtain ⟨⟨stage, failures⟩, source, ready, reply, taken, log⟩ := worker
  cases reply with
  | some reply => exact Or.inl ⟨reply, rfl⟩
  | none =>
    cases stage with
    | connecting => exact Or.inr ⟨rfl, id⟩
    | polling => exact Or.inr ⟨rfl, Turn.begin_cancelled _ handoff⟩
    | closing exit => exact Or.inr ⟨rfl, id⟩
    | _ => exact Or.inl ⟨.nothing, rfl⟩

/-- What the listener leaves of the flag, it leaves at work as well. -/
theorem Workplace.step_leavesRaised
    (h : state.worker.listener.LeavesRaised state.handoff) (happening : Happening) :
    (state.step kind settings happening).worker.listener.LeavesRaised
      (state.step kind settings happening).handoff := by
  cases happening with
  | step now =>
    change (state.worker.step kind.noting settings state.handoff now).1.listener.LeavesRaised
      (state.worker.step kind.noting settings state.handoff now).2
    rcases Worker.step_cases kind.noting settings state.worker state.handoff now with
      ⟨reply, hperforms⟩ | ⟨hlistener, hcancelled⟩
    · rw [hperforms]
      exact (Listener.act_transition settings state.handoff now _ reply).leavesRaised h
    · rw [hlistener]
      exact h.mono hcancelled
  | cancel => exact h.mono fun _ ↦ rfl
  | take => exact h
  | hangUp => exact h

theorem Workplace.after_leavesRaised (h : state.worker.listener.LeavesRaised state.handoff)
    (happenings : List Happening) :
    (state.after kind settings happenings).worker.listener.LeavesRaised
      (state.after kind settings happenings).handoff := by
  induction happenings generalizing state with
  | nil => exact h
  | cons happening rest ih => exact ih (Workplace.step_leavesRaised h happening)

end Workplaces

end Steps

/-! ### The protocol -/

/-- For every kind of source and in every history, whatever the source answers, whenever the run is
cancelled and whoever takes the messages: the source is connected first and once, and the rest of
what is exchanged keeps to the course of an exit. -/
theorem Workplace.call_protocol {σ : Type} (kind : Source σ) (settings : ListenerSettings)
    (source : σ) (start : Instant) (handoff : Handoff) (happenings : List Happening) :
    let state := (Workplace.new source start handoff).after kind settings happenings
    -- the notes change nothing
    (state.worker.forget, state.handoff) =
      happenings.foldl (Happening.apply kind settings) (Worker.start source start, handoff) ∧
    -- the first step connects
    ((∃ now, .step now ∈ happenings) →
      ∃ result later, state.trace = .connect result :: later) ∧
    -- what was exchanged can become the course of an exit, unless a poll broke down
    ((∃ exit course, ListenerExit.Course settings.pollInterval exit course ∧
        state.trace <+: course) ∨
      ∃ results, state.trace =
        roundsOf settings.pollInterval results ++ [.poll settings.pollInterval .breaks]) ∧
    -- a listener that has ended has completed the course of its exit
    (∀ exit, state.worker.listener.stage = .ended exit →
      exit.Course settings.pollInterval state.trace ∧
        state.trace.filterMap Exchange.sent? ++ state.trace.filterMap Exchange.refused? =
          state.trace.filterMap Exchange.polled?) ∧
    -- and has cancelled the run if the source was not connected
    (∀ error, state.worker.listener.stage = .ended (.connectFailed error) →
      state.handoff.cancelled = true) := by
  intro state
  have hkeeps : state.Keeps settings := (Workplace.keeps_new source start handoff).after happenings
  refine ⟨Workplace.forget_after kind settings _ happenings,
    Workplace.connects_first source start handoff happenings, hkeeps.extends, ?_, ?_⟩
  · intro exit hended
    have hcourse : exit.Course settings.pollInterval state.trace := by
      unfold Workplace.Keeps at hkeeps
      rw [hended] at hkeeps
      exact ListenerExit.course_of_ended hkeeps
    exact ⟨hcourse, hcourse.sent_eq⟩
  · intro error hended
    have hstart : (Workplace.new source start handoff).worker.listener.LeavesRaised handoff :=
      trivial
    have hraised : state.worker.listener.LeavesRaised state.handoff :=
      Workplace.after_leavesRaised hstart happenings
    unfold Listener.LeavesRaised at hraised
    rw [hended] at hraised
    exact hraised ListenerExit.noConfusion

/-- A script that has two messages. -/
def Script.twoMessages : Script :=
  ⟨.ok (), [⟨"first", quietTurn (.returns (.ok (some (.payload [0x31])))), false⟩,
    ⟨"second", quietTurn (.returns (.ok (some (.payload [0x32])))), false⟩], #[], false⟩

/-- The receiver goes away before the second message is sent, which is then the one refused. -/
theorem Workplace.call_protocol_refused :
    let happenings := List.replicate 9 (.step 0) ++ [.hangUp, .step 0, .step 0, .step 0]
    let state := (Workplace.new Script.twoMessages 0 .new).after Script.source .standard happenings
    state.worker.listener.stage = .ended .channelClosed ∧
      ListenerExit.channelClosed.Course ListenerSettings.standard.pollInterval state.trace ∧
      state.trace.filterMap Exchange.sent? = [[0x31]] ∧
      state.trace.filterMap Exchange.sent? ++ state.trace.filterMap Exchange.refused? =
        [[0x31], [0x32]] := by
  intro happenings state
  have hended : state.worker.listener.stage = .ended .channelClosed := rfl
  obtain ⟨-, -, -, hcourse, -⟩ :=
    Workplace.call_protocol Script.source .standard Script.twoMessages 0 .new happenings
  obtain ⟨hchannelClosed, hsent⟩ := hcourse _ hended
  exact ⟨hended, hchannelClosed, rfl, hsent.trans rfl⟩

end LiveBoard.Feed
