import LiveBoard.Feed.Worker
import LiveBoard.Proofs.Feed.Listening

/-!
# What the listener exchanges

What the listener exchanges with its source, and with whoever takes its messages, is noted in the
order in which it happens (`Exchange`). `Source.noting` notes the calls of any source, and a
`Workplace` notes what a step puts into the queue or cannot send; the notes change nothing
(`Workplace.forget_after`).

The notes are to tell one story. The source is connected first. If this fails, nothing else happens.
Otherwise there are rounds of a poll and the message that it returned, and then the source is closed
(`ListenerExit.Course`). `Stage.Course` says how far the listener has come at each stage.
-/

set_option autoImplicit false
set_option relaxedAutoImplicit false

namespace LiveBoard.Feed

/-! ### Notes -/

/-- What the listener exchanges with others. -/
inductive Exchange
  /-- The source was connected, with a result. -/
  | connect (result : Except FeedError Unit)
  /-- The source was polled with a timeout, and the poll ended. -/
  | poll (timeout : Duration) (ending : PollEnd)
  /-- A message was sent. -/
  | sent (payload : Payload)
  /-- Nobody took a message. -/
  | refused (payload : Payload)
  /-- The source was closed. -/
  | close

/-- The message that was sent. -/
def Exchange.sent? : Exchange → Option Payload
  | .sent payload => some payload
  | _ => none

/-- The message that nobody took. -/
def Exchange.refused? : Exchange → Option Payload
  | .refused payload => some payload
  | _ => none

/-- The message that a poll returned. -/
def Exchange.polled? : Exchange → Option Payload
  | .poll _ (.returns (.ok (some (.payload payload)))) => some payload
  | _ => none

/-- The same kind of source, with a note of each call. -/
def Source.noting {σ : Type} (kind : Source σ) : Source (σ × List Exchange) where
  connect noted now :=
    let (call, source) := kind.connect noted.1 now
    (call, source, noted.2 ++ [.connect call.result])
  poll noted context :=
    let (turn, source) := kind.poll noted.1 context
    (turn, source, noted.2 ++ [.poll context.timeout turn.ending])
  close noted now :=
    let (call, source) := kind.close noted.1 now
    (call, source, noted.2 ++ [.close])

/-- The worker with more notes. -/
def Worker.note {σ : Type} (worker : Worker (σ × List Exchange)) (exchanges : List Exchange) :
    Worker (σ × List Exchange) :=
  { worker with source := (worker.source.1, worker.source.2 ++ exchanges) }

/-- The worker without the notes. -/
def Worker.forget {σ : Type} (worker : Worker (σ × List Exchange)) : Worker σ :=
  ⟨worker.listener, worker.source.1, worker.ready, worker.reply, worker.taken, worker.log⟩

/-- What may happen to a worker. -/
inductive Happening
  /-- It takes its next step at a time. -/
  | step (now : Instant)
  /-- Somebody cancels the run. -/
  | cancel
  /-- The oldest message is taken. -/
  | take
  /-- Nobody takes messages any more. -/
  | hangUp

/-- What a happening does to a worker and to what it shares. -/
def Happening.apply {σ : Type} (kind : Source σ) (settings : ListenerSettings)
    (state : Worker σ × Handoff) : Happening → Worker σ × Handoff
  | .step now => state.1.step kind settings state.2 now
  | .cancel => (state.1, state.2.cancel)
  | .take => (state.1, state.2.take)
  | .hangUp => (state.1, state.2.hangUp)

/-- A worker that takes notes, with what it shares. -/
structure Workplace (σ : Type) where
  worker : Worker (σ × List Exchange)
  handoff : Handoff

/-- A worker before its first step, whatever others have done to the queue and the flag. -/
def Workplace.new {σ : Type} (source : σ) (now : Instant) (handoff : Handoff) : Workplace σ :=
  ⟨Worker.start (source, []) now, handoff⟩

/-- The notes so far. -/
def Workplace.trace {σ : Type} (state : Workplace σ) : List Exchange := state.worker.source.2

/-- What a step sends or cannot send, where the queue is known after it. -/
def Workplace.sends {σ : Type} (state : Workplace σ) (queue : List Payload) :
    Happening → List Exchange
  | .step _ =>
    (queue.drop state.handoff.queue.length).map .sent ++
      (state.worker.listener.refused state.handoff).map .refused
  | _ => []

/-- The workplace after a happening. -/
def Workplace.step {σ : Type} (kind : Source σ) (settings : ListenerSettings)
    (state : Workplace σ) (happening : Happening) : Workplace σ :=
  let (worker, handoff) := happening.apply kind.noting settings (state.worker, state.handoff)
  ⟨worker.note (state.sends handoff.queue happening), handoff⟩

/-- The workplace after happenings. -/
def Workplace.after {σ : Type} (kind : Source σ) (settings : ListenerSettings)
    (state : Workplace σ) (happenings : List Happening) : Workplace σ :=
  happenings.foldl (Workplace.step kind settings) state

section Forgetting

variable {σ : Type} (kind : Source σ) (settings : ListenerSettings)

theorem Worker.forget_step (worker : Worker (σ × List Exchange)) (handoff : Handoff)
    (now : Instant) :
    ((worker.step kind.noting settings handoff now).1.forget,
        (worker.step kind.noting settings handoff now).2) =
      worker.forget.step kind settings handoff now := by
  obtain ⟨⟨stage, failures⟩, source, ready, reply, taken, log⟩ := worker
  cases reply with
  | some reply => rfl
  | none => cases stage <;> rfl

theorem Workplace.forget_step (state : Workplace σ) (happening : Happening) :
    ((state.step kind settings happening).worker.forget,
        (state.step kind settings happening).handoff) =
      happening.apply kind settings (state.worker.forget, state.handoff) := by
  cases happening with
  | step now => exact Worker.forget_step kind settings state.worker state.handoff now
  | _ => rfl

/-- The notes change nothing. -/
theorem Workplace.forget_after (state : Workplace σ) (happenings : List Happening) :
    ((state.after kind settings happenings).worker.forget,
        (state.after kind settings happenings).handoff) =
      happenings.foldl (Happening.apply kind settings) (state.worker.forget, state.handoff) := by
  induction happenings generalizing state with
  | nil => rfl
  | cons happening rest ih =>
    rw [List.foldl_cons, ← Workplace.forget_step]
    exact ih _

end Forgetting

/-! ### The story -/

/-- A poll, and the message that it returned being sent. -/
def roundOf (interval : Duration) (result : PollResult) : List Exchange :=
  .poll interval (.returns result) :: (payloadsOf [result]).map .sent

/-- A connection and rounds with the results of polls. -/
def roundsOf (interval : Duration) (results : List PollResult) : List Exchange :=
  .connect (.ok ()) :: results.flatMap (roundOf interval)

/-- What is exchanged before a listener with an exit closes its source. -/
inductive ListenerExit.Talk (interval : Duration) : ListenerExit → List Exchange → Prop
  /-- The run was cancelled after some rounds. -/
  | cancelled (results : List PollResult) : Talk interval .cancelled (roundsOf interval results)
  /-- The last of the rounds failed. -/
  | connectionLost (results : List PollResult) (error : FeedError) :
    Talk interval (.connectionLost error) (roundsOf interval (results ++ [.error error]))
  /-- After some rounds a poll returned a message that nobody took. -/
  | channelClosed (results : List PollResult) (payload : Payload) :
    Talk interval .channelClosed
      (roundsOf interval results ++
        [.poll interval (.returns (.ok (some (.payload payload)))), .refused payload])

/-- All that is exchanged by a listener with an exit. -/
inductive ListenerExit.Course (interval : Duration) : ListenerExit → List Exchange → Prop
  /-- The source was not connected, and that is all. -/
  | unconnected (error : FeedError) :
    Course interval (.connectFailed error) [.connect (.error error)]
  /-- The source was connected, and closed in the end. -/
  | closed (exit : ListenerExit) (talk : List Exchange) (htalk : exit.Talk interval talk) :
    Course interval exit (talk ++ [.close])

/-- What was exchanged where the listener is at a stage, and a reply may have been given already. -/
inductive Stage.Course (interval : Duration) : Stage → Option Reply → List Exchange → Prop
  /-- Nothing happened. -/
  | starts : Course interval .connecting none []
  /-- The source was connected. -/
  | connects (result : Except FeedError Unit) :
    Course interval .connecting (some (.connected result)) [.connect result]
  /-- The failed connection is about to cancel the run. -/
  | unconnected (error : FeedError) :
    Course interval (.raising (.connectFailed error)) none [.connect (.error error)]
  /-- The rounds are complete before a look at the flag. -/
  | checks (results : List PollResult) :
    Course interval .checking none (roundsOf interval results)
  /-- The rounds are complete before a poll. -/
  | asks (results : List PollResult) : Course interval .polling none (roundsOf interval results)
  /-- A poll has ended. -/
  | polls (results : List PollResult) (ending : PollEnd) :
    Course interval .polling (some (.polled ending))
      (roundsOf interval results ++ [.poll interval ending])
  /-- A poll returned a message that is not sent yet. -/
  | holds (results : List PollResult) (payload : Payload) :
    Course interval (.sending payload) none
      (roundsOf interval results ++ [.poll interval (.returns (.ok (some (.payload payload))))])
  /-- The rounds are complete in a wait. -/
  | waits (results : List PollResult) (wait : BackoffWait) :
    Course interval (.waiting wait) none (roundsOf interval results)
  /-- The failure of the last round is about to cancel the run. -/
  | raises (results : List PollResult) (error : FeedError) :
    Course interval (.raising (.connectionLost error)) none
      (roundsOf interval (results ++ [.error error]))
  /-- The source is about to be closed. -/
  | leaves (exit : ListenerExit) (talk : List Exchange) (htalk : exit.Talk interval talk) :
    Course interval (.closing exit) none talk
  /-- The source was closed. -/
  | closes (exit : ListenerExit) (talk : List Exchange) (htalk : exit.Talk interval talk) :
    Course interval (.closing exit) (some .nothing) (talk ++ [.close])
  /-- All is over. -/
  | ends (exit : ListenerExit) (course : List Exchange) (hcourse : exit.Course interval course) :
    Course interval (.ended exit) none course
  /-- The last poll broke down. -/
  | breaks (results : List PollResult) :
    Course interval .broken none (roundsOf interval results ++ [.poll interval .breaks])
  /-- The last round failed, and the listener could not go on. -/
  | fails (results : List PollResult) (error : FeedError) :
    Course interval .broken none (roundsOf interval (results ++ [.error error]))

section Course

variable {interval : Duration} {trace : List Exchange}

theorem roundsOf_concat (results : List PollResult) (result : PollResult) :
    roundsOf interval (results ++ [result]) =
      roundsOf interval results ++ roundOf interval result := by
  unfold roundsOf
  rw [List.flatMap_append, List.flatMap_singleton, List.cons_append]

/-- A round without a message is a poll. -/
theorem roundsOf_silent (results : List PollResult) {result : PollResult}
    (hsilent : payloadsOf [result] = []) :
    roundsOf interval (results ++ [result]) =
      roundsOf interval results ++ [.poll interval (.returns result)] := by
  rw [roundsOf_concat]
  unfold roundOf
  rw [hsilent]
  rfl

/-- A round with a message ends when it is sent. -/
theorem roundsOf_payload (results : List PollResult) (payload : Payload) :
    roundsOf interval (results ++ [.ok (some (.payload payload))]) =
      roundsOf interval results ++ [.poll interval (.returns (.ok (some (.payload payload))))] ++
        [.sent payload] := by
  rw [roundsOf_concat, List.append_assoc]
  rfl

/-- A poll that returned no message completes a round. -/
theorem Stage.Course.polled {result : PollResult}
    (h : Stage.polling.Course interval (some (.polled (.returns result))) trace)
    (hsilent : payloadsOf [result] = []) :
    ∃ earlier, trace = roundsOf interval (earlier ++ [result]) := by
  cases h with
  | polls results _ => exact ⟨results, (roundsOf_silent results hsilent).symm⟩

/-- What was exchanged can always become the course of an exit, unless a poll broke down. -/
theorem Stage.Course.extends {stage : Stage} {reply : Option Reply}
    (h : stage.Course interval reply trace) :
    (∃ exit course, ListenerExit.Course interval exit course ∧ trace <+: course) ∨
      ∃ results, trace = roundsOf interval results ++ [.poll interval .breaks] := by
  have hrounds : ∀ results,
      ∃ exit course, ListenerExit.Course interval exit course ∧
        roundsOf interval results <+: course :=
    fun results ↦ ⟨_, _, .closed _ _ (.cancelled results), List.prefix_append _ _⟩
  have hsilent : ∀ results result, payloadsOf [result] = [] →
      ∃ exit course, ListenerExit.Course interval exit course ∧
        roundsOf interval results ++ [.poll interval (.returns result)] <+: course := by
    intro results result hnone
    rw [← roundsOf_silent results hnone]
    exact hrounds _
  have hmessage : ∀ results payload,
      ∃ exit course, ListenerExit.Course interval exit course ∧
        roundsOf interval results ++
          [.poll interval (.returns (.ok (some (.payload payload))))] <+: course := by
    intro results payload
    obtain ⟨exit, course, hcourse, hprefix⟩ :=
      hrounds (results ++ [.ok (some (.payload payload))])
    rw [roundsOf_payload] at hprefix
    exact ⟨exit, course, hcourse, (List.prefix_append _ _).trans hprefix⟩
  cases h with
  | starts => exact Or.inl ⟨_, _, .closed _ _ (.cancelled []), List.nil_prefix⟩
  | connects result =>
    cases result with
    | ok _ => exact Or.inl (hrounds [])
    | error error => exact Or.inl ⟨_, _, .unconnected error, List.prefix_refl _⟩
  | unconnected error => exact Or.inl ⟨_, _, .unconnected error, List.prefix_refl _⟩
  | checks results => exact Or.inl (hrounds results)
  | asks results => exact Or.inl (hrounds results)
  | polls results ending =>
    match ending with
    | .breaks => exact Or.inr ⟨results, rfl⟩
    | .returns (.error error) => exact Or.inl (hsilent results _ rfl)
    | .returns (.ok none) => exact Or.inl (hsilent results _ rfl)
    | .returns (.ok (some .connected)) => exact Or.inl (hsilent results _ rfl)
    | .returns (.ok (some (.payload payload))) => exact Or.inl (hmessage results payload)
  | holds results payload => exact Or.inl (hmessage results payload)
  | waits results wait => exact Or.inl (hrounds results)
  | raises results error => exact Or.inl (hrounds _)
  | leaves exit talk htalk => exact Or.inl ⟨exit, _, .closed _ _ htalk, List.prefix_append _ _⟩
  | closes exit talk htalk => exact Or.inl ⟨exit, _, .closed _ _ htalk, List.prefix_refl _⟩
  | ends exit course hcourse => exact Or.inl ⟨exit, trace, hcourse, List.prefix_refl _⟩
  | breaks results => exact Or.inr ⟨results, rfl⟩
  | fails results error => exact Or.inl (hrounds _)

theorem filterMap_roundsOf {select : Exchange → Option Payload}
    (chosen : PollResult → List Payload)
    (hconnect : select (.connect (.ok ())) = none)
    (hround : ∀ result, (roundOf interval result).filterMap select = chosen result)
    (results : List PollResult) :
    (roundsOf interval results).filterMap select = results.flatMap chosen := by
  unfold roundsOf
  rw [List.filterMap_cons_none hconnect, List.filterMap_flatMap]
  exact congrArg (fun choice ↦ results.flatMap choice) (funext hround)

@[simp]
theorem sent_roundsOf (results : List PollResult) :
    (roundsOf interval results).filterMap Exchange.sent? =
      results.flatMap fun result ↦ payloadsOf [result] := by
  refine filterMap_roundsOf _ rfl ?_ results
  intro result
  match result with
  | .error error => rfl
  | .ok none => rfl
  | .ok (some .connected) => rfl
  | .ok (some (.payload payload)) => rfl

@[simp]
theorem refused_roundsOf (results : List PollResult) :
    (roundsOf interval results).filterMap Exchange.refused? = [] := by
  rw [filterMap_roundsOf (fun _ ↦ []) rfl ?_ results]
  · exact List.flatMap_eq_nil_iff.mpr fun result hmem ↦ rfl
  · intro result
    match result with
    | .error error => rfl
    | .ok none => rfl
    | .ok (some .connected) => rfl
    | .ok (some (.payload payload)) => rfl

@[simp]
theorem polled_roundsOf (results : List PollResult) :
    (roundsOf interval results).filterMap Exchange.polled? =
      results.flatMap fun result ↦ payloadsOf [result] := by
  refine filterMap_roundsOf _ rfl ?_ results
  intro result
  match result with
  | .error error => rfl
  | .ok none => rfl
  | .ok (some .connected) => rfl
  | .ok (some (.payload payload)) => rfl

/-- Every message that a poll returned was sent, but for the last one if nobody took it. -/
theorem ListenerExit.Course.sent_eq {exit : ListenerExit} (h : exit.Course interval trace) :
    trace.filterMap Exchange.sent? ++ trace.filterMap Exchange.refused? =
      trace.filterMap Exchange.polled? := by
  cases h with
  | unconnected error => rfl
  | closed _ talk htalk =>
    cases htalk with
    | cancelled results =>
      simp [List.filterMap_cons, Exchange.sent?, Exchange.refused?, Exchange.polled?]
    | connectionLost results error =>
      simp [List.filterMap_cons, Exchange.sent?, Exchange.refused?, Exchange.polled?]
    | channelClosed results payload =>
      simp [List.filterMap_cons, Exchange.sent?, Exchange.refused?, Exchange.polled?]

theorem ListenerExit.course_of_ended {exit : ListenerExit} {reply : Option Reply}
    (h : (Stage.ended exit).Course interval reply trace) : exit.Course interval trace := by
  cases h with
  | ends _ _ hcourse => exact hcourse

end Course

end LiveBoard.Feed
