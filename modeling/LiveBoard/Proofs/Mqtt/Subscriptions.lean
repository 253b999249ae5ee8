import LiveBoard.Mqtt.Connection
import LiveBoard.Proofs.Mqtt.Inquiries

/-!
# Subscriptions of a session

Every connection that the broker accepts needs a subscription of its own. A session tries one,
once, whenever a connection is accepted, and tells what came of it (`renewal`); no other poll
changes whether it is subscribed (`Session.poll_records`). So after the first connection it is
subscribed exactly where no poll has told that a subscription was refused since a poll last told
that one was queued (`Session.subscribed_iff`), whatever the client answers.

A subscription that was refused is not tried again before the connection is lost: meanwhile the
session is not subscribed, and its polls need not tell (`Session.unsubscribed_silence`).

What a poll notes follows from what it asks (`Session.Conducts.polls`). It keeps what the results
tell (`Telling.poll`), and so does every sequence of polls (`Session.polls_records`).
-/

set_option autoImplicit false
set_option relaxedAutoImplicit false

namespace LiveBoard.Mqtt

open Feed

/-- A connection was accepted and a subscription tried on it, with this outcome. -/
def Renews (topic : String) (outcome : Except String Unit) (added : List Note) : Prop :=
  ∃ quiet, Quiet quiet ∧
    added = quiet ++ [.received (.event .accepted), .subscribed topic outcome]

/-- What the wait for a connection notes. -/
def Awaits (added : List Note) : Handshake → Prop
  | .accepted => ∃ quiet, Quiet quiet ∧ added = quiet ++ [.received (.event .accepted)]
  | _ => Quiet added

/-- What a poll notes: either it tried a subscription, or it tells of none. -/
def Polls (topic : String) (added : List Note) (result : PollResult) : Prop :=
  (∃ outcome, Renews topic outcome added ∧ result = renewal outcome) ∨
    (Quiet added ∧ ∀ outcome, result ≠ renewal outcome)

theorem TriedOnce.of_renews {topic : String} {outcome : Except String Unit} {added : List Note}
    (h : Renews topic outcome added) (notes : List Note) :
    TriedOnce topic outcome (notes ++ added) := by
  obtain ⟨quiet, -, rfl⟩ := h
  exact triedOnce_append topic outcome notes quiet

theorem ne_renewal {result : PollResult} (hconnected : result ≠ .ok (some .connected))
    (hrefused : ∀ reason, result ≠ .error (.subscribe reason)) (outcome : Except String Unit) :
    result ≠ renewal outcome := by
  cases outcome with
  | ok _ => exact hconnected
  | error reason => exact hrefused reason

theorem renewal_ne_disconnected (reason : String) (outcome : Except String Unit) :
    .error (.disconnected reason) ≠ renewal outcome :=
  ne_renewal (by simp) (by simp) outcome

/-- A poll that receives something else and tells of no subscription. -/
theorem Polls.of_answer {topic : String} {answer : Answer} {result : PollResult}
    (hanswer : answer ≠ .event .accepted) (hresult : ∀ outcome, result ≠ renewal outcome) :
    Polls topic [.received answer] result :=
  Or.inr ⟨quiet_cons hanswer quiet_nil, hresult⟩

/-! ### What the operations note -/

/-- What comes before the end of a wait is quiet. -/
theorem Awaits.cons {answer : Answer} {added : List Note} {handshake : Handshake}
    (hanswer : answer ≠ .event .accepted) (h : Awaits added handshake) :
    Awaits (.received answer :: added) handshake := by
  cases handshake with
  | accepted =>
    obtain ⟨quiet, hquiet, rfl⟩ := h
    exact ⟨.received answer :: quiet, quiet_cons hanswer hquiet, rfl⟩
  | timedOut => exact quiet_cons hanswer h
  | failed reason => exact quiet_cons hanswer h

theorem Awaiting.awaits {remaining : Duration} {waits : List Inquiry} {handshake : Handshake}
    (h : Awaiting remaining waits handshake) : Awaits (waits.map Inquiry.note) handshake := by
  induction h with
  | timesUp => exact quiet_nil
  | accepts elapsed _ => exact ⟨[], quiet_nil, rfl⟩
  | fails reason elapsed _ => exact quiet_cons Answer.noConfusion quiet_nil
  | ends elapsed _ => exact quiet_cons Answer.noConfusion quiet_nil
  | goesOn _ hanswer _ ih => exact ih.cons hanswer.1

/-- Where a wait ends with a connection and a subscription is tried, it is renewed. -/
theorem Awaiting.renews {remaining : Duration} {waits : List Inquiry}
    (h : Awaiting remaining waits .accepted) (topic : String) (outcome : Except String Unit) :
    Renews topic outcome ((waits ++ [Inquiry.subscription topic outcome]).map Inquiry.note) := by
  obtain ⟨quiet, hquiet, hwaits⟩ := h.awaits
  refine ⟨quiet, hquiet, ?_⟩
  rw [List.map_append, hwaits, List.append_assoc]
  rfl

/-- A poll tries a subscription exactly where it finds a connection accepted, and tells what came
of it. -/
theorem Session.Conducts.polls {session next : Session} {timeout : Duration} {record : PollRecord}
    (h : session.Conducts timeout record next) :
    next.topic = session.topic ∧
      Polls session.topic (record.inquiries.map Inquiry.note) record.result := by
  cases h with
  | delivers payload elapsed _ =>
    exact ⟨rfl, .of_answer (by simp) (ne_renewal (by simp) (by simp))⟩
  | passes answer elapsed _ hanswer =>
    refine ⟨rfl, .of_answer ?_ (ne_renewal (by simp) (by simp))⟩
    rcases hanswer with rfl | rfl | rfl <;> simp
  | resumes elapsed outcome _ => exact ⟨rfl, Or.inl ⟨outcome, ⟨[], quiet_nil, rfl⟩, rfl⟩⟩
  | drops reason elapsed _ => exact ⟨rfl, .of_answer (by simp) (renewal_ne_disconnected reason)⟩
  | ends elapsed _ => exact ⟨rfl, .of_answer (by simp) (renewal_ne_disconnected endedReason)⟩
  | regains outcome _ hwaits =>
    exact ⟨rfl, Or.inl ⟨outcome, hwaits.renews session.topic outcome, rfl⟩⟩
  | fails handshake _ hhandshake hwaits =>
    refine ⟨rfl, Or.inr ⟨?_, renewal_ne_disconnected _⟩⟩
    have hquiet := hwaits.awaits
    cases handshake with
    | accepted => exact absurd rfl hhandshake
    | timedOut => exact hquiet
    | failed reason => exact hquiet

section Operations

variable {ω : Type} (client : Client (StateM ω)) (session : Session)

/-- A connection that was established was accepted, and its subscription queued. -/
theorem Session.connect_records :
    Records (session.connect client) (session.connect client.noting) fun added result ↦
      result = .ok () → Renews session.topic (.ok ()) added := by
  rw [client.noting_eq_tracing]
  refine Records.mono (session.connect_asks Inquiry.note client) ?_
  rintro _ result ⟨asked, rfl, hconnects⟩ hok
  cases hconnects with
  | accepts outcome hwaits =>
    cases outcome with
    | error reason => cases hok
    | ok _ => exact hwaits.renews session.topic (.ok ())
  | fails handshake _ _ => cases hok

theorem Session.poll_records (timeout : Duration) :
    Records (session.poll client timeout) (session.poll client.noting timeout) fun added result ↦
      result.2.topic = session.topic ∧ Polls session.topic added result.1 := by
  rw [client.noting_eq_tracing]
  refine Records.mono (session.poll_asks Inquiry.note client timeout) ?_
  rintro _ result ⟨asked, rfl, hconducts⟩
  exact hconducts.polls

end Operations

/-! ### Polls one after the other -/

/-- Polls a session with timeouts, one after the other. -/
def Session.polls {m : Type → Type} [Monad m] (session : Session) (client : Client m) :
    List Duration → m (List PollResult × Session)
  | [] => return ([], session)
  | timeout :: rest => do
    let (result, next) ← session.poll client timeout
    let (results, last) ← next.polls client rest
    return (result :: results, last)

/-- Connects a session, and polls it then. -/
def Session.course {m : Type → Type} [Monad m] (session : Session) (client : Client m)
    (timeouts : List Duration) : m (Except FeedError Unit × List PollResult) := do
  let connected ← session.connect client
  let (results, _) ← session.polls client timeouts
  return (connected, results)

/-- A poll told that a subscription was refused, and none has told since that one was queued. -/
def LeftRefused (results : List PollResult) : Prop :=
  ∃ earlier reason later, results = earlier ++ .error (.subscribe reason) :: later ∧
    .ok (some .connected) ∉ later

section Refusals

variable {results : List PollResult}

theorem not_leftRefused_nil : ¬ LeftRefused [] := by
  rintro ⟨earlier, reason, later, hresults, -⟩
  exact List.cons_ne_nil _ _ (List.append_eq_nil_iff.mp hresults.symm).2

/-- The last poll decides where it tells of a subscription. -/
@[grind =]
theorem leftRefused_concat (results : List PollResult) (result : PollResult) :
    LeftRefused (results ++ [result]) ↔
      (∃ reason, result = .error (.subscribe reason)) ∨
        (LeftRefused results ∧ result ≠ .ok (some .connected)) := by
  constructor
  · rintro ⟨earlier, reason, later, hresults, hconnected⟩
    rcases List.eq_nil_or_concat later with rfl | ⟨others, last, rfl⟩
    · obtain ⟨-, hlast⟩ := List.append_inj' hresults rfl
      exact Or.inl ⟨reason, (List.cons.inj hlast).1⟩
    · rw [List.concat_eq_append] at hresults hconnected
      rw [← List.cons_append, ← List.append_assoc] at hresults
      obtain ⟨rfl, hlast⟩ := List.append_inj' hresults rfl
      obtain rfl : result = last := (List.cons.inj hlast).1
      obtain ⟨hothers, hresult⟩ := not_or.mp (mt List.mem_append.mpr hconnected)
      exact Or.inr ⟨⟨earlier, reason, others, rfl, hothers⟩,
        fun h ↦ hresult (List.mem_singleton.mpr h.symm)⟩
  · rintro (⟨reason, rfl⟩ | ⟨⟨earlier, reason, later, rfl, hconnected⟩, hresult⟩)
    · exact ⟨results, reason, [], rfl, List.not_mem_nil⟩
    · refine ⟨earlier, reason, later ++ [result], List.append_assoc .., fun hmem ↦ ?_⟩
      rcases List.mem_append.mp hmem with hlater | hlast
      · exact hconnected hlater
      · exact hresult (List.mem_singleton.mp hlast).symm

/-- A poll that tried a subscription tells what came of it. -/
@[simp]
theorem leftRefused_renewal (results : List PollResult) (outcome : Except String Unit) :
    LeftRefused (results ++ [renewal outcome]) ↔ outcome ≠ .ok () := by
  rw [leftRefused_concat]
  cases outcome with
  | error reason => exact iff_of_true (Or.inl ⟨reason, rfl⟩) (by simp)
  | ok _ =>
    refine iff_of_false ?_ fun h ↦ h rfl
    rintro (⟨reason, hrefused⟩ | ⟨-, hconnected⟩)
    · cases hrefused
    · exact hconnected rfl

/-- A poll that tells of no subscription changes nothing. -/
theorem leftRefused_append {result : PollResult} (hresult : ∀ outcome, result ≠ renewal outcome) :
    LeftRefused (results ++ [result]) ↔ LeftRefused results := by
  rw [leftRefused_concat]
  constructor
  · rintro (⟨reason, hrefused⟩ | ⟨hresults, -⟩)
    · exact absurd hrefused (hresult (.error reason))
    · exact hresults
  · exact fun h ↦ Or.inr ⟨h, hresult (.ok ())⟩

end Refusals

/-- The results of polls tell what came of the subscription tried last. -/
def Telling (topic : String) (notes : List Note) (results : List PollResult) : Prop :=
  ∃ outcome, TriedOnce topic outcome notes ∧ (LeftRefused results ↔ outcome ≠ .ok ())

section Courses

variable {ω : Type} (client : Client (StateM ω)) {topic : String} {notes added : List Note}
  {results : List PollResult} {result : PollResult}

theorem telling_of_renews (h : Renews topic (.ok ()) added) : Telling topic added [] :=
  ⟨.ok (), TriedOnce.of_renews h [], iff_of_false not_leftRefused_nil fun hne ↦ hne rfl⟩

/-- One poll keeps the results telling. -/
theorem Telling.poll (h : Telling topic notes results) (hpolls : Polls topic added result) :
    Telling topic (notes ++ added) (results ++ [result]) := by
  obtain ⟨outcome, htried, htells⟩ := h
  rcases hpolls with ⟨renewed, hrenews, rfl⟩ | ⟨hquiet, hresult⟩
  · exact ⟨renewed, TriedOnce.of_renews hrenews notes, leftRefused_renewal results renewed⟩
  · exact ⟨outcome, htried.append_quiet hquiet, (leftRefused_append hresult).trans htells⟩

/-- Every sequence of polls keeps the results telling. -/
theorem Session.polls_records (session : Session) (timeouts : List Duration) :
    Records (session.polls client timeouts) (session.polls client.noting timeouts)
      fun added result ↦ ∀ notes results, Telling session.topic notes results →
        Telling session.topic (notes ++ added) (results ++ result.1) := by
  induction timeouts generalizing session with
  | nil =>
    refine records_pure fun notes results h ↦ ?_
    rw [List.append_nil, List.append_nil]
    exact h
  | cons timeout rest ih =>
    refine (session.poll_records client timeout).bind ?_
    rintro added ⟨result, next⟩ ⟨htopic, hpolls⟩
    refine (ih next).bind ?_
    rintro more ⟨others, last⟩ hothers
    refine records_pure fun notes results h ↦ ?_
    have hrest := hothers _ _ (htopic ▸ h.poll hpolls)
    rw [htopic, List.append_assoc, List.append_assoc] at hrest
    rw [List.append_nil]
    exact hrest

end Courses

/-! ### Rehearsals -/

/-- What a client is to answer: to the questions for its next event, and to its subscriptions. -/
structure Rehearsal where
  answers : List Answer
  outcomes : List (Except String Unit)
  deriving DecidableEq

/-- A client that answers as it was rehearsed, and then nothing in time. -/
def Rehearsal.client : Client (StateM Rehearsal) where
  receive timeout := fun rehearsal ↦
    match rehearsal.answers with
    | [] => ((.timedOut, timeout), rehearsal)
    | answer :: rest => ((answer, 0), { rehearsal with answers := rest })
  subscribe _ := fun rehearsal ↦
    match rehearsal.outcomes with
    | [] => (.ok (), rehearsal)
    | outcome :: rest => (outcome, { rehearsal with outcomes := rest })
  unsubscribe _ := fun rehearsal ↦ (.ok (), rehearsal)
  disconnect := fun rehearsal ↦ (.ok (), rehearsal)
  log _ := fun rehearsal ↦ ((), rehearsal)

/-- The connection drops twice, and a subscription is refused in between. -/
def Rehearsal.refused : Rehearsal where
  answers :=
    [.event .accepted, .failed "dropped", .event .accepted, .timedOut, .failed "dropped",
      .event .accepted]
  outcomes := [.ok (), .error requestFault, .ok ()]

/-- A session with the standard settings. -/
def Session.standard : Session := .new .standard .standard

/-! ### Being subscribed -/

/-- Assumes: the session was connected. It is subscribed on the connection that was accepted last
exactly where no poll has told that a subscription was refused since a poll last told that one was
queued. This holds for every client whatever it answers, and after every sequence of polls, whatever
the last of them returned; the notes that it is read off change nothing. -/
theorem Session.subscribed_iff {ω : Type} (client : Client (StateM ω)) (session : Session)
    (world last : ω) (timeouts : List Duration) (results : List PollResult) (notes : List Note)
    (hcourse : (session.course client.noting timeouts (world, [])).run =
      ((.ok (), results), last, notes)) :
    (session.course client timeouts world).run = ((.ok (), results), last) ∧
      (SubscribedTo session.topic notes ↔ ¬ LeftRefused results) := by
  have hrecords : Records (session.course client timeouts)
      (session.course client.noting timeouts) fun added result ↦
        result.1 = .ok () → Telling session.topic added result.2 := by
    refine (session.connect_records client).bind ?_
    intro added connected hrenews
    refine (session.polls_records client timeouts).bind ?_
    rintro more ⟨results, last⟩ hkeeps
    refine records_pure fun hconnected ↦ ?_
    have htelling := hkeeps _ _ (telling_of_renews (hrenews hconnected))
    rw [List.append_nil]
    exact htelling
  obtain ⟨added, hnoted, htelling⟩ := hrecords world []
  generalize session.course client timeouts world = plain at hnoted htelling ⊢
  obtain ⟨⟨connected, told⟩, state⟩ := plain
  cases hcourse.symm.trans hnoted
  obtain ⟨outcome, htried, hrefused⟩ := htelling rfl
  refine ⟨rfl, ?_⟩
  rw [List.nil_append, htried.subscribedTo_iff, hrefused, not_not]

/-- A session that is connected again after a subscription was refused is subscribed again. -/
theorem Session.subscribed_iff_regained :
    ∃ notes, (Session.standard.course Rehearsal.client.noting
        (List.replicate 5 ListenerSettings.standard.pollInterval) (.refused, [])).run =
      ((.ok (), [.error (.disconnected "dropped"), .error (.subscribe requestFault), .ok none,
        .error (.disconnected "dropped"), .ok (some .connected)]), ⟨[], []⟩, notes) ∧
      SubscribedTo Session.standard.topic notes := by
  have hcourse : (Session.standard.course Rehearsal.client.noting
      (List.replicate 5 ListenerSettings.standard.pollInterval) (.refused, [])).run =
        ((.ok (), [.error (.disconnected "dropped"), .error (.subscribe requestFault), .ok none,
          .error (.disconnected "dropped")] ++ [renewal (.ok ())]), ⟨[], []⟩,
        [.received (.event .accepted), .subscribed Session.standard.topic (.ok ()),
          .received (.failed "dropped"), .received (.event .accepted),
          .subscribed Session.standard.topic (.error requestFault), .received .timedOut,
          .received (.failed "dropped"), .received (.event .accepted),
          .subscribed Session.standard.topic (.ok ())]) := by decide +kernel
  obtain ⟨-, hiff⟩ := Session.subscribed_iff Rehearsal.client .standard .refused _ _ _ _ hcourse
  refine ⟨_, hcourse, ?_⟩
  rw [hiff, leftRefused_renewal]
  exact fun hrefused ↦ hrefused rfl

/-- After a subscription was refused a poll returns without an error, although no subscription was
queued on the connection that was accepted last. -/
theorem Session.unsubscribed_silence :
    ∃ last notes, (Session.standard.course Rehearsal.client.noting
        (List.replicate 3 ListenerSettings.standard.pollInterval) (.refused, [])).run =
      ((.ok (), [.error (.disconnected "dropped"), .error (.subscribe requestFault), .ok none]),
        last, notes) ∧ ¬ SubscribedTo Session.standard.topic notes := by
  have hcourse : (Session.standard.course Rehearsal.client.noting
      (List.replicate 3 ListenerSettings.standard.pollInterval) (.refused, [])).run =
        ((.ok (), [.error (.disconnected "dropped"), .error (.subscribe requestFault), .ok none]),
        ⟨[.failed "dropped", .event .accepted], [.ok ()]⟩,
        [.received (.event .accepted), .subscribed Session.standard.topic (.ok ()),
          .received (.failed "dropped")] ++
        .received (.event .accepted) ::
          .subscribed Session.standard.topic (.error requestFault) :: [.received .timedOut]) := by
    decide +kernel
  refine ⟨_, _, hcourse, fun hsubscribed ↦ ?_⟩
  have hlater : Quiet [.received .timedOut] := quiet_cons Answer.noConfusion quiet_nil
  cases (TriedOnce.subscribedTo_iff ⟨_, _, rfl, hlater⟩).mp hsubscribed

end LiveBoard.Mqtt
