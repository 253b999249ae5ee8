import LiveBoard.Proofs.Mqtt.Notes

/-!
# What a session asks its client

A wait for a connection asks for events until one of them ends it or the time is up (`Awaiting`,
`awaitAccepted_asks`), and a subscription is tried by one inquiry. What a poll can be is said
once (`Session.Conducts`, `Session.poll_asks`): where the connection stands it asks for one
event, and where it dropped it waits for a new one with the full connection timeout. Whatever kind
of notes is taken, they are those of these inquiries.
-/

set_option autoImplicit false
set_option relaxedAutoImplicit false

namespace LiveBoard.Mqtt

open Feed

/-- A wait for a connection, with what is left of its time: it ends when the connection is accepted
or fails or the time is up, and goes on after anything else. -/
inductive Awaiting : Duration → List Inquiry → Handshake → Prop
  | timesUp : Awaiting 0 [] .timedOut
  | accepts {remaining : Duration} (elapsed : Duration) (hremaining : remaining ≠ 0) :
    Awaiting remaining [.event remaining (.event .accepted) elapsed] .accepted
  | fails {remaining : Duration} (reason : String) (elapsed : Duration)
      (hremaining : remaining ≠ 0) :
    Awaiting remaining [.event remaining (.failed reason) elapsed] (.failed reason)
  | ends {remaining : Duration} (elapsed : Duration) (hremaining : remaining ≠ 0) :
    Awaiting remaining [.event remaining .ended elapsed] (.failed endedReason)
  | goesOn {remaining : Duration} {answer : Answer} {elapsed : Duration} {rest : List Inquiry}
      {handshake : Handshake} (hremaining : remaining ≠ 0)
      (hanswer : answer ≠ .event .accepted ∧ (∀ reason, answer ≠ .failed reason) ∧
        answer ≠ .ended)
      (hrest : Awaiting (timeLeft remaining elapsed) rest handshake) :
    Awaiting remaining (.event remaining answer elapsed :: rest) handshake

/-- What a poll tells of a subscription that was tried. -/
def renewal : Except String Unit → PollResult
  | .ok () => .ok (some .connected)
  | .error reason => .error (.subscribe reason)

/-- What a poll asked its client, and what it returned. -/
structure PollRecord where
  inquiries : List Inquiry
  result : PollResult
  deriving DecidableEq

/-- What one poll of a session can be, and the session after it. -/
inductive Session.Conducts (session : Session) (timeout : Duration) : PollRecord → Session → Prop
  /-- A message came. -/
  | delivers (payload : Payload) (elapsed : Duration) (hstands : session.reconnecting = false) :
    Conducts session timeout
      ⟨[.event timeout (.event (.message payload)) elapsed], .ok (some (.payload payload))⟩ session
  /-- Nothing came, or nothing of interest. -/
  | passes (answer : Answer) (elapsed : Duration) (hstands : session.reconnecting = false)
      (hanswer : answer = .timedOut ∨ answer = .event .other ∨ answer = .event .disconnectSent) :
    Conducts session timeout ⟨[.event timeout answer elapsed], .ok none⟩ session
  /-- The client has regained the connection by itself. -/
  | resumes (elapsed : Duration) (outcome : Except String Unit)
      (hstands : session.reconnecting = false) :
    Conducts session timeout
      ⟨[.event timeout (.event .accepted) elapsed, .subscription session.topic outcome],
        renewal outcome⟩ session
  /-- The connection dropped. -/
  | drops (reason : String) (elapsed : Duration) (hstands : session.reconnecting = false) :
    Conducts session timeout
      ⟨[.event timeout (.failed reason) elapsed], .error (.disconnected reason)⟩
      { session with reconnecting := true }
  /-- The client has ended. -/
  | ends (elapsed : Duration) (hstands : session.reconnecting = false) :
    Conducts session timeout
      ⟨[.event timeout .ended elapsed], .error (.disconnected endedReason)⟩ session
  /-- The connection is regained. -/
  | regains {waits : List Inquiry} (outcome : Except String Unit)
      (hdropped : session.reconnecting = true)
      (hwaits : Awaiting session.connectTimeout waits .accepted) :
    Conducts session timeout ⟨waits ++ [.subscription session.topic outcome], renewal outcome⟩
      { session with reconnecting := false }
  /-- The connection is not regained. -/
  | fails {waits : List Inquiry} (handshake : Handshake)
      (hdropped : session.reconnecting = true) (hhandshake : handshake ≠ .accepted)
      (hwaits : Awaiting session.connectTimeout waits handshake) :
    Conducts session timeout ⟨waits, .error (.disconnected (session.explain handshake))⟩ session

/-- A session that connects waits for the connection, and subscribes once it is accepted. -/
inductive Session.Connects (session : Session) : List Inquiry → Except FeedError Unit → Prop
  | accepts {waits : List Inquiry} (outcome : Except String Unit)
      (hwaits : Awaiting session.connectTimeout waits .accepted) :
    Connects session (waits ++ [.subscription session.topic outcome])
      (outcome.mapError FeedError.subscribe)
  | fails {waits : List Inquiry} (handshake : Handshake) (hhandshake : handshake ≠ .accepted)
      (hwaits : Awaiting session.connectTimeout waits handshake) :
    Connects session waits (.error (.connect (session.explain handshake)))

/-! ### What the operations ask -/

section Operations

variable {ω ν : Type} (note : Inquiry → ν) (client : Client (StateM ω)) (session : Session)

theorem awaitAccepted_asks (remaining : Duration) :
    Asks note (awaitAccepted client remaining) (awaitAccepted (client.tracing note) remaining)
      (Awaiting remaining) := by
  induction remaining using Nat.strongRecOn with
  | ind remaining ih =>
    rw [awaitAccepted, awaitAccepted]
    by_cases hremaining : remaining = 0
    · rw [dif_pos hremaining, dif_pos hremaining]
      subst hremaining
      exact asks_pure .timesUp
    · rw [dif_neg hremaining, dif_neg hremaining]
      have hgoesOn (answer : Answer) (hanswer : answer ≠ .event .accepted ∧
          (∀ reason, answer ≠ .failed reason) ∧ answer ≠ .ended) (elapsed : Duration) :
          Asks note (awaitAccepted client (timeLeft remaining elapsed))
            (awaitAccepted (client.tracing note) (timeLeft remaining elapsed)) fun more ↦
              Awaiting remaining ([.event remaining answer elapsed] ++ more) :=
        (ih _ (timeLeft_lt hremaining elapsed)).mono fun _ _ ↦ .goesOn hremaining hanswer
      refine (asks_receive note client remaining).bind ?_
      rintro _ ⟨answer, elapsed⟩ rfl
      match answer with
      | .event .accepted => exact asks_pure (.accepts elapsed hremaining)
      | .failed reason => exact asks_pure (.fails reason elapsed hremaining)
      | .ended => exact asks_pure (.ends elapsed hremaining)
      | .timedOut => exact hgoesOn .timedOut (by simp) elapsed
      | .event (.message payload) => exact hgoesOn (.event (.message payload)) (by simp) elapsed
      | .event .disconnectSent => exact hgoesOn (.event .disconnectSent) (by simp) elapsed
      | .event .other => exact hgoesOn (.event .other) (by simp) elapsed

theorem Session.announce_asks (message : String) :
    Asks note (session.announce client message)
      (session.announce (client.tracing note) message) fun asked _ ↦ asked = [] :=
  asks_log note client _

theorem Session.subscribe_asks :
    Asks note (session.subscribe client) (session.subscribe (client.tracing note))
      fun asked result ↦ ∃ outcome, asked = [.subscription session.topic outcome] ∧
        result = outcome.mapError FeedError.subscribe := by
  refine (asks_subscribe note client session.topic).bind ?_
  rintro _ outcome rfl
  cases outcome with
  | error reason => exact asks_pure ⟨.error reason, rfl, rfl⟩
  | ok _ =>
    refine (asks_log note client _).bind ?_
    rintro _ _ rfl
    exact asks_pure ⟨.ok (), rfl, rfl⟩

theorem Session.resume_asks :
    Asks note (session.resume client) (session.resume (client.tracing note)) fun asked result ↦
      ∃ outcome, asked = [.subscription session.topic outcome] ∧ result = renewal outcome := by
  refine (session.announce_asks note client "reconnected").bind ?_
  rintro _ _ rfl
  refine (session.subscribe_asks note client).bind ?_
  rintro _ _ ⟨outcome, rfl, rfl⟩
  refine asks_pure ⟨outcome, rfl, ?_⟩
  cases outcome <;> rfl

theorem Session.connect_asks :
    Asks note (session.connect client) (session.connect (client.tracing note))
      session.Connects := by
  refine (awaitAccepted_asks note client session.connectTimeout).bind ?_
  intro waits handshake hwaits
  cases handshake with
  | accepted =>
    refine (session.announce_asks note client "connected").bind ?_
    rintro _ _ rfl
    refine (session.subscribe_asks note client).mono ?_
    rintro _ _ ⟨outcome, rfl, rfl⟩
    exact .accepts outcome hwaits
  | timedOut =>
    refine asks_pure ?_
    rw [List.append_nil]
    exact .fails .timedOut Handshake.noConfusion hwaits
  | failed reason =>
    refine asks_pure ?_
    rw [List.append_nil]
    exact .fails (.failed reason) Handshake.noConfusion hwaits

theorem Session.reconnect_asks (hdropped : session.reconnecting = true) (timeout : Duration) :
    Asks note (session.reconnect client) (session.reconnect (client.tracing note))
      fun asked result ↦ session.Conducts timeout ⟨asked, result.1⟩ result.2 := by
  refine (awaitAccepted_asks note client session.connectTimeout).bind ?_
  intro waits handshake hwaits
  cases handshake with
  | accepted =>
    refine (session.resume_asks note client).bind ?_
    rintro _ _ ⟨outcome, rfl, rfl⟩
    refine asks_pure ?_
    rw [List.append_nil]
    exact .regains outcome hdropped hwaits
  | timedOut =>
    refine asks_pure ?_
    rw [List.append_nil]
    exact .fails .timedOut hdropped Handshake.noConfusion hwaits
  | failed reason =>
    refine asks_pure ?_
    rw [List.append_nil]
    exact .fails (.failed reason) hdropped Handshake.noConfusion hwaits

/-- Every poll is one of those that can be. -/
theorem Session.poll_asks (timeout : Duration) :
    Asks note (session.poll client timeout) (session.poll (client.tracing note) timeout)
      fun asked result ↦ session.Conducts timeout ⟨asked, result.1⟩ result.2 := by
  unfold Session.poll
  by_cases hdropped : session.reconnecting = true
  · rw [if_pos hdropped, if_pos hdropped]
    exact session.reconnect_asks note client hdropped timeout
  · rw [if_neg hdropped, if_neg hdropped]
    have hstands : session.reconnecting = false := by simpa using hdropped
    refine (asks_receive note client timeout).bind ?_
    rintro _ ⟨answer, elapsed⟩ rfl
    match answer with
    | .event .accepted =>
      refine (session.resume_asks note client).bind ?_
      rintro _ _ ⟨outcome, rfl, rfl⟩
      exact asks_pure (.resumes elapsed outcome hstands)
    | .event (.message payload) => exact asks_pure (.delivers payload elapsed hstands)
    | .event .disconnectSent =>
      exact asks_pure (.passes _ elapsed hstands (Or.inr (Or.inr rfl)))
    | .event .other => exact asks_pure (.passes _ elapsed hstands (Or.inr (Or.inl rfl)))
    | .timedOut => exact asks_pure (.passes _ elapsed hstands (Or.inl rfl))
    | .failed reason => exact asks_pure (.drops reason elapsed hstands)
    | .ended => exact asks_pure (.ends elapsed hstands)

end Operations

end LiveBoard.Mqtt
