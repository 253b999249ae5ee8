import LiveBoard.Proofs.Feed.ListenerHistory
import LiveBoard.Proofs.Mqtt.Subscriptions

/-!
# The discipline of a session

What connecting and every poll ask is recorded (`Session.recordedCourse`), for a client that is
served: it does not end, and its subscriptions are taken. The records tell whether the connection is
lost (`isLost`), and a session knows that too (`Session.Conducts.next_eq`). While it is lost every
poll waits for a new one and reports what came of that; otherwise it reports one event. So what was
accepted, what was subscribed and what was reported add up over any polls (`Session.Conducted`), and
every message that came outside a wait is reported once and in order
(`Session.course_disciplined`).
-/

set_option autoImplicit false
set_option relaxedAutoImplicit false

namespace LiveBoard.Mqtt

open Feed

/-! ### Records -/

/-- A program, with what it asks from its beginning on. -/
def recorded {ω α : Type} (program : StateM (ω × List Inquiry) α) :
    StateM ω (α × List Inquiry) := fun world ↦
  let (result, world, asked) := program (world, [])
  ((result, asked), world)

/-- Polls a session with timeouts, one after the other, and records every poll. -/
def Session.recordedPolls {ω : Type} (session : Session) (client : Client (StateM ω)) :
    List Duration → StateM ω (List PollRecord × Session)
  | [] => return ([], session)
  | timeout :: rest => do
    let ((result, next), asked) ← recorded (session.poll (client.tracing id) timeout)
    let (records, last) ← next.recordedPolls client rest
    return (⟨asked, result⟩ :: records, last)

/-- Connects a session and polls it then, and records the connecting and every poll. -/
def Session.recordedCourse {ω : Type} (session : Session) (client : Client (StateM ω))
    (timeouts : List Duration) :
    StateM ω (Except FeedError Unit × List Inquiry × List PollRecord) := do
  let (connected, asked) ← recorded (session.connect (client.tracing id))
  let (records, _) ← session.recordedPolls client timeouts
  return (connected, asked, records)

/-- Whether the client has not ended, and takes a subscription. -/
def Inquiry.isServed : Inquiry → Bool
  | .event _ .ended _ => false
  | .subscription _ (.error _) => false
  | _ => true

/-- Whether the broker accepted a connection. -/
def Inquiry.isAccepted : Inquiry → Bool
  | .event _ (.event .accepted) _ => true
  | _ => false

/-- Whether a subscription was tried. -/
def Inquiry.isSubscription : Inquiry → Bool
  | .subscription .. => true
  | _ => false

/-- The message that came. -/
def Inquiry.message? : Inquiry → Option Payload
  | .event _ (.event (.message payload)) _ => some payload
  | _ => none

/-- The number of connections that the broker accepted in a poll. -/
def PollRecord.accepted (record : PollRecord) : Nat := record.inquiries.countP Inquiry.isAccepted

/-- The number of subscriptions that were tried in a poll. -/
def PollRecord.subscribed (record : PollRecord) : Nat :=
  record.inquiries.countP Inquiry.isSubscription

/-- The messages that came in a poll. -/
def PollRecord.messages (record : PollRecord) : List Payload :=
  record.inquiries.filterMap Inquiry.message?

/-- Whether a poll reports that the connection is lost. -/
def PollRecord.reportsLoss (record : PollRecord) : Bool :=
  match record.result with
  | .error (.disconnected _) => true
  | _ => false

/-- Whether the connection is lost after a poll. -/
def PollRecord.leavesLost (lost : Bool) (record : PollRecord) : Bool :=
  if record.reportsLoss then true else if record.accepted = 0 then lost else false

/-- Whether a poll reported that the connection is lost, and none was accepted since. -/
def isLost (records : List PollRecord) : Bool := records.foldl PollRecord.leavesLost false

/-- The polls that do not wait for a connection, of polls that begin with it lost or not. -/
def outsideWaits (lost : Bool) : List PollRecord → List PollRecord
  | [] => []
  | record :: rest =>
    (if lost then [] else [record]) ++ outsideWaits (record.leavesLost lost) rest

/-! ### One poll -/

/-- A wait ends with the one connection that is accepted in it, and subscribes to nothing. -/
theorem Awaiting.counts {remaining : Duration} {waits : List Inquiry} {handshake : Handshake}
    (h : Awaiting remaining waits handshake) :
    waits.countP Inquiry.isAccepted = (if handshake = .accepted then 1 else 0) ∧
      waits.countP Inquiry.isSubscription = 0 := by
  induction h with
  | timesUp => exact ⟨rfl, rfl⟩
  | accepts elapsed _ => exact ⟨rfl, rfl⟩
  | fails reason elapsed _ => exact ⟨rfl, rfl⟩
  | ends elapsed _ => exact ⟨rfl, rfl⟩
  | @goesOn remaining answer elapsed rest handshake _ hanswer _ ih =>
    have hother : (Inquiry.event remaining answer elapsed).isAccepted = false := by
      match answer, hanswer with
      | .event .accepted, hanswer => exact absurd rfl hanswer.1
      | .event (.message _), _ => rfl
      | .event .disconnectSent, _ => rfl
      | .event .other, _ => rfl
      | .failed _, _ => rfl
      | .timedOut, _ => rfl
      | .ended, _ => rfl
    rw [List.countP_cons_of_neg (by simp [hother]),
      List.countP_cons_of_neg (by simp [Inquiry.isSubscription])]
    exact ih

/-- A connection that was established was accepted once, and subscribed to once. -/
theorem Session.Connects.counts {session : Session} {asked : List Inquiry}
    (h : session.Connects asked (.ok ())) :
    asked.countP Inquiry.isAccepted = 1 ∧ asked.countP Inquiry.isSubscription = 1 := by
  generalize hok : (Except.ok () : Except FeedError Unit) = connected at h
  cases h with
  | accepts outcome hwaits =>
    obtain ⟨haccepted, hsubscribed⟩ := hwaits.counts
    rw [List.countP_append, List.countP_append, haccepted, hsubscribed]
    exact ⟨rfl, rfl⟩
  | fails handshake _ _ => cases hok

section Poll

variable {session next : Session} {timeout : Duration} {record : PollRecord}

theorem outcome_of_served {topic : String} {outcome : Except String Unit}
    {inquiries : List Inquiry} (hserved : ∀ inquiry ∈ inquiries, inquiry.isServed = true)
    (hmem : .subscription topic outcome ∈ inquiries) : outcome = .ok () := by
  cases outcome with
  | ok _ => rfl
  | error reason => cases hserved _ hmem

/-- Assumes: a client that is served. A poll tries one subscription where a connection is accepted
in it, and none otherwise, and it reports that. -/
theorem Session.Conducts.counts (h : session.Conducts timeout record next)
    (hserved : ∀ inquiry ∈ record.inquiries, inquiry.isServed = true) :
    record.accepted = (if Feed.regains record.result then 1 else 0) ∧
      record.subscribed = record.accepted := by
  unfold PollRecord.accepted PollRecord.subscribed
  cases h with
  | delivers payload elapsed _ => exact ⟨rfl, rfl⟩
  | passes answer elapsed _ hanswer => rcases hanswer with rfl | rfl | rfl <;> exact ⟨rfl, rfl⟩
  | resumes elapsed outcome _ =>
    obtain rfl := outcome_of_served hserved (List.mem_cons_of_mem _ List.mem_cons_self)
    exact ⟨rfl, rfl⟩
  | drops reason elapsed _ => exact ⟨rfl, rfl⟩
  | ends elapsed _ => exact ⟨rfl, rfl⟩
  | regains outcome _ hwaits =>
    obtain rfl := outcome_of_served hserved (List.mem_append_right _ List.mem_cons_self)
    obtain ⟨haccepted, hsubscribed⟩ := hwaits.counts
    rw [List.countP_append, List.countP_append, haccepted, hsubscribed]
    exact ⟨rfl, rfl⟩
  | fails handshake _ hhandshake hwaits =>
    obtain ⟨haccepted, hsubscribed⟩ := hwaits.counts
    rw [if_neg hhandshake] at haccepted
    exact ⟨haccepted, hsubscribed.trans haccepted.symm⟩

/-- Assumes: a client that is served. A session knows whether its connection is lost, and nothing
else about it changes. -/
theorem Session.Conducts.next_eq (h : session.Conducts timeout record next)
    (hserved : ∀ inquiry ∈ record.inquiries, inquiry.isServed = true) :
    next = { session with reconnecting := record.leavesLost session.reconnecting } := by
  have hcounts := (h.counts hserved).1
  unfold PollRecord.leavesLost
  rw [hcounts]
  cases h with
  | delivers payload elapsed _ => rfl
  | passes answer elapsed _ _ => rfl
  | resumes elapsed outcome hstands =>
    obtain rfl := outcome_of_served hserved (List.mem_cons_of_mem _ List.mem_cons_self)
    change session = { session with reconnecting := false }
    rw [← hstands]
  | drops reason elapsed _ => rfl
  | ends elapsed _ => cases hserved _ List.mem_cons_self
  | regains outcome _ _ =>
    obtain rfl := outcome_of_served hserved (List.mem_append_right _ List.mem_cons_self)
    rfl
  | fails handshake hdropped _ _ =>
    change session = { session with reconnecting := true }
    rw [← hdropped]

/-- What came outside a wait is reported, and nothing else is. -/
theorem Session.Conducts.messages (h : session.Conducts timeout record next) :
    payloadsOf [record.result] = if session.reconnecting then [] else record.messages := by
  unfold PollRecord.messages
  cases h with
  | delivers payload elapsed hstands =>
    rw [hstands]
    rfl
  | passes answer elapsed hstands hanswer =>
    rw [hstands]
    rcases hanswer with rfl | rfl | rfl <;> rfl
  | resumes elapsed outcome hstands =>
    rw [hstands]
    cases outcome <;> rfl
  | drops reason elapsed hstands =>
    rw [hstands]
    rfl
  | ends elapsed hstands =>
    rw [hstands]
    rfl
  | regains outcome hdropped _ =>
    rw [hdropped]
    cases outcome <;> rfl
  | fails handshake hdropped _ _ =>
    rw [hdropped]
    rfl

/-- Assumes: a client that is served, and a connection that is lost. A poll waits for a new one and
reports what came of that. -/
theorem Session.Conducts.waits (h : session.Conducts timeout record next)
    (hserved : ∀ inquiry ∈ record.inquiries, inquiry.isServed = true)
    (hlost : session.reconnecting = true) :
    ∃ waits handshake, Awaiting session.connectTimeout waits handshake ∧
      ((handshake = .accepted ∧ record =
          ⟨waits ++ [.subscription session.topic (.ok ())], .ok (some .connected)⟩) ∨
        (handshake ≠ .accepted ∧
          record = ⟨waits, .error (.disconnected (session.explain handshake))⟩)) := by
  cases h with
  | regains outcome _ hwaits =>
    obtain rfl := outcome_of_served hserved (List.mem_append_right _ List.mem_cons_self)
    exact ⟨_, .accepted, hwaits, Or.inl ⟨rfl, rfl⟩⟩
  | fails handshake _ hhandshake hwaits => exact ⟨_, handshake, hwaits, Or.inr ⟨hhandshake, rfl⟩⟩
  | delivers _ _ hstands => cases hlost.symm.trans hstands
  | passes _ _ hstands _ => cases hlost.symm.trans hstands
  | resumes _ _ hstands => cases hlost.symm.trans hstands
  | drops _ _ hstands => cases hlost.symm.trans hstands
  | ends _ hstands => cases hlost.symm.trans hstands

end Poll

/-! ### Polls one after the other -/

/-- Polls of a session, one after the other. -/
inductive Session.Conducted : Session → List PollRecord → Prop
  | nil (session : Session) : Conducted session []
  | cons {session next : Session} {timeout : Duration} {record : PollRecord}
      {records : List PollRecord} (hpoll : session.Conducts timeout record next)
      (hrest : Conducted next records) : Conducted session (record :: records)

/-- Every inquiry of polls is served. -/
def Served (records : List PollRecord) : Prop :=
  ∀ record ∈ records, ∀ inquiry ∈ record.inquiries, inquiry.isServed = true

section Polls

variable {session : Session} {records earlier later : List PollRecord}

theorem Session.Conducted.split (h : session.Conducted (earlier ++ later))
    (hserved : Served (earlier ++ later)) :
    Session.Conducted
      { session with reconnecting := earlier.foldl PollRecord.leavesLost session.reconnecting }
      later := by
  induction earlier generalizing session with
  | nil => exact h
  | cons record rest ih =>
    cases h with
    | cons hpoll hrest =>
      have hnext := hpoll.next_eq (hserved record List.mem_cons_self)
      have hsplit := ih hrest fun other hmem ↦ hserved other (List.mem_cons_of_mem _ hmem)
      rw [hnext] at hsplit
      exact hsplit

theorem Session.Conducted.messages (h : session.Conducted records) (hserved : Served records) :
    payloadsOf (records.map PollRecord.result) =
      (outsideWaits session.reconnecting records).flatMap PollRecord.messages := by
  induction h with
  | nil session => rfl
  | @cons session next timeout record rest hpoll _ ih =>
    have hnext := hpoll.next_eq (hserved record List.mem_cons_self)
    have hrest := ih fun other hmem ↦ hserved other (List.mem_cons_of_mem _ hmem)
    unfold outsideWaits
    rw [List.map_cons, List.flatMap_append, ← List.singleton_append, payloadsOf_append, hrest,
      hpoll.messages, hnext]
    cases session.reconnecting <;> simp

theorem Session.Conducted.counts (h : session.Conducted records) (hserved : Served records) :
    ∀ record ∈ records, record.accepted = (if Feed.regains record.result then 1 else 0) ∧
      record.subscribed = record.accepted := by
  induction h with
  | nil session => exact fun _ hmem ↦ absurd hmem List.not_mem_nil
  | cons hpoll _ ih =>
    intro record hmem
    rcases List.mem_cons.mp hmem with rfl | hrest
    · exact hpoll.counts (hserved _ List.mem_cons_self)
    · exact ih (fun other hother ↦ hserved other (List.mem_cons_of_mem _ hother)) record hrest

/-- Assumes: something is asked once in polls that report a connection and in no other. It is asked
as often as polls report one. -/
theorem countP_inquiries {counted : Inquiry → Bool}
    (hcounts : ∀ record ∈ records,
      record.inquiries.countP counted = if Feed.regains record.result then 1 else 0) :
    (records.flatMap PollRecord.inquiries).countP counted =
      (records.map PollRecord.result).countP Feed.regains := by
  induction records with
  | nil => rfl
  | cons record rest ih =>
    have hrest := ih fun other hmem ↦ hcounts other (List.mem_cons_of_mem _ hmem)
    rw [List.flatMap_cons, List.countP_append, List.map_cons, List.countP_cons, hrest,
      hcounts record List.mem_cons_self, Nat.add_comm]

end Polls

section Courses

variable {ω : Type} (client : Client (StateM ω))

/-- A record changes nothing, and holds what the program asks. -/
theorem Asks.recorded {α : Type} {plain : StateM ω α} {noted : StateM (ω × List Inquiry) α}
    {told : List Inquiry → α → Prop} (h : Asks id plain noted told) (world : ω) :
    ∃ asked, Mqtt.recorded noted world = (((plain world).1, asked), (plain world).2) ∧
      told asked (plain world).1 := by
  obtain ⟨asked, hnoted, _, hasked, htold⟩ := h world []
  rw [List.map_id] at hasked
  subst hasked
  refine ⟨_, ?_, htold⟩
  unfold Mqtt.recorded
  rw [hnoted]
  rfl

/-- Every sequence of polls is conducted, and does the same with records as without. -/
theorem Session.recordedPolls_conducted (session : Session) (timeouts : List Duration)
    (world : ω) :
    ∃ records, session.recordedPolls client timeouts world =
        ((records, (session.polls client timeouts world).1.2),
          (session.polls client timeouts world).2) ∧
      (session.polls client timeouts world).1.1 = records.map PollRecord.result ∧
      session.Conducted records := by
  induction timeouts generalizing session world with
  | nil => exact ⟨[], rfl, rfl, .nil session⟩
  | cons timeout rest ih =>
    obtain ⟨asked, hpoll, hconducts⟩ := (session.poll_asks id client timeout).recorded world
    obtain ⟨records, hrecords, hresults, hconducted⟩ :=
      ih (session.poll client timeout world).1.2 (session.poll client timeout world).2
    refine ⟨⟨asked, (session.poll client timeout world).1.1⟩ :: records, ?_, ?_,
      .cons hconducts hconducted⟩
    · let first := recorded (session.poll (client.tracing id) timeout) world
      let later := first.1.1.2.recordedPolls client rest first.2
      calc session.recordedPolls client (timeout :: rest) world
          = ((⟨first.1.2, first.1.1.1⟩ :: later.1.1, later.1.2), later.2) := rfl
        _ = _ := by
          simp only [later, first, hpoll]
          rw [hrecords]
          rfl
    · rw [List.map_cons, ← hresults]
      rfl

/-- A course whose connecting succeeded does the same with records as without, and its polls are
conducted. -/
theorem Session.recordedCourse_conducted (session : Session) (timeouts : List Duration)
    {world last : ω} {connecting : List Inquiry} {records : List PollRecord}
    (hcourse : (session.recordedCourse client timeouts world).run =
      ((.ok (), connecting, records), last)) :
    (session.course client timeouts world).run =
        ((.ok (), records.map PollRecord.result), last) ∧
      session.Connects connecting (.ok ()) ∧ session.Conducted records := by
  obtain ⟨asked, hconnect, hconnects⟩ := (session.connect_asks id client).recorded world
  obtain ⟨polled, hpolls, hresults, hconducted⟩ :=
    session.recordedPolls_conducted client timeouts (session.connect client world).2
  let first := recorded (session.connect (client.tracing id)) world
  let later := session.recordedPolls client timeouts first.2
  have hwhole : (session.recordedCourse client timeouts world).run =
      ((first.1.1, first.1.2, later.1.1), later.2) := rfl
  simp only [later, first, hconnect] at hwhole
  rw [hpolls] at hwhole
  obtain ⟨hrecorded, rfl⟩ := Prod.mk.inj (hcourse.symm.trans hwhole)
  obtain ⟨hok, hrecords⟩ := Prod.mk.inj hrecorded
  obtain ⟨rfl, rfl⟩ := Prod.mk.inj hrecords
  refine ⟨?_, hok ▸ hconnects, hconducted⟩
  calc (session.course client timeouts world).run
      = (((session.connect client world).1,
          (session.polls client timeouts (session.connect client world).2).1.1),
          (session.polls client timeouts (session.connect client world).2).2) := rfl
    _ = _ := by rw [← hok, hresults]

end Courses

/-- Assumes: a session that was connected, and a client that does not end and takes subscriptions.
Whatever else it answers, and whatever the polls, which do the same with records as without:

while a poll has reported that the connection is lost and none was accepted since, every poll waits
for a new one with the full connection timeout, and either reports that it was regained or fails,
which counts as one failure in a row;

every connection that is accepted in a poll is reported by it, no poll reports another one, and
there are as many subscriptions as connections accepted, the first one included;

and the messages reported are those that came outside such waits, one by one and in order. -/
theorem Session.course_disciplined {ω : Type} (client : Client (StateM ω))
    (broker : Broker.Address) (settings : ListenerSettings) (world last : ω)
    (timeouts : List Duration) (connecting : List Inquiry) (records : List PollRecord)
    (hcourse : ((Session.new broker settings).recordedCourse client timeouts world).run =
      ((.ok (), connecting, records), last))
    (hserved : ∀ inquiry ∈ connecting ++ records.flatMap PollRecord.inquiries,
      inquiry.isServed = true) :
    let session := Session.new broker settings
    let results := records.map PollRecord.result
    let inquiries := connecting ++ records.flatMap PollRecord.inquiries
    (session.course client timeouts world).run = ((.ok (), results), last) ∧
    (∀ earlier record later, records = earlier ++ record :: later → isLost earlier = true →
      ∃ waits handshake, Awaiting session.connectTimeout waits handshake ∧
        ((handshake = .accepted ∧
            record = ⟨waits ++ [.subscription session.topic (.ok ())], .ok (some .connected)⟩) ∨
          (handshake ≠ .accepted ∧
            record = ⟨waits, .error (.disconnected (session.explain handshake))⟩ ∧
            failureStreak ((earlier ++ [record]).map PollRecord.result) =
              failureStreak (earlier.map PollRecord.result) + 1))) ∧
    (∀ record ∈ records, record.accepted = (if regains record.result then 1 else 0) ∧
      record.subscribed = record.accepted) ∧
    inquiries.countP Inquiry.isAccepted = results.countP regains + 1 ∧
    inquiries.countP Inquiry.isSubscription = inquiries.countP Inquiry.isAccepted ∧
    payloadsOf results = (outsideWaits false records).flatMap PollRecord.messages := by
  intro session results inquiries
  obtain ⟨hsame, hconnects, hconducted⟩ :=
    session.recordedCourse_conducted client timeouts hcourse
  have hpolls : Served records := fun record hmem inquiry hinquiry ↦
    hserved inquiry (List.mem_append_right _ (List.mem_flatMap.mpr ⟨record, hmem, hinquiry⟩))
  have hcounts := hconducted.counts hpolls
  have hconnecting : connecting.countP Inquiry.isAccepted = 1 ∧
      connecting.countP Inquiry.isSubscription = 1 :=
    hconnects.counts
  have haccepted : inquiries.countP Inquiry.isAccepted = results.countP regains + 1 := by
    rw [List.countP_append, hconnecting.1, Nat.add_comm, countP_inquiries]
    exact fun record hmem ↦ (hcounts record hmem).1
  have hsubscribed : inquiries.countP Inquiry.isSubscription = results.countP regains + 1 := by
    rw [List.countP_append, hconnecting.2, Nat.add_comm, countP_inquiries]
    exact fun record hmem ↦ (hcounts record hmem).2.trans (hcounts record hmem).1
  refine ⟨hsame, ?_, hcounts, haccepted, hsubscribed.trans haccepted.symm,
    hconducted.messages hpolls⟩
  rintro earlier record later rfl hlost
  have hrest := hconducted.split hpolls
  rw [show earlier.foldl PollRecord.leavesLost session.reconnecting = true from hlost] at hrest
  cases hrest with
  | cons hpoll _ =>
    have hmem : record ∈ earlier ++ record :: later :=
      List.mem_append_right _ List.mem_cons_self
    obtain ⟨waits, handshake, hwaits, hregained | ⟨hfailed, hrecord⟩⟩ :=
      hpoll.waits (hpolls record hmem) rfl
    · exact ⟨waits, handshake, hwaits, Or.inl hregained⟩
    · refine ⟨waits, handshake, hwaits, Or.inr ⟨hfailed, hrecord, ?_⟩⟩
      rw [List.map_append, hrecord]
      exact failureStreak_error _

/-- The connection drops, is refused once, and is regained. A message that comes meanwhile is not
reported. -/
def Rehearsal.flaky : Rehearsal where
  answers :=
    [.event .accepted, .event (.message [1]), .failed "dropped", .event (.message [2]),
      .failed "refused", .event .accepted, .event (.message [3])]
  outcomes := []

/-- What five polls ask then. -/
def PollRecord.flaky : List PollRecord :=
  let polled := ListenerSettings.standard.pollInterval
  let waited := ListenerSettings.standard.connectTimeout
  [⟨[.event polled (.event (.message [1])) 0], .ok (some (.payload [1]))⟩,
    ⟨[.event polled (.failed "dropped") 0], .error (.disconnected "dropped")⟩,
    ⟨[.event waited (.event (.message [2])) 0, .event (timeLeft waited 0) (.failed "refused") 0],
      .error (.disconnected "refused")⟩,
    ⟨[.event waited (.event .accepted) 0, .subscription Session.standard.topic (.ok ())],
      .ok (some .connected)⟩,
    ⟨[.event polled (.event (.message [3])) 0], .ok (some (.payload [3]))⟩]

/-- The poll that is refused has waited for a connection and counts as one failure more, and the
messages that are reported are the first one and the last one. -/
theorem Session.course_disciplined_flaky :
    (∃ waits handshake, Awaiting Session.standard.connectTimeout waits handshake ∧
      handshake ≠ .accepted ∧ failureStreak ((PollRecord.flaky.take 3).map PollRecord.result) =
        failureStreak ((PollRecord.flaky.take 2).map PollRecord.result) + 1) ∧
    payloadsOf (PollRecord.flaky.map PollRecord.result) =
      (outsideWaits false PollRecord.flaky).flatMap PollRecord.messages := by
  have hcourse : (Session.standard.recordedCourse Rehearsal.client
      (List.replicate 5 ListenerSettings.standard.pollInterval) .flaky).run =
        ((.ok (), [.event ListenerSettings.standard.connectTimeout (.event .accepted) 0,
          .subscription Session.standard.topic (.ok ())], PollRecord.flaky), ⟨[], []⟩) := by
    decide +kernel
  obtain ⟨-, hlost, -, -, -, hmessages⟩ := Session.course_disciplined Rehearsal.client .standard
    .standard .flaky _ _ _ _ hcourse (by decide)
  refine ⟨?_, hmessages⟩
  obtain ⟨waits, handshake, hwaits, ⟨-, hregained⟩ | ⟨hfailed, -, hstreak⟩⟩ :=
    hlost (PollRecord.flaky.take 2) _ (PollRecord.flaky.drop 3) rfl (by decide)
  · cases congrArg PollRecord.result hregained
  · exact ⟨waits, handshake, hwaits, hfailed, hstreak⟩

end LiveBoard.Mqtt
