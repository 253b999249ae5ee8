import LiveBoard.Mqtt.Session
import Mathlib.Data.List.Basic

/-!
# Notes on a client

What a client is asked to receive and to subscribe, and what it answers (`Inquiry`), is noted for
any client whatever it answers, by notes of any kind (`Client.tracing`). Those of the kind `Note`
(`Client.noting`) tell whether a subscription was queued on the connection that was accepted last
(`SubscribedTo`), which one attempt on that connection decides (`TriedOnce.subscribedTo_iff`).

A program does the same with notes as without, and only adds to them. What it adds is told together
with what it returns (`Records`), for one program after the other (`Records.bind`), and so is what
it asks (`Asks`).
-/

set_option autoImplicit false
set_option relaxedAutoImplicit false

namespace LiveBoard.Mqtt

/-- What a client was asked, with its answer. -/
inductive Note
  /-- It was asked for its next event. -/
  | received (answer : Answer)
  /-- It was asked to subscribe to a topic. -/
  | subscribed (topic : String) (outcome : Except String Unit)
  deriving DecidableEq

/-- What a client was asked, with all that it was told and answered. -/
inductive Inquiry
  /-- For its next event, within a time, and how long that took. -/
  | event (limit : Duration) (answer : Answer) (elapsed : Duration)
  /-- To subscribe to a topic. -/
  | subscription (topic : String) (outcome : Except String Unit)
  deriving DecidableEq

/-- What is noted of an inquiry. -/
def Inquiry.note : Inquiry → Note
  | .event _ answer _ => .received answer
  | .subscription topic outcome => .subscribed topic outcome

/-- The same client, with notes of some kind on what it is asked. -/
def Client.tracing {ω ν : Type} (note : Inquiry → ν) (client : Client (StateM ω)) :
    Client (StateM (ω × List ν)) where
  receive limit := fun (world, notes) ↦
    let (result, world) := client.receive limit world
    (result, world, notes ++ [note (.event limit result.1 result.2)])
  subscribe topic := fun (world, notes) ↦
    let (outcome, world) := client.subscribe topic world
    (outcome, world, notes ++ [note (.subscription topic outcome)])
  unsubscribe topic := fun (world, notes) ↦
    let (outcome, world) := client.unsubscribe topic world
    (outcome, world, notes)
  disconnect := fun (world, notes) ↦
    let (outcome, world) := client.disconnect world
    (outcome, world, notes)
  log event := fun (world, notes) ↦
    let (result, world) := client.log event world
    (result, world, notes)

/-- The same client, with notes. -/
def Client.noting {ω : Type} (client : Client (StateM ω)) : Client (StateM (ω × List Note)) where
  receive timeout := fun (world, notes) ↦
    let (result, world) := client.receive timeout world
    (result, world, notes ++ [.received result.1])
  subscribe topic := fun (world, notes) ↦
    let (outcome, world) := client.subscribe topic world
    (outcome, world, notes ++ [.subscribed topic outcome])
  unsubscribe topic := fun (world, notes) ↦
    let (outcome, world) := client.unsubscribe topic world
    (outcome, world, notes)
  disconnect := fun (world, notes) ↦
    let (outcome, world) := client.disconnect world
    (outcome, world, notes)
  log event := fun (world, notes) ↦
    let (result, world) := client.log event world
    (result, world, notes)

theorem Client.noting_eq_tracing {ω : Type} (client : Client (StateM ω)) :
    client.noting = client.tracing Inquiry.note := rfl

/-! ### What notes tell -/

/-- A subscription to a topic was queued since the broker last accepted a connection. -/
def SubscribedTo (topic : String) (notes : List Note) : Prop :=
  ∃ earlier later, notes = earlier ++ .subscribed topic (.ok ()) :: later ∧
    .received (.event .accepted) ∉ later

/-- Nothing was accepted and no subscription tried. -/
def Quiet (notes : List Note) : Prop :=
  ∀ note ∈ notes, ∃ answer, note = .received answer ∧ answer ≠ .event .accepted

/-- The connection that was accepted last had one subscription tried on it, with this outcome. -/
def TriedOnce (topic : String) (outcome : Except String Unit) (notes : List Note) : Prop :=
  ∃ earlier later,
    notes = earlier ++ .received (.event .accepted) :: .subscribed topic outcome :: later ∧
      Quiet later

section Notes

variable {topic : String} {outcome : Except String Unit} {notes added : List Note}

theorem quiet_nil : Quiet [] := fun _ hmem ↦ absurd hmem List.not_mem_nil

theorem quiet_cons {answer : Answer} (hanswer : answer ≠ .event .accepted) (h : Quiet added) :
    Quiet (.received answer :: added) := by
  intro note hmem
  rcases List.mem_cons.mp hmem with hfirst | hlater
  · exact ⟨answer, hfirst, hanswer⟩
  · exact h note hlater

theorem Quiet.append {more : List Note} (h : Quiet added) (hmore : Quiet more) :
    Quiet (added ++ more) := by
  intro note hmem
  rcases List.mem_append.mp hmem with hfirst | hsecond
  · exact h note hfirst
  · exact hmore note hsecond

theorem Quiet.not_accepted (h : Quiet added) : .received (.event .accepted) ∉ added := by
  intro hmem
  obtain ⟨answer, hnote, hanswer⟩ := h _ hmem
  cases hnote
  exact hanswer rfl

theorem Quiet.not_subscribed (h : Quiet added) (topic : String) (outcome : Except String Unit) :
    .subscribed topic outcome ∉ added := by
  intro hmem
  obtain ⟨answer, hnote, -⟩ := h _ hmem
  cases hnote

theorem TriedOnce.append_quiet (h : TriedOnce topic outcome notes) (hquiet : Quiet added) :
    TriedOnce topic outcome (notes ++ added) := by
  obtain ⟨earlier, later, rfl, hlater⟩ := h
  refine ⟨earlier, later ++ added, ?_, hlater.append hquiet⟩
  rw [List.append_assoc]
  rfl

theorem triedOnce_append (topic : String) (outcome : Except String Unit)
    (notes added : List Note) :
    TriedOnce topic outcome
      (notes ++ (added ++ [.received (.event .accepted), .subscribed topic outcome])) :=
  ⟨notes ++ added, [], (List.append_assoc ..).symm, quiet_nil⟩

/-- The attempt on the connection that was accepted last decides. -/
theorem TriedOnce.subscribedTo_iff (h : TriedOnce topic outcome notes) :
    SubscribedTo topic notes ↔ outcome = .ok () := by
  obtain ⟨earlier, later, rfl, hlater⟩ := h
  constructor
  · rintro ⟨before, since, hnotes, haccepted⟩
    rcases List.append_eq_append_iff.mp hnotes with ⟨between, -, hrest⟩ | ⟨between, -, hrest⟩
    -- the subscription that counts comes after what was accepted last, and nothing else does
    · match between, hrest with
      | [_], hrest =>
        cases hrest
        rfl
      | _ :: _ :: more, hrest =>
        injection hrest with _ hrest
        injection hrest with _ hrest
        refine absurd ?_ (hlater.not_subscribed topic (.ok ()))
        rw [hrest]
        exact List.mem_append_right more (List.mem_cons_self ..)
    -- it cannot come before
    · match between, hrest with
      | _ :: more, hrest =>
        injection hrest with _ hrest
        refine absurd ?_ haccepted
        rw [hrest]
        exact List.mem_append_right more (List.mem_cons_self ..)
  · rintro rfl
    exact ⟨earlier ++ [.received (.event .accepted)], later, by simp, hlater.not_accepted⟩

end Notes

/-! ### What a program adds to the notes -/

/-- With notes of some kind a program does the same as without, and it adds to them what is told
together with its result. -/
def Records {ω ν α : Type} (plain : StateM ω α) (noted : StateM (ω × List ν) α)
    (told : List ν → α → Prop) : Prop :=
  ∀ world notes, ∃ added,
    noted (world, notes) = ((plain world).1, (plain world).2, notes ++ added) ∧
      told added (plain world).1

section Records

variable {ω ν α β : Type} {plain : StateM ω α} {noted : StateM (ω × List ν) α}
  {following : α → StateM ω β} {notedFollowing : α → StateM (ω × List ν) β}
  {told weaker : List ν → α → Prop} {whole : List ν → β → Prop}

theorem Records.mono (h : Records plain noted told)
    (hweaker : ∀ added result, told added result → weaker added result) :
    Records plain noted weaker := by
  intro world notes
  obtain ⟨added, hnoted, htold⟩ := h world notes
  exact ⟨added, hnoted, hweaker _ _ htold⟩

theorem records_pure {result : α} (h : told [] result) :
    Records (pure result : StateM ω α) (pure result) told := by
  intro world notes
  refine ⟨[], ?_, h⟩
  rw [List.append_nil]
  rfl

/-- Of two programs, the second adds to what the first has added. -/
theorem Records.bind (h : Records plain noted told)
    (hfollowing : ∀ added result, told added result →
      Records (following result) (notedFollowing result) fun more ↦ whole (added ++ more)) :
    Records (plain >>= following) (noted >>= notedFollowing) whole := by
  intro world notes
  obtain ⟨added, hnoted, htold⟩ := h world notes
  obtain ⟨more, hmore, hwhole⟩ := hfollowing added _ htold (plain world).2 (notes ++ added)
  refine ⟨added ++ more, ?_, hwhole⟩
  calc (noted >>= notedFollowing) (world, notes)
      = notedFollowing (noted (world, notes)).1 (noted (world, notes)).2 := rfl
    _ = notedFollowing (plain world).1 ((plain world).2, notes ++ added) := by rw [hnoted]
    _ = ((following (plain world).1 (plain world).2).1,
          (following (plain world).1 (plain world).2).2, notes ++ added ++ more) := hmore
    _ = (((plain >>= following) world).1, ((plain >>= following) world).2,
          notes ++ (added ++ more)) := by rw [List.append_assoc]; rfl

end Records

/-! ### What a program asks -/

/-- What is noted of a program are its inquiries, which are told together with its result. -/
def Asks {ω ν α : Type} (note : Inquiry → ν) (plain : StateM ω α)
    (noted : StateM (ω × List ν) α) (told : List Inquiry → α → Prop) : Prop :=
  Records plain noted fun added result ↦ ∃ asked, added = asked.map note ∧ told asked result

section Asks

variable {ω ν α β : Type} {note : Inquiry → ν} {plain : StateM ω α}
  {noted : StateM (ω × List ν) α} {following : α → StateM ω β}
  {notedFollowing : α → StateM (ω × List ν) β} {told weaker : List Inquiry → α → Prop}
  {whole : List Inquiry → β → Prop}

theorem Asks.mono (h : Asks note plain noted told)
    (hweaker : ∀ asked result, told asked result → weaker asked result) :
    Asks note plain noted weaker := by
  refine Records.mono h ?_
  rintro _ result ⟨asked, rfl, htold⟩
  exact ⟨asked, rfl, hweaker asked result htold⟩

theorem asks_pure {result : α} (h : told [] result) :
    Asks note (pure result : StateM ω α) (pure result) told :=
  records_pure ⟨[], rfl, h⟩

/-- Of two programs, the second asks after the first has asked. -/
theorem Asks.bind (h : Asks note plain noted told)
    (hfollowing : ∀ asked result, told asked result →
      Asks note (following result) (notedFollowing result) fun more ↦ whole (asked ++ more)) :
    Asks note (plain >>= following) (noted >>= notedFollowing) whole := by
  refine Records.bind h ?_
  rintro _ result ⟨asked, rfl, htold⟩
  refine Records.mono (hfollowing asked result htold) ?_
  rintro _ _ ⟨more, rfl, hwhole⟩
  exact ⟨asked ++ more, List.map_append.symm, hwhole⟩

variable (note) (client : Client (StateM ω))

theorem asks_receive (limit : Duration) :
    Asks note (client.receive limit) ((client.tracing note).receive limit) fun asked result ↦
      asked = [.event limit result.1 result.2] :=
  fun _ _ ↦ ⟨_, rfl, _, rfl, rfl⟩

theorem asks_subscribe (topic : String) :
    Asks note (client.subscribe topic) ((client.tracing note).subscribe topic)
      fun asked outcome ↦ asked = [.subscription topic outcome] :=
  fun _ _ ↦ ⟨_, rfl, _, rfl, rfl⟩

theorem asks_log (event : Log.Event) :
    Asks note (client.log event) ((client.tracing note).log event) fun asked _ ↦ asked = [] := by
  intro world notes
  refine ⟨[], ?_, [], rfl, rfl⟩
  rw [List.append_nil]
  rfl

end Asks

end LiveBoard.Mqtt
