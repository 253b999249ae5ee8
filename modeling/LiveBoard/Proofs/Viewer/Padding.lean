import LiveBoard.Proofs.Board.LastKnownGood
import LiveBoard.Proofs.Display.LostFrames
import LiveBoard.Proofs.Viewer.Interplay
import Mathlib.Logic.Relation

/-!
# Padding

Messages that change nothing are drawn like all others, and yet nothing of them is seen. A
coordinator whose renderer has no throttle draws every message at once, so what it writes depends
on the messages that it handled and on nothing else: not on the clock, not on the listener, and not
on which of them it took in the loop and which in the drain. That text is the `Transcript`, and
`Interplay.Transcribes` says of a state that its renderer has written it. A message that carries
nothing leaves the board as it is, and so does one that comes again directly after itself. The frame
is then the one that is shown, its difference has no marks and leaves the pen as it was, and the
transcript stays the same (`Transcript.of_padding`).
-/

set_option autoImplicit false
set_option relaxedAutoImplicit false

namespace LiveBoard.Viewer

open Display Feed Screen

/-! ### Transcripts -/

/-- What messages make of the board, what is known about the terminal then, and what was written. -/
structure Transcript where
  /-- The board. -/
  board : Board.State
  /-- What is known about the terminal. -/
  pen : Pen
  /-- The bytes of all drawings. -/
  bytes : List UInt8

/-- The transcript of the start: the empty board is drawn as a whole. -/
def Transcript.start : Transcript :=
  ⟨.initial, (repaint emptyView.painting).pen, (repaint emptyView.painting).bytes⟩

/-- What is drawn for a further message: the difference to the board before. -/
def Transcript.drawing (transcript : Transcript) (payload : Payload) : Drawing :=
  difference transcript.board.view.painting (transcript.board.receive payload).view.painting
    transcript.pen

/-- The transcript with a further message. -/
def Transcript.add (transcript : Transcript) (payload : Payload) : Transcript where
  board := transcript.board.receive payload
  pen := (transcript.drawing payload).pen
  bytes := transcript.bytes ++ (transcript.drawing payload).bytes

/-- The transcript of messages. -/
def Transcript.of (payloads : List Payload) : Transcript := payloads.foldl Transcript.add .start

/-- A sequence of messages is padded by one: it carries nothing, or comes again directly after
itself. -/
inductive Pads : List Payload → List Payload → Prop
  /-- A message that carries nothing comes anywhere. -/
  | junk (before after : List Payload) {payload : Payload}
      (hnothing : Board.carriesUpdate payload = false) :
      Pads (before ++ after) (before ++ payload :: after)
  /-- A message comes again directly after itself. -/
  | again (before after : List Payload) (payload : Payload) :
      Pads (before ++ payload :: after) (before ++ payload :: payload :: after)

section Transcripts

variable {transcript : Transcript} {payload : Payload}

/-- A message that leaves the board as it is leaves the transcript as it is. -/
theorem Transcript.add_of_receive (hsame : transcript.board.receive payload = transcript.board) :
    transcript.add payload = transcript := by
  have hdrawing : transcript.drawing payload = .start transcript.pen := by
    unfold Transcript.drawing
    rw [hsame, difference_self]
  have hbytes : transcript.bytes ++ (Drawing.start transcript.pen).bytes = transcript.bytes :=
    List.append_nil _
  unfold Transcript.add
  rw [hsame, hdrawing, hbytes]
  rfl

theorem Transcript.of_append (first second : List Payload) :
    Transcript.of (first ++ second) = second.foldl Transcript.add (.of first) :=
  List.foldl_append

theorem Transcript.of_pads {first second : List Payload} (h : Pads first second) :
    Transcript.of second = .of first := by
  cases h with
  | junk before after hnothing =>
    rw [Transcript.of_append, Transcript.of_append, List.foldl_cons,
      Transcript.add_of_receive (Board.State.receive_of_carriesUpdate _ _ hnothing)]
  | again before after payload =>
    rw [Transcript.of_append, Transcript.of_append, List.foldl_cons, List.foldl_cons,
      Transcript.add_of_receive (Board.State.receive_receive _ payload), List.foldl_cons]

/-- However much messages are padded, their transcript is the same. -/
theorem Transcript.of_padding {first second : List Payload}
    (h : Relation.ReflTransGen Pads first second) : Transcript.of second = .of first := by
  induction h with
  | refl => rfl
  | tail _ hlast ih => exact (Transcript.of_pads hlast).trans ih

end Transcripts

/-! ### Renderers without a throttle -/

/-- The renderer has no throttle, and all that it was to draw it has drawn on an outlet that
works. -/
structure Transcript.Written (transcript : Transcript) (outlet : Outlet) (renderer : Renderer) :
    Prop where
  tidy : renderer.Tidy
  unthrottled : renderer.throttle.interval = 0
  works : renderer.outlet.Works
  drawn : renderer.staged = false ∧ renderer.needsRepaint = false
  visible : renderer.visible = transcript.board.view.painting
  pen : renderer.pen = transcript.pen
  bytes : renderer.outlet.accepted.toList = outlet.accepted.toList ++ transcript.bytes

section Written

variable {outlet : Outlet} {renderer : Renderer} {transcript : Transcript} {now : Instant}

/-- What an unthrottled renderer draws on an outlet that works is written. -/
theorem Transcript.written_flush (htidy : (renderer.flush now).Tidy)
    (hunthrottled : renderer.throttle.interval = 0) (hworks : renderer.outlet.Works)
    (hnext : renderer.next = transcript.board.view.painting)
    (hpen : renderer.drawing.pen = transcript.pen)
    (hbytes : renderer.outlet.accepted.toList ++ renderer.drawing.bytes =
      outlet.accepted.toList ++ transcript.bytes) :
    transcript.Written outlet (renderer.flush now) := by
  obtain ⟨hvisible, hknown, hinterval, hclear⟩ := renderer.flush_fields now
  exact
    { tidy := htidy
      unthrottled := hinterval.trans hunthrottled
      works := Renderer.works_flush hworks now
      drawn := ⟨hclear, Renderer.needsRepaint_flush hworks now⟩
      visible := hvisible.trans hnext
      pen := hknown.trans hpen
      bytes := (Renderer.accepted_flush hworks now).trans hbytes }

/-- A message is drawn at once. -/
theorem Transcript.Written.add (h : transcript.Written outlet renderer) (payload : Payload)
    (now : Instant) :
    (transcript.add payload).Written outlet
      (renderer.update (transcript.board.receive payload).view now) := by
  have htidy := h.tidy.update (transcript.board.receive payload).view now
  have hnext := h.tidy.next_stage (transcript.board.receive payload).view
  obtain ⟨houtlet, hvisible, hpen, hthrottle, hrepaint⟩ :=
    renderer.stage_fields (transcript.board.receive payload).view
  have hdrawing : (renderer.stage (transcript.board.receive payload).view).drawing =
      transcript.drawing payload := by
    unfold Renderer.drawing Transcript.drawing
    rw [hrepaint, h.drawn.2, hvisible, h.visible, hnext, hpen, h.pen]
    rfl
  rw [Renderer.update_of_unthrottled h.unthrottled] at htidy ⊢
  refine Transcript.written_flush htidy ?_ ?_ ?_ ?_ ?_
  · rw [hthrottle, h.unthrottled]
  · rw [houtlet]
    exact h.works
  · rw [hnext, Transcript.add]
  · rw [hdrawing, Transcript.add]
  · rw [houtlet, h.bytes, hdrawing, List.append_assoc, Transcript.add]

/-- The start draws the empty board. -/
theorem Transcript.written_start (hworks : outlet.Works) (now : Instant) :
    Transcript.start.Written outlet
      (((Renderer.new outlet 0).update emptyView now).flushNow now) := by
  have hnew := Renderer.tidy_new outlet 0
  have htidy := (hnew.update emptyView now).flushNow now
  have hnext := hnew.next_stage emptyView
  have hdrawing : ((Renderer.new outlet 0).stage emptyView).drawing =
      repaint ((Renderer.new outlet 0).stage emptyView).next := if_pos rfl
  rw [hnext] at hdrawing
  rw [Renderer.flushNow_update rfl] at htidy ⊢
  have hunthrottled : ((Renderer.new outlet 0).stage emptyView).throttle.interval = 0 := rfl
  refine Transcript.written_flush htidy hunthrottled hworks hnext ?_ ?_
  · rw [hdrawing, Transcript.start]
  · have hbefore : ((Renderer.new outlet 0).stage emptyView).outlet = outlet := rfl
    rw [hdrawing, hbefore, Transcript.start]

end Written

/-! ### Coordinators without a throttle -/

/-- The coordinator has written the transcript of the messages that it handled, or nothing before
the start. -/
structure Interplay.Transcribes (state : Interplay) (outlet : Outlet) (payloads : List Payload) :
    Prop where
  sane : state.Sane
  board : state.coordinator.board = (Transcript.of payloads).board
  unstarted : state.listener = none →
    payloads = [] ∧ state.handoff.queue = [] ∧ state.coordinator.renderer = .new outlet 0
  started : state.listener ≠ none →
    (Transcript.of payloads).Written outlet state.coordinator.renderer

section Transcribes

variable {outlet : Outlet} {payloads : List Payload} {state : Interplay}

theorem Interplay.transcribes_new (outlet : Outlet) {settings : Settings}
    (hrate : settings.refreshPerSecond = 0) (surface : Option Bool) :
    (Interplay.new (.fresh outlet settings surface)).Transcribes outlet [] := by
  have hsane : (Interplay.new (.fresh outlet settings surface)).Sane := by
    cases surface <;> exact ⟨fun _ ↦ rfl, rfl⟩
  have hrenderer : (Coordinator.fresh outlet settings surface).renderer = .new outlet 0 := by
    rw [← hrate]
    cases surface <;> rfl
  have hboard : (Coordinator.fresh outlet settings surface).board = .initial := by
    cases surface <;> rfl
  exact ⟨hsane, hboard, fun _ ↦ ⟨rfl, rfl, hrenderer⟩, fun hstarted ↦ absurd rfl hstarted⟩

/-- An action writes what the transcript says of the message that it takes. -/
theorem Interplay.Transcribes.act (h : state.Transcribes outlet payloads) (settings : Settings)
    (now : Instant) :
    (state.step settings (.coordinator now)).Transcribes outlet
      (payloads ++ state.handled (.coordinator now)) := by
  have hsane := h.sane.step settings (.coordinator now)
  have hqueue := state.coordinator.act_queue settings state.handoff state.listener now
  have hstep : state.step settings (.coordinator now) =
      ⟨(state.coordinator.act settings state.handoff state.listener now).1, state.listener,
        (state.coordinator.act settings state.handoff state.listener now).2⟩ := rfl
  have hhandled : state.handled (.coordinator now) = state.coordinator.taken state.handoff := rfl
  rw [hstep] at hsane ⊢
  rw [hhandled]
  rcases state.coordinator.act_view settings state.handoff state.listener now with
    ⟨payload, htaken, hboard, hrenderer⟩ | ⟨htaken, hboard, hrenderer⟩
  · have hstarted : state.listener ≠ none := by
      intro hnone
      rw [htaken, (h.unstarted hnone).2.1] at hqueue
      cases hqueue
    have hadded : Transcript.of (payloads ++ [payload]) = (Transcript.of payloads).add payload :=
      Transcript.of_append payloads [payload]
    rw [htaken]
    refine ⟨hsane, ?_, fun hnone ↦ absurd hnone hstarted, fun _ ↦ ?_⟩
    · rw [hadded]
      exact hboard.trans (congrArg (Board.State.receive · payload) h.board)
    · rw [hadded]
      dsimp only
      rw [hrenderer, h.board]
      exact (h.started hstarted).add payload now
  · have hclear : state.coordinator.renderer.staged = false := by
      cases hlistener : state.listener with
      | none =>
        rw [(h.unstarted hlistener).2.2]
        rfl
      | some listener => exact (h.started (by simp [hlistener])).drawn.1
    have hsame : (state.coordinator.act settings state.handoff state.listener now).1.renderer =
        state.coordinator.renderer := by
      have htick : (RendererCall.tick now).view? = none := rfl
      have hflush : (RendererCall.flushNow now).view? = none := rfl
      rcases hrenderer with hsame | hticked | ⟨-, hflushed⟩
      · exact hsame
      · exact hticked.trans (Renderer.call_of_clear htick hclear)
      · exact hflushed.trans (Renderer.call_of_clear hflush hclear)
    rw [htaken, List.append_nil]
    refine ⟨hsane, hboard.trans h.board, ?_, ?_⟩
    · intro hnone
      obtain ⟨hnil, hempty, hnew⟩ := h.unstarted hnone
      rw [htaken] at hqueue
      exact ⟨hnil, hqueue.trans hempty, hsame.trans hnew⟩
    · intro hstarted
      dsimp only
      rw [hsame]
      exact h.started hstarted

/-- A start draws the empty board, unless it fails. -/
theorem Interplay.Transcribes.start (h : state.Transcribes outlet payloads)
    (hworks : outlet.Works) (settings : Settings) (spawning : Except String Unit)
    (now : Instant) :
    (state.step settings (.start spawning now)).Transcribes outlet payloads := by
  have hsane := h.sane.step settings (.start spawning now)
  rcases state.step_start settings spawning now with
    ⟨started, hstep, hstarting, -, -, -, hboard, hrenderer⟩ | ⟨spare, hstep⟩
  · obtain ⟨rfl, -, hnew⟩ := h.unstarted (h.sane.unstarted hstarting)
    have hempty : state.coordinator.board = .initial := h.board
    rw [hstep] at hsane ⊢
    refine ⟨hsane, hboard.trans h.board, (fun hnone ↦ by cases hnone), fun _ ↦ ?_⟩
    dsimp only
    rw [hrenderer, hnew, hempty]
    exact Transcript.written_start hworks now
  · rw [hstep] at hsane ⊢
    exact ⟨hsane, h.board, h.unstarted, h.started⟩

theorem Interplay.Transcribes.step (h : state.Transcribes outlet payloads)
    (hworks : outlet.Works) (settings : Settings) (move : Move) :
    (state.step settings move).Transcribes outlet (payloads ++ state.handled move) := by
  have hsane := h.sane.step settings move
  cases move with
  | coordinator now => exact h.act settings now
  | start spawning now =>
    rw [show state.handled (.start spawning now) = [] from rfl, List.append_nil]
    exact h.start hworks settings spawning now
  | run =>
    rw [show state.handled .run = [] from rfl, List.append_nil]
    rcases state.step_run settings with ⟨-, hstep⟩ | hstep
    · rw [hstep] at hsane ⊢
      exact ⟨hsane, h.board, h.unstarted, h.started⟩
    · rw [hstep]
      exact h
  | listener now reply =>
    rw [show state.handled (.listener now reply) = [] from rfl, List.append_nil]
    rcases state.step_listener settings now reply with ⟨listener, hlistener, hstep⟩ | ⟨-, hstep⟩
    · rw [hstep] at hsane ⊢
      exact ⟨hsane, h.board, (fun hnone ↦ by cases hnone),
        fun _ ↦ h.started (by simp [hlistener])⟩
    · rw [hstep]
      exact h
  | cancel =>
    rw [show state.handled .cancel = [] from rfl, List.append_nil]
    exact ⟨hsane, h.board, h.unstarted, h.started⟩

theorem Interplay.Transcribes.after (h : state.Transcribes outlet payloads)
    (hworks : outlet.Works) (settings : Settings) (moves : List Move) :
    (state.after settings moves).Transcribes outlet
      (payloads ++ Interplay.gather settings Interplay.handled state moves) := by
  induction moves generalizing state payloads with
  | nil =>
    rw [Interplay.gather, List.append_nil]
    exact h
  | cons move rest ih =>
    rw [Interplay.gather, ← List.append_assoc]
    exact ih (h.step hworks settings move)

end Transcribes

/-- Assumes: two coordinators, each with a new renderer without a throttle over an outlet that
works, which both were started, by whatever moves, and of which one handled the messages of the
other with any number of messages put in that carry nothing or come again directly after
themselves. Both have written the same bytes, and have the same board and the same visible frame,
whichever messages either took in the loop and which in the drain. -/
theorem Interplay.padding_unseen {settings settings' : Settings} {outlet outlet' : Display.Outlet}
    (hrate : settings.refreshPerSecond = 0) (hrate' : settings'.refreshPerSecond = 0)
    (hworks : outlet.Works) (hworks' : outlet'.Works) (surface surface' : Option Bool)
    (moves moves' : List Move) :
    let initial := Interplay.new (.fresh outlet settings surface)
    let initial' := Interplay.new (.fresh outlet' settings' surface')
    let viewer := (initial.after settings moves).coordinator
    let viewer' := (initial'.after settings' moves').coordinator
    (initial.after settings moves).listener ≠ none →
    (initial'.after settings' moves').listener ≠ none →
    Relation.ReflTransGen Pads (Interplay.gather settings Interplay.handled initial moves)
      (Interplay.gather settings' Interplay.handled initial' moves') →
    (∃ written : List UInt8,
      viewer.renderer.outlet.accepted.toList = outlet.accepted.toList ++ written ∧
      viewer'.renderer.outlet.accepted.toList = outlet'.accepted.toList ++ written) ∧
    viewer.board = viewer'.board ∧ viewer.renderer.visible = viewer'.renderer.visible := by
  intro initial initial' viewer viewer' hstarted hstarted' hpadding
  have htold := (Interplay.transcribes_new outlet hrate surface).after hworks settings moves
  have htold' :=
    (Interplay.transcribes_new outlet' hrate' surface').after hworks' settings' moves'
  rw [List.nil_append] at htold htold'
  have hsame := Transcript.of_padding hpadding
  have hwritten := htold.started hstarted
  have hwritten' := htold'.started hstarted'
  rw [hsame] at hwritten'
  refine ⟨⟨_, hwritten.bytes, hwritten'.bytes⟩, ?_, ?_⟩
  · rw [htold.board, htold'.board, hsame]
  · rw [hwritten.visible, hwritten'.visible]

/-! ### One message in the loop, three in the drain -/

/-- An object with a timestamp. -/
def timestampOnly : Payload :=
  Text.encodeText ['{', '"', 't', 'i', 'm', 'e', 's', 't', 'a', 'm', 'p', '"', ':', '1', '}']

/-- The start of a coordinator and of a run, and the listener connects. -/
def Move.connection : List Move :=
  [.start (.ok ()) 0, .run, .listener 0 (.connected (.ok ()))]

/-- The listener polls a message and sends it. -/
def Move.delivery (payload : Payload) : List Move :=
  [.listener 0 .nothing, .listener 0 (.polled (.returns (.ok (some (.payload payload))))),
    .listener 0 .nothing]

/-- A message is taken in the loop. -/
def Move.inLoop : List Move :=
  Move.connection ++ Move.delivery timestampOnly ++ [.coordinator 0, .coordinator 0]

/-- The message comes twice, then one that does not decode, and all are taken in the drain. -/
def Move.inDrain : List Move :=
  Move.connection ++ Move.delivery timestampOnly ++ Move.delivery timestampOnly ++
    Move.delivery [0x7B] ++
    [.cancel, .listener 0 .nothing, .listener 0 .nothing, .coordinator 0, .coordinator 0,
      .coordinator 0, .coordinator 0, .coordinator 0, .coordinator 0]

/-- The usual settings without a throttle. -/
def unthrottled : Settings := { Settings.standard with refreshPerSecond := 0 }

theorem Interplay.padding_unseen_inDrain :
    let initial := Interplay.new (.fresh .unlimited unthrottled none)
    let viewer := (initial.after unthrottled Move.inLoop).coordinator
    let viewer' := (initial.after unthrottled Move.inDrain).coordinator
    viewer.board = viewer'.board ∧
      viewer.renderer.outlet.accepted.toList = viewer'.renderer.outlet.accepted.toList := by
  intro initial viewer viewer'
  have hworks : Display.Outlet.unlimited.Works := Display.Outlet.works_of_over rfl rfl
  have hpadding : Relation.ReflTransGen Pads [timestampOnly]
      [timestampOnly, timestampOnly, [0x7B]] :=
    .tail (.single (.again [] [] timestampOnly)) (.junk [timestampOnly, timestampOnly] [] rfl)
  have hhandled : Interplay.gather unthrottled Interplay.handled initial Move.inLoop =
      [timestampOnly] := by decide +kernel
  have hhandled' : Interplay.gather unthrottled Interplay.handled initial Move.inDrain =
      [timestampOnly, timestampOnly, [0x7B]] := by decide +kernel
  have hstarted : (initial.after unthrottled Move.inLoop).listener ≠ none := by decide +kernel
  have hstarted' : (initial.after unthrottled Move.inDrain).listener ≠ none := by decide +kernel
  rw [← hhandled, ← hhandled'] at hpadding
  obtain ⟨⟨written, hwritten, hwritten'⟩, hboard, -⟩ := Interplay.padding_unseen rfl rfl hworks
    hworks none none Move.inLoop Move.inDrain hstarted hstarted' hpadding
  constructor
  · rw [hboard]
  · rw [hwritten, hwritten']

end LiveBoard.Viewer
