import LiveBoard.Proofs.Display.RendererCalls
import LiveBoard.Proofs.Viewer.Delivery
import Mathlib.Data.List.Chain

/-!
# The spacing of repaints

Frames are drawn by the start, by messages, when a staged frame comes due, in the drain, and at the
end of a run (`Interplay.repaints`). Every one but the last kind has to be due, so it comes an
interval after the one before it: the throttle keeps the time of the frame drawn last
(`Interplay.Paced`). The end of a run may draw early, but nothing is drawn after it until another
run begins (`Interplay.Closing`). So repaints are spaced but for the last one, which bounds their
number in any span of time (`Interplay.repaints_spaced`).
-/

set_option autoImplicit false
set_option relaxedAutoImplicit false

namespace LiveBoard.Viewer

open Feed Display

/-- A frame that is drawn: when, and whether by the end of a run. -/
structure Repaint where
  time : Instant
  closing : Bool
  deriving DecidableEq, Repr

/-- When a move is made, if it reads the clock. -/
def Move.time? : Move → Option Instant
  | .start _ now => some now
  | .coordinator now => some now
  | .listener now _ => some now
  | .run => none
  | .cancel => none

/-- The number of frames drawn so far. -/
def Interplay.frames (state : Interplay) : Nat := state.coordinator.renderer.stats.frames

/-- The frames that are drawn in a move: as many as it adds to the count. -/
def Interplay.repaints (settings : Settings) (state : Interplay) (move : Move) : List Repaint :=
  match move.time? with
  | some now =>
    List.replicate ((state.step settings move).frames - state.frames)
      ⟨now, state.coordinator.isFinishing⟩
  | none => []

/-! ### What a move draws -/

/-- A move draws nothing, or one frame: it is counted and marked, and it is due unless it is the
closing one of a run. -/
inductive Interplay.Draws (state next : Interplay) : List Repaint → Prop
  | nothing (hthrottle : next.coordinator.renderer.throttle = state.coordinator.renderer.throttle)
      (hframes : next.frames = state.frames) : Draws state next []
  | one (repaint : Repaint)
      (hthrottle : next.coordinator.renderer.throttle =
        state.coordinator.renderer.throttle.mark repaint.time)
      (hframes : next.frames = state.frames + 1)
      (hdue : repaint.closing = true ∨
        state.coordinator.renderer.throttle.isDue repaint.time = true)
      (hclosing : repaint.closing = state.coordinator.isFinishing) : Draws state next [repaint]

/-- Before the start nothing was drawn, and the coordinator has no other task than to stop. -/
def Interplay.Untouched (state : Interplay) : Prop :=
  state.coordinator.phase = .starting →
    state.coordinator.renderer.throttle.last = none ∧
      (state.coordinator.task = .idle ∨ state.coordinator.task = .stopping)

section Moves

variable (settings : Settings) (state : Interplay)

/-- An action of the coordinator draws what is not due only where it ends the run. -/
theorem Coordinator.paces_act (coordinator : Coordinator) (handoff : Handoff)
    (listener : Option Listener) (now : Instant) :
    coordinator.renderer.Paces (coordinator.act settings handoff listener now).1.renderer now
      coordinator.isFinishing := by
  have hcall : ∀ call : RendererCall, call.now = now → call.isForced = false →
      coordinator.renderer.Paces (coordinator.renderer.call call) now coordinator.isFinishing := by
    rintro call rfl hforced
    rcases coordinator.renderer.paces_call call with hnone | ⟨hmark, hframes, hdue⟩
    · exact Or.inl hnone
    · exact Or.inr ⟨hmark, hframes, Or.inr (hdue.resolve_left (by simp [hforced]))⟩
  rcases coordinator.act_view settings handoff listener now with
    ⟨payload, -, -, hrenderer⟩ | ⟨-, -, hrenderer | hrenderer | ⟨hfinishing, hrenderer⟩⟩
  · rw [hrenderer]
    exact hcall (.update _ now) rfl rfl
  · rw [hrenderer]
    exact Renderer.paces_refl now _
  · rw [hrenderer]
    exact hcall (.tick now) rfl rfl
  · rw [hrenderer, hfinishing]
    exact coordinator.renderer.paces_call (.flushNow now)

theorem Interplay.draws_of_time {move : Move} {now : Instant} (htime : move.time? = some now)
    (hpaces : state.coordinator.renderer.Paces
      (state.step settings move).coordinator.renderer now state.coordinator.isFinishing) :
    state.Draws (state.step settings move) (state.repaints settings move) := by
  unfold Interplay.repaints
  rw [htime]
  dsimp only
  rcases hpaces with ⟨hthrottle, hframes⟩ | ⟨hthrottle, hframes, hdue⟩
  · have hcount : (state.step settings move).frames - state.frames = 0 :=
      Nat.sub_eq_zero_of_le (Nat.le_of_eq hframes)
    rw [hcount]
    exact .nothing hthrottle hframes
  · have hcount : (state.step settings move).frames - state.frames = 1 :=
      Nat.sub_eq_of_eq_add' hframes
    rw [hcount]
    exact .one ⟨now, _⟩ hthrottle hframes hdue rfl

theorem Interplay.draws_nothing {move : Move}
    (hsame : (state.step settings move).coordinator.renderer = state.coordinator.renderer) :
    state.Draws (state.step settings move) (state.repaints settings move) := by
  have hframes : (state.step settings move).frames = state.frames :=
    congrArg (fun renderer ↦ renderer.stats.frames) hsame
  unfold Interplay.repaints
  rw [hframes, Nat.sub_self]
  cases move.time? <;> exact .nothing (congrArg Renderer.throttle hsame) hframes

theorem Interplay.draws_step (h : state.Untouched) (move : Move) :
    state.Draws (state.step settings move) (state.repaints settings move) := by
  rcases state.coordinator_cases settings move with ⟨now, rfl, hstep⟩ |
    ⟨spawning, now, rfl, hstarting, hidle, -, -, hrenderer⟩ | ⟨-, -, hstep⟩ | ⟨spare, hstep⟩
  · refine state.draws_of_time settings rfl ?_
    rw [hstep]
    exact state.coordinator.paces_act settings state.handoff state.listener now
  · refine state.draws_of_time settings rfl ?_
    have hfinishing : state.coordinator.isFinishing = false := by
      unfold Coordinator.isFinishing
      rw [hidle]
    rw [hrenderer, hfinishing, Renderer.flushNow_update (h hstarting).1]
    exact Or.inr ⟨rfl, rfl, Or.inr (Throttle.isDue_of_first (h hstarting).1 now)⟩
  · exact state.draws_nothing settings (by rw [hstep]; rfl)
  · exact state.draws_nothing settings (by rw [hstep])

theorem Interplay.Untouched.step (h : state.Untouched) (move : Move) :
    (state.step settings move).Untouched := by
  intro hphase
  rcases state.coordinator_cases settings move with ⟨now, -, hstep⟩ |
    ⟨spawning, now, -, -, -, hrunning, -⟩ | ⟨-, hidle, hstep⟩ | ⟨spare, hstep⟩
  · rw [hstep] at hphase ⊢
    have hbefore := Coordinator.phase_act hphase
    rcases (h hbefore).2 with htask | htask
    · rw [Coordinator.act_of_idle htask]
      exact h hbefore
    · cases hholds : state.coordinator.holdsListener with
      | true =>
        rw [Coordinator.act_stopping_of_holds htask hholds] at hphase
        cases hphase
      | false =>
        rw [Coordinator.act_stopping_of_released htask hholds] at hphase
        cases hphase
  · cases hrunning.symm.trans hphase
  · rw [hstep] at hphase ⊢
    have hbefore : state.coordinator.phase = .starting := hphase
    refine ⟨(h hbefore).1, Or.inr ?_⟩
    rw [Coordinator.beginRun_of_not_running (hbefore ▸ Phase.noConfusion)]
  · rw [hstep] at hphase ⊢
    exact h hphase

end Moves

/-! ### What was drawn -/

/-- Any two frames in a row are an interval apart, unless the second one closes a run. -/
def Repaint.Spaced (interval : Duration) (repaints : List Repaint) : Prop :=
  repaints.IsChain fun first second ↦
    second.closing = true ∨ interval ≤ second.time - first.time

/-- What holds of a state and of the frames that were drawn on the way to it. -/
structure Interplay.Paced (interval : Duration) (state : Interplay) (repaints : List Repaint) :
    Prop where
  untouched : state.Untouched
  throttle : state.coordinator.renderer.throttle.interval = interval
  last : state.coordinator.renderer.throttle.last = repaints.getLast?.map Repaint.time
  frames : state.frames = repaints.length
  spaced : Repaint.Spaced interval repaints

section Paced

variable {settings : Settings} {state : Interplay} {interval : Duration} {repaints : List Repaint}

theorem Interplay.paced_new (outlet : Outlet) (settings : Settings) (surface : Option Bool) :
    (Interplay.new (.fresh outlet settings surface)).Paced
      (Throttle.perSecond settings.refreshPerSecond).interval [] := by
  cases surface with
  | none => exact ⟨fun _ ↦ ⟨rfl, Or.inl rfl⟩, rfl, rfl, rfl, .nil⟩
  | some alternate => exact ⟨fun _ ↦ ⟨rfl, Or.inl rfl⟩, rfl, rfl, rfl, .nil⟩

theorem Interplay.Paced.step (h : state.Paced interval repaints) (move : Move) :
    (state.step settings move).Paced interval (repaints ++ state.repaints settings move) := by
  have huntouched := h.untouched.step settings state move
  have hdraws := state.draws_step settings h.untouched move
  generalize state.repaints settings move = new at hdraws ⊢
  cases hdraws with
  | nothing hthrottle hframes =>
    rw [List.append_nil]
    exact ⟨huntouched, hthrottle ▸ h.throttle, hthrottle ▸ h.last, hframes.trans h.frames,
      h.spaced⟩
  | one repaint hthrottle hframes hdue hclosing =>
    refine ⟨huntouched, ?_, ?_, ?_, ?_⟩
    · rw [hthrottle]
      exact h.throttle
    · rw [hthrottle, List.getLast?_concat]
      rfl
    · rw [hframes, h.frames, List.length_append]
      rfl
    · -- the frame drawn before is the one that the throttle has marked
      refine List.isChain_append.mpr ⟨h.spaced, .singleton repaint, ?_⟩
      rintro before hbefore after hafter
      obtain rfl : repaint = after := by simpa using hafter
      refine hdue.imp_right fun hdue ↦ ?_
      rw [← h.throttle]
      refine Throttle.le_of_isDue hdue ?_
      rw [h.last, Option.mem_def.mp hbefore]
      rfl

theorem Interplay.Paced.gather (h : state.Paced interval []) (settings : Settings)
    (moves : List Move) :
    (state.after settings moves).Paced interval
      (Interplay.gather settings (Interplay.repaints settings) state moves) := by
  induction moves using List.reverseRecOn with
  | nil => exact h
  | append_singleton moves move ih =>
    rw [state.after_append, state.gather_append, Interplay.gather_singleton]
    exact ih.step move

end Paced

/-! ### The end of a run -/

/-- No run is going on, and the coordinator cannot be started any more. -/
structure Interplay.IsOver (state : Interplay) : Prop where
  phase : state.coordinator.phase = .stopped
  task : state.coordinator.task = .idle

/-- What holds, after so many runs began, of a state and of the frames that were drawn on the way to
it. Before a run there is nothing to do, and after a frame that closes one nothing is drawn. -/
structure Interplay.Closing (runs : Nat) (state : Interplay) (repaints : List Repaint) : Prop where
  waiting : runs = 0 → state.coordinator.task = .idle
  earlier : ∀ repaint ∈ repaints.dropLast, repaint.closing = false
  ended : (∃ repaint ∈ repaints, repaint.closing = true) → runs ≠ 0 ∧ state.IsOver

section Closing

variable {settings : Settings} {state : Interplay} {interval : Duration} {runs : Nat}
  {repaints : List Repaint}

/-- As long as no run begins there is nothing to do, and once the coordinator was started nothing is
drawn either. -/
theorem Interplay.step_idle (hidle : state.coordinator.task = .idle) {move : Move}
    (hmove : move.isRun = false) :
    (state.step settings move).coordinator.task = .idle ∧
      (state.coordinator.phase ≠ .starting →
        (state.step settings move).coordinator.phase = state.coordinator.phase ∧
          (state.step settings move).frames = state.frames) := by
  unfold Interplay.frames
  rcases state.coordinator_cases settings move with ⟨now, -, hstep⟩ |
    ⟨spawning, now, -, hstarting, -, -, htask, -⟩ | ⟨hrun, -, -⟩ | ⟨spare, hstep⟩
  · rw [hstep, Coordinator.act_of_idle hidle]
    exact ⟨hidle, fun _ ↦ ⟨rfl, rfl⟩⟩
  · exact ⟨htask, fun hstarted ↦ absurd hstarting hstarted⟩
  · rw [hrun] at hmove
    cases hmove
  · rw [hstep]
    exact ⟨hidle, fun _ ↦ ⟨rfl, rfl⟩⟩

theorem Interplay.IsOver.step (h : state.IsOver) (settings : Settings) {move : Move}
    (hmove : move.isRun = false) :
    (state.step settings move).IsOver ∧ (state.step settings move).frames = state.frames := by
  obtain ⟨htask, hsame⟩ := Interplay.step_idle h.task hmove
  obtain ⟨hphase, hframes⟩ := hsame (by rw [h.phase]; exact Phase.noConfusion)
  exact ⟨⟨hphase.trans h.phase, htask⟩, hframes⟩

/-- Where a frame closes a run, all is over then. -/
theorem Interplay.isOver_of_closing {move : Move}
    (hframes : (state.step settings move).frames = state.frames + 1)
    (hfinishing : state.coordinator.isFinishing = true) : (state.step settings move).IsOver := by
  unfold Coordinator.isFinishing at hfinishing
  split at hfinishing
  case h_2 => cases hfinishing
  case h_1 report htask =>
    by_cases hmove : ∃ now, move = .coordinator now
    · obtain ⟨now, rfl⟩ := hmove
      rw [Interplay.step_act, Coordinator.act_finishing htask]
      exact ⟨rfl, rfl⟩
    · have hbusy : state.coordinator.task ≠ .idle := by
        rw [htask]
        exact Task.noConfusion
      have hsame := Interplay.coordinator_step settings (not_exists.mp hmove) hbusy
      unfold Interplay.frames at hframes
      rw [hsame] at hframes
      omega

theorem Interplay.Closing.step (h : state.Closing runs repaints) (huntouched : state.Untouched)
    (move : Move) (hruns : runs + [move].countP Move.isRun ≤ 1) :
    (state.step settings move).Closing (runs + [move].countP Move.isRun)
      (repaints ++ state.repaints settings move) := by
  have hdraws := state.draws_step settings huntouched move
  generalize state.repaints settings move = new at hdraws ⊢
  have hwaiting : runs + [move].countP Move.isRun = 0 →
      (state.step settings move).coordinator.task = .idle := by
    intro hnone
    obtain ⟨rfl, hmove⟩ := Nat.add_eq_zero_iff.mp hnone
    exact (Interplay.step_idle (h.waiting rfl) (by simpa using hmove)).1
  by_cases hclosed : ∃ repaint ∈ repaints, repaint.closing = true
  · obtain ⟨hbegun, hover⟩ := h.ended hclosed
    have hmove : move.isRun = false := by
      have hnone : [move].countP Move.isRun = 0 := by omega
      simpa using hnone
    obtain ⟨hover', hframes⟩ := hover.step settings hmove
    cases hdraws with
    | nothing hthrottle _ =>
      rw [List.append_nil]
      exact ⟨hwaiting, h.earlier, fun _ ↦ ⟨by omega, hover'⟩⟩
    | one repaint _ hmore => omega
  · have hopen : ∀ repaint ∈ repaints, repaint.closing = false := by simpa using hclosed
    cases hdraws with
    | nothing hthrottle hframes =>
      rw [List.append_nil]
      exact ⟨hwaiting, h.earlier, fun hsome ↦ absurd hsome hclosed⟩
    | one repaint hthrottle hframes hdue hclosing =>
      refine ⟨hwaiting, ?_, ?_⟩
      · rw [List.dropLast_concat]
        exact hopen
      · rintro ⟨last, hmem, hlast⟩
        obtain rfl : last = repaint := by
          rcases List.mem_append.mp hmem with hold | hnew
          · exact absurd hlast (by simp [hopen last hold])
          · exact List.mem_singleton.mp hnew
        have hfinishing : state.coordinator.isFinishing = true := hclosing.symm.trans hlast
        refine ⟨?_, Interplay.isOver_of_closing hframes hfinishing⟩
        intro hnone
        have hidle := h.waiting (by omega)
        unfold Coordinator.isFinishing at hfinishing
        rw [hidle] at hfinishing
        cases hfinishing

theorem Interplay.closing_gather (settings : Settings) (hidle : state.coordinator.task = .idle)
    (hpaced : state.Paced interval []) (moves : List Move)
    (hruns : moves.countP Move.isRun ≤ 1) :
    (state.after settings moves).Closing (moves.countP Move.isRun)
      (Interplay.gather settings (Interplay.repaints settings) state moves) := by
  induction moves using List.reverseRecOn with
  | nil => exact ⟨fun _ ↦ hidle, fun _ hmem ↦ absurd hmem List.not_mem_nil, by rintro ⟨_, ⟨⟩, -⟩⟩
  | append_singleton moves move ih =>
    rw [List.countP_append] at hruns ⊢
    rw [state.after_append, state.gather_append, Interplay.gather_singleton]
    exact (ih (by omega)).step (hpaced.gather settings moves).untouched move hruns

end Closing

/-! ### Counting -/

theorem add_le_of_apart {interval first second : Nat} (hinterval : interval ≠ 0)
    (hapart : interval ≤ second - first) : first + interval ≤ second := by
  omega

/-- Frames none of which closes a run are spaced by their times, not only each from the next. -/
theorem Repaint.Spaced.pairwise {interval : Duration} {repaints : List Repaint}
    (h : Repaint.Spaced interval repaints) (hinterval : interval ≠ 0)
    (hopen : ∀ repaint ∈ repaints, repaint.closing = false) :
    repaints.Pairwise fun first second ↦ first.time + interval ≤ second.time := by
  let apart := fun first second : Repaint ↦ first.time + interval ≤ second.time
  have htrans : Trans apart apart apart :=
    ⟨fun hfirst hsecond ↦ (Nat.le_trans hfirst (Nat.le_add_right _ _)).trans hsecond⟩
  have hchain : repaints.IsChain apart := by
    refine List.IsChain.imp_of_mem_imp ?_ h
    intro first second _ hmem hspaced
    exact add_le_of_apart hinterval (hspaced.resolve_left (by simp [hopen second hmem]))
  exact hchain.pairwise

/-- Assumes: frames that are spaced but for the last one. Within a span there are no more than one
for each interval and two. -/
theorem Repaint.Spaced.count_le {interval : Duration} {repaints : List Repaint}
    (h : Repaint.Spaced interval repaints) (hinterval : interval ≠ 0)
    (hearlier : ∀ repaint ∈ repaints.dropLast, repaint.closing = false) (early late : Instant) :
    (repaints.filter fun repaint ↦ early ≤ repaint.time ∧ repaint.time ≤ late).length ≤
      2 + (late - early) / interval := by
  rcases List.eq_nil_or_concat' repaints with rfl | ⟨earlier, last, rfl⟩
  · exact Nat.zero_le _
  · rw [List.dropLast_concat] at hearlier
    set within := fun repaint : Repaint ↦ decide (early ≤ repaint.time ∧ repaint.time ≤ late)
    have hspaced := (Repaint.Spaced.pairwise h.left_of_append hinterval hearlier).filter within
    have hcount : (earlier.filter within).length * interval ≤ late - early + interval := by
      rw [← List.length_map Repaint.time]
      refine length_of_spaced (List.pairwise_map.mpr hspaced) ?_
      intro time hmem
      obtain ⟨repaint, hrepaint, rfl⟩ := List.mem_map.mp hmem
      exact of_decide_eq_true (List.mem_filter.mp hrepaint).2
    have hdivided : (earlier.filter within).length ≤ (late - early) / interval + 1 := by
      rw [← Nat.add_div_right _ (Nat.pos_of_ne_zero hinterval)]
      exact (Nat.le_div_iff_mul_le (Nat.pos_of_ne_zero hinterval)).mpr hcount
    have hlast : ([last].filter within).length ≤ 1 := List.length_filter_le _ _
    rw [List.filter_append, List.length_append]
    omega

/-- Assumes: no more than one run begins. Every frame that the renderer counts is drawn at an
instant an interval after the frame before it, or later, unless it closes the run, which only the
last frame does. So within any span of time no more frames are drawn than one for each interval and
two. The settings, the messages, the clock, the answers of the outlet and the order of the moves are
arbitrary. -/
theorem Interplay.repaints_spaced (settings : Settings) (outlet : Outlet) (surface : Option Bool)
    (moves : List Move) (hruns : moves.countP Move.isRun ≤ 1) :
    let initial := Interplay.new (.fresh outlet settings surface)
    let interval := (Throttle.perSecond settings.refreshPerSecond).interval
    let repaints := Interplay.gather settings (Interplay.repaints settings) initial moves
    repaints.length = (initial.after settings moves).frames ∧
    (repaints.IsChain fun first second ↦
      second.closing = true ∨ interval ≤ second.time - first.time) ∧
    (∀ repaint ∈ repaints.dropLast, repaint.closing = false) ∧
    (interval ≠ 0 → ∀ early late : Instant,
      (repaints.filter fun repaint ↦ early ≤ repaint.time ∧ repaint.time ≤ late).length ≤
        2 + (late - early) / interval) := by
  intro initial interval repaints
  have hidle : initial.coordinator.task = .idle := by
    cases surface <;> rfl
  have hnew : initial.Paced interval [] := Interplay.paced_new outlet settings surface
  have hpaced : (initial.after settings moves).Paced interval repaints :=
    hnew.gather settings moves
  have hclosing := Interplay.closing_gather settings hidle hnew moves hruns
  refine ⟨hpaced.frames.symm, hpaced.spaced, hclosing.earlier, fun hinterval ↦ ?_⟩
  exact hpaced.spaced.count_le hinterval hclosing.earlier

/-- Assumes: a coordinator that was not started, and that has drawn nothing. Its start draws the
board. -/
theorem Interplay.repaints_start (settings : Settings) {state : Interplay}
    (hstarting : state.coordinator.phase = .starting) (hidle : state.coordinator.task = .idle)
    (hspare : state.coordinator.spareSender = true)
    (hlast : state.coordinator.renderer.throttle.last = none) (now : Instant) :
    state.repaints settings (.start (.ok ()) now) = [⟨now, false⟩] := by
  have hframes : (state.step settings (.start (.ok ()) now)).frames = state.frames + 1 := by
    unfold Interplay.step Interplay.frames Coordinator.start
    dsimp only
    rw [if_pos hidle, hstarting, hspare, if_neg (by decide)]
    change ((state.coordinator.renderer.update _ now).flushNow now).stats.frames = _
    rw [Renderer.flushNow_update hlast]
    rfl
  unfold Interplay.repaints Move.time? Coordinator.isFinishing
  dsimp only
  rw [hframes, hidle, Nat.add_sub_cancel_left]
  rfl

/-- A run in which the last message is taken by the drain, with four frames in a second. -/
theorem Interplay.repaints_spaced_late :
    let moves := Move.lateMessage ++ [.coordinator 0, .coordinator 0, .coordinator 0]
    let repaints := Interplay.gather .standard (Interplay.repaints .standard)
      (Interplay.new (.fresh .unlimited .standard none)) moves
    moves.countP Move.isRun = 1 ∧ repaints.head? = some ⟨0, false⟩ ∧
    (repaints.IsChain fun first second ↦
      second.closing = true ∨ 250 * oneMillisecond ≤ second.time - first.time) ∧
    (repaints.filter fun repaint ↦ 0 ≤ repaint.time ∧ repaint.time ≤ oneSecond).length ≤ 6 := by
  intro moves repaints
  have hruns : moves.countP Move.isRun = 1 := by decide
  have hfirst : repaints.head? = some ⟨0, false⟩ := by
    change (Interplay.repaints _ _ (.start (.ok ()) 0) ++ Interplay.gather _ _ _ _).head? = _
    rw [Interplay.repaints_start .standard rfl rfl rfl rfl]
    rfl
  obtain ⟨-, hspaced, -, hcount⟩ := Interplay.repaints_spaced .standard .unlimited none moves
    (Nat.le_of_eq hruns)
  exact ⟨hruns, hfirst, hspaced, hcount (by decide) 0 oneSecond⟩

end LiveBoard.Viewer
