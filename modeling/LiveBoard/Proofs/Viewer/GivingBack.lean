import LiveBoard.Proofs.Display.HiddenCursor
import LiveBoard.Proofs.Viewer.CoordinatorTransitions
import LiveBoard.Proofs.Viewer.Padding
import Mathlib.Data.Finset.Card

/-!
# Giving the terminal back

A coordinator draws on a terminal that it was handed, and gives it back at the end of its run, or
when it is dropped if it never ran. `Life` is all that happens to one: moves before the terminal
surface is handed over and moves after that. Its log is what the renderer and the surface write
together (`Life.log`). Either the surface is held, and nothing written so far shows the cursor, or
it was given back, as the last thing that was written (`Coordinator.Custody`). Every move keeps
that as long as there is one run at most (`Custody.step`). So the terminal is given back once,
after everything else, and before the run returns (`Life.terminal_given_back`).
-/

set_option autoImplicit false
set_option relaxedAutoImplicit false

namespace LiveBoard.Viewer

open Display Feed Screen

/-! ### The log of both writers -/

/-- Who writes to the terminal. -/
inductive Writer
  /-- The renderer. -/
  | renderer
  /-- The terminal surface. -/
  | surface
  deriving DecidableEq, Repr

/-- Bytes with their writer. -/
def Writer.sign (writer : Writer) (bytes : List UInt8) : List (Writer × UInt8) :=
  bytes.map (Prod.mk writer)

/-- The bytes of a log, by whomever. -/
def bytesOf (log : List (Writer × UInt8)) : List UInt8 := log.map Prod.snd

/-- What was written between two states of a coordinator. -/
def Coordinator.growth (coordinator next : Coordinator) : List (Writer × UInt8) :=
  Writer.renderer.sign (next.renderer.outlet.accepted.toList.drop
      coordinator.renderer.outlet.accepted.toList.length) ++
    Writer.surface.sign (next.terminal.toList.drop coordinator.terminal.toList.length)

/-- What is written in a move. At the end of a run both write, one after the other. -/
def Interplay.written (settings : Settings) (state : Interplay) (move : Move) :
    List (Writer × UInt8) :=
  let next := (state.step settings move).coordinator
  match move with
  | .coordinator now =>
    if state.coordinator.isFinishing then
      state.coordinator.growth (state.coordinator.drawn now) ++
        (state.coordinator.drawn now).growth next
    else state.coordinator.growth next
  | _ => state.coordinator.growth next

/-- The number of places at which a sequence of bytes occurs. -/
def occurrences (pattern bytes : List UInt8) : Nat :=
  ((Finset.range (bytes.length + 1)).filter fun place ↦ pattern <+: bytes.drop place).card

/-- What releasing a surface again and again writes. -/
def surfaceReleases : Nat → Surface → List UInt8
  | 0, _ => []
  | count + 1, surface => surface.release.1 ++ surfaceReleases count surface.release.2

section Log

variable {coordinator next : Coordinator}

@[simp]
theorem bytesOf_append (first second : List (Writer × UInt8)) :
    bytesOf (first ++ second) = bytesOf first ++ bytesOf second := List.map_append

@[simp]
theorem bytesOf_sign (writer : Writer) (bytes : List UInt8) :
    bytesOf (writer.sign bytes) = bytes := by
  unfold bytesOf Writer.sign
  rw [List.map_map]
  exact List.map_id _

theorem Coordinator.growth_eq {drawn released : List UInt8}
    (hdrawn : next.renderer.outlet.accepted.toList =
      coordinator.renderer.outlet.accepted.toList ++ drawn)
    (hreleased : next.terminal.toList = coordinator.terminal.toList ++ released) :
    coordinator.growth next = Writer.renderer.sign drawn ++ Writer.surface.sign released := by
  unfold Coordinator.growth
  rw [hdrawn, hreleased, List.drop_left, List.drop_left]

/-- Where only the renderer writes. -/
theorem Coordinator.growth_renderer {drawn : List UInt8}
    (hdrawn : next.renderer.outlet.accepted.toList =
      coordinator.renderer.outlet.accepted.toList ++ drawn)
    (hterminal : next.terminal = coordinator.terminal) :
    coordinator.growth next = Writer.renderer.sign drawn := by
  have hsilent : next.terminal.toList = coordinator.terminal.toList ++ [] := by
    rw [hterminal, List.append_nil]
  rw [Coordinator.growth_eq hdrawn hsilent]
  exact List.append_nil _

/-- Where only the surface writes. -/
theorem Coordinator.growth_surface {released : List UInt8}
    (hrenderer : next.renderer = coordinator.renderer)
    (hreleased : next.terminal.toList = coordinator.terminal.toList ++ released) :
    coordinator.growth next = Writer.surface.sign released := by
  have hsilent : next.renderer.outlet.accepted.toList =
      coordinator.renderer.outlet.accepted.toList ++ [] := by
    rw [hrenderer, List.append_nil]
  exact Coordinator.growth_eq hsilent hreleased

/-- A sequence that occurs at one place only occurs once. -/
theorem occurrences_eq_one {pattern bytes before after : List UInt8}
    (hsplit : bytes = before ++ (pattern ++ after))
    (hother : ∀ first second, bytes = first ++ (pattern ++ second) → first = before) :
    occurrences pattern bytes = 1 := by
  refine Finset.card_eq_one.mpr ⟨before.length, Finset.ext fun place ↦ ?_⟩
  rw [Finset.mem_filter, Finset.mem_range, Finset.mem_singleton]
  constructor
  · rintro ⟨hplace, second, hsecond⟩
    have hfirst : bytes.take place = before := by
      refine hother _ second ?_
      rw [hsecond, List.take_append_drop]
    rw [← hfirst, List.length_take]
    omega
  · rintro rfl
    rw [hsplit, List.length_append, List.drop_left]
    exact ⟨by omega, after, rfl⟩

/-- However often a surface is released, the terminal is given back at the first time. -/
theorem surfaceReleases_succ (alternate : Bool) (count : Nat) :
    surfaceReleases (count + 1) (.entered alternate) = releaseBytes alternate := by
  have hsilent : ∀ count, surfaceReleases count ⟨alternate, true⟩ = [] := by
    intro count
    induction count with
    | zero => rfl
    | succ count ih => exact ih
  change releaseBytes alternate ++ surfaceReleases count ⟨alternate, true⟩ = releaseBytes alternate
  rw [hsilent, List.append_nil]

end Log

/-! ### Entering and leaving -/

theorem settled_enterBytes (alternate : Bool) : Settled (enterBytes alternate) := by
  have hscreen : Settled (if alternate then sequence "?1049h" else []) := by
    split
    · refine settled_controlSequence (by decide) ?_
      intro rest after hsplit
      exact absurd (List.cons.inj (List.cons.inj hsplit).2).1 (by decide)
    · exact hushed_nil
  have hhide : Settled (sequence "?25l") := by
    refine settled_controlSequence (by decide) ?_
    intro rest after hsplit
    exact absurd (List.cons.inj (List.cons.inj (List.cons.inj (List.cons.inj hsplit).2).2).2).1
      (by decide)
  have hclear : Settled (sequence "2J") := settled_of_isBodyChar (by decide) (by decide)
  have hhome : Settled (fullAddress 0 0) := settled_of_isBodyChar (by decide) (by decide)
  exact ((hscreen.append hhide).append hclear).append hhome

theorem enterBytes_cons (alternate : Bool) : ∃ rest, enterBytes alternate = 0x1B :: rest := by
  cases alternate <;> exact ⟨_, rfl⟩

theorem cursorShown_releaseBytes (terminal : Terminal) (alternate : Bool) :
    (terminal.feed (releaseBytes alternate)).cursorShown = true := by
  cases alternate <;> rfl

/-- The terminal is given back by a reset, the showing of the cursor and something more. -/
theorem releaseBytes_eq (alternate : Bool) :
    ∃ rest, releaseBytes alternate = sequence "0m" ++ (showCursor ++ rest) := by
  cases alternate <;> exact ⟨_, rfl⟩

/-- After bytes that do not show the cursor the terminal is given back once. -/
theorem occurrences_releaseBytes {before : List UInt8} (hbefore : Hushed BeginsAnew before)
    (alternate : Bool) :
    occurrences (releaseBytes alternate) (before ++ releaseBytes alternate) = 1 := by
  refine occurrences_eq_one (by rw [List.append_nil]) ?_
  intro first second hsplit
  have hreset : Settled (sequence "0m") := settled_of_isBodyChar (by decide) (by decide)
  have hquiet : Settled (before ++ sequence "0m") := hbefore.append_escape hreset
  obtain ⟨rest, hrest⟩ := releaseBytes_eq alternate
  have hlength := congrArg List.length hsplit
  have hplace : (before ++ sequence "0m").length ≤ (first ++ sequence "0m").length := by
    refine hquiet (showCursor ++ rest) _ (rest ++ second) trivial ?_
    rw [hrest] at hsplit
    simpa only [List.append_assoc] using hsplit
  simp only [List.length_append] at hlength hplace
  exact (List.append_inj hsplit (by omega)).1.symm

/-! ### What a move does -/

section Moves

variable {settings : Settings} {state : Interplay} {bytes : List UInt8} {move : Move}

/-- Whatever is drawn in a move, it does not show the cursor. -/
theorem Interplay.hides_step (h : state.coordinator.renderer.Hides bytes) (settings : Settings)
    (move : Move) :
    ∃ drawn, (state.step settings move).coordinator.renderer.outlet.accepted.toList =
        state.coordinator.renderer.outlet.accepted.toList ++ drawn ∧
      (state.step settings move).coordinator.renderer.Hides (bytes ++ drawn) := by
  have hsame : ∃ drawn, state.coordinator.renderer.outlet.accepted.toList =
      state.coordinator.renderer.outlet.accepted.toList ++ drawn ∧
        state.coordinator.renderer.Hides (bytes ++ drawn) :=
    ⟨[], by rw [List.append_nil], by rw [List.append_nil]; exact h⟩
  rcases state.coordinator_cases settings move with
    ⟨now, -, hnext⟩ | ⟨spawning, now, -, -, -, -, -, hrenderer⟩ | ⟨-, -, hnext⟩ | ⟨spare, hnext⟩
  · rw [hnext]
    rcases state.coordinator.act_view settings state.handoff state.listener now with
      ⟨payload, -, -, hrenderer⟩ | ⟨-, -, hrenderer | hrenderer | ⟨-, hrenderer⟩⟩
    · rw [hrenderer]
      exact h.call (.update _ now)
    · rw [hrenderer]
      exact hsame
    · rw [hrenderer]
      exact h.call (.tick now)
    · rw [hrenderer]
      exact h.call (.flushNow now)
  · -- the start draws the board and then whatever is still staged
    rw [hrenderer]
    obtain ⟨first, hfirst, hstaged⟩ := h.call (.update state.coordinator.board.view now)
    obtain ⟨second, hsecond, hflushed⟩ := hstaged.call (.flushNow now)
    refine ⟨first ++ second, ?_, ?_⟩
    · rw [← List.append_assoc, ← hfirst]
      exact hsecond
    · rw [← List.append_assoc]
      exact hflushed
  · rw [hnext]
    exact hsame
  · rw [hnext]
    exact hsame

/-- A run is going on if one was or one begins, until it ends. -/
theorem Interplay.step_busy (settings : Settings)
    (hgoing : state.endsRun move = false) :
    (state.step settings move).coordinator.task ≠ .idle ↔
      state.coordinator.task ≠ .idle ∨ move = .run := by
  by_cases hidle : state.coordinator.task = .idle
  · cases move with
    | coordinator now => simp [hidle]
    | start spawning now =>
      rcases state.step_start settings spawning now with
        ⟨started, hstep, -, -, -, htask, -⟩ | ⟨spare, hstep⟩
      · simp [hstep, htask, hidle]
      · simp [hstep, hidle]
    | run => simp [hidle]
    | listener now reply =>
      rcases state.step_listener settings now reply with ⟨listener, -, hstep⟩ | ⟨-, hstep⟩ <;>
        simp [hstep, hidle]
    | cancel => simp [Interplay.step, hidle]
  · refine iff_of_true ?_ (Or.inl hidle)
    by_cases hmove : ∃ now, move = .coordinator now
    · obtain ⟨now, rfl⟩ := hmove
      intro hnext
      rcases (Coordinator.act_transition settings state.coordinator state.handoff state.listener
        now).idle hnext with ⟨hbefore, -⟩ | ⟨hfinishing, -⟩
      · exact hidle hbefore
      · exact Bool.noConfusion (hgoing.symm.trans hfinishing)
    · rw [Interplay.coordinator_step settings (fun now h ↦ hmove ⟨now, h⟩) hidle]
      exact hidle

theorem Interplay.written_eq_growth (settings : Settings)
    (hgoing : state.endsRun move = false) :
    state.written settings move =
      state.coordinator.growth (state.step settings move).coordinator := by
  unfold Interplay.written
  cases move with
  | coordinator now =>
    have hother : ¬ state.coordinator.isFinishing = true := by
      intro hends
      exact Bool.noConfusion (hgoing.symm.trans hends)
    exact if_neg hother
  | _ => rfl

/-- After the end of its run a coordinator does nothing until the next one. -/
theorem Interplay.step_stopped (settings : Settings) (hidle : state.coordinator.task = .idle)
    (hstopped : state.coordinator.phase = .stopped) (hmove : move ≠ .run) :
    ∃ spare, (state.step settings move).coordinator =
      { state.coordinator with spareSender := spare } := by
  rcases state.coordinator_cases settings move with
    ⟨now, -, hnext⟩ | ⟨spawning, now, -, hstarting, -⟩ | ⟨hrun, -⟩ | hspare
  · refine ⟨state.coordinator.spareSender, ?_⟩
    rw [hnext, Coordinator.act_of_idle hidle]
  · rw [hstopped] at hstarting
    cases hstarting
  · exact absurd hrun hmove
  · exact hspare

end Moves

/-! ### Custody of the terminal -/

/-- The terminal is held, and nothing written so far shows the cursor. -/
structure Coordinator.Holds (coordinator : Coordinator) (alternate : Bool)
    (log : List (Writer × UInt8)) : Prop where
  surface : coordinator.surface = some (.entered alternate)
  hides : coordinator.renderer.Hides (bytesOf log)

/-- The terminal was given back at the end of a log, and nothing before that shows the cursor. -/
def GivenBack (alternate : Bool) (log : List (Writer × UInt8)) : Prop :=
  ∃ before, log = before ++ Writer.surface.sign (releaseBytes alternate) ∧
    Hushed BeginsAnew (bytesOf before)

/-- The run has ended, and the terminal was given back. -/
structure Coordinator.HasGivenBack (coordinator : Coordinator) (alternate : Bool)
    (log : List (Writer × UInt8)) : Prop where
  idle : coordinator.task = .idle
  stopped : coordinator.phase = .stopped
  surface : coordinator.surface = none
  log : GivenBack alternate log

/-- The terminal is held until the end of the run, and was given back then. -/
def Coordinator.Custody (coordinator : Coordinator) (alternate : Bool) (log : List (Writer × UInt8))
    (begun : Prop) : Prop :=
  (coordinator.Holds alternate log ∧ (begun ↔ coordinator.task ≠ .idle)) ∨
    (begun ∧ coordinator.HasGivenBack alternate log)

section Custody

variable {coordinator next : Coordinator} {state : Interplay} {alternate : Bool}
  {log : List (Writer × UInt8)} {begun : Prop}

/-- A drawing does not let go of the terminal. -/
theorem Coordinator.Holds.draw (h : coordinator.Holds alternate log)
    (hsurface : next.surface = coordinator.surface)
    (hterminal : next.terminal = coordinator.terminal) {drawn : List UInt8}
    (hdrawn : next.renderer.outlet.accepted.toList =
      coordinator.renderer.outlet.accepted.toList ++ drawn)
    (hhides : next.renderer.Hides (bytesOf log ++ drawn)) :
    next.Holds alternate (log ++ coordinator.growth next) := by
  refine ⟨hsurface.trans h.surface, ?_⟩
  rw [Coordinator.growth_renderer hdrawn hterminal, bytesOf_append, bytesOf_sign]
  exact hhides

/-- A terminal that is held is given back by releasing its surface. -/
theorem Coordinator.Holds.release (h : coordinator.Holds alternate log)
    (hrenderer : next.renderer = coordinator.renderer)
    (hterminal : next.terminal = coordinator.releaseSurface.terminal) :
    GivenBack alternate (log ++ coordinator.growth next) := by
  obtain ⟨-, -, hreleased⟩ := coordinator.releaseSurface_fields
  rw [h.surface, ← hterminal] at hreleased
  refine ⟨log, ?_, h.hides.hushed⟩
  rw [Coordinator.growth_surface hrenderer hreleased]
  rfl

/-- The end of the run: what is staged is drawn, and then the terminal is given back. -/
theorem Coordinator.Holds.finish (h : state.coordinator.Holds alternate log) (settings : Settings)
    {move : Move} (hends : state.endsRun move = true) :
    (state.step settings move).coordinator.HasGivenBack alternate
      (log ++ state.written settings move) := by
  obtain ⟨now, report, rfl, -, hnext⟩ := Interplay.endsRun_cases settings hends
  obtain ⟨hnone, hrenderer, hterminal⟩ :=
    (state.coordinator.drawn now).concluded_fields settings report
  obtain ⟨drawn, hdrawn, hhides⟩ := h.hides.call (.flushNow now)
  have hheld : (state.coordinator.drawn now).Holds alternate
      (log ++ state.coordinator.growth (state.coordinator.drawn now)) :=
    h.draw rfl rfl hdrawn hhides
  have hwritten : state.written settings (.coordinator now) =
      state.coordinator.growth (state.coordinator.drawn now) ++
        (state.coordinator.drawn now).growth (state.coordinator.finish settings report now) := by
    rw [← hnext]
    exact if_pos hends
  rw [hwritten, hnext, ← List.append_assoc]
  exact ⟨rfl, rfl, hnone, hheld.release hrenderer hterminal⟩

/-- Assumes: no run begins after another. Every move keeps the custody of the terminal. -/
theorem Coordinator.Custody.step (h : state.coordinator.Custody alternate log begun)
    (settings : Settings) (move : Move) (honce : move = .run → ¬ begun) :
    (state.step settings move).coordinator.Custody alternate (log ++ state.written settings move)
      (begun ∨ move = .run) := by
  rcases h with ⟨hholds, hbegun⟩ | ⟨hbegun, hback⟩
  · cases hends : state.endsRun move with
    | true =>
      obtain ⟨now, report, -, htask, -⟩ := Interplay.endsRun_cases settings hends
      have hbusy : state.coordinator.task ≠ .idle := by
        rw [htask]
        exact Task.noConfusion
      exact Or.inr ⟨Or.inl (hbegun.mpr hbusy), hholds.finish settings hends⟩
    | false =>
      obtain ⟨drawn, hdrawn, hhides⟩ := Interplay.hides_step hholds.hides settings move
      obtain ⟨hterminal, hsurface⟩ := Interplay.step_terminal settings hends
      rw [Interplay.written_eq_growth settings hends]
      refine Or.inl ⟨hholds.draw hsurface hterminal hdrawn hhides, ?_⟩
      rw [hbegun]
      exact (Interplay.step_busy settings hends).symm
  · have hmove : move ≠ .run := fun hrun ↦ honce hrun hbegun
    obtain ⟨spare, hnext⟩ := Interplay.step_stopped settings hback.idle hback.stopped hmove
    have hsilent : state.written settings move = [] := by
      rw [Interplay.written_eq_growth settings (Interplay.endsRun_of_idle hback.idle move), hnext]
      exact Coordinator.growth_eq (List.append_nil _).symm (List.append_nil _).symm
    rw [hsilent, List.append_nil, hnext]
    exact Or.inr ⟨Or.inl hbegun, hback.idle, hback.stopped, hback.surface, hback.log⟩

/-- Dropping the coordinator gives the terminal back if that was not done before. -/
theorem Coordinator.Custody.release (h : coordinator.Custody alternate log begun) :
    GivenBack alternate (log ++ coordinator.growth coordinator.releaseSurface) := by
  rcases h with ⟨hholds, -⟩ | ⟨-, hback⟩
  · exact hholds.release coordinator.releaseSurface_fields.2.1 rfl
  · have hsame : coordinator.releaseSurface = coordinator := by
      unfold Coordinator.releaseSurface
      rw [hback.surface]
    have hsilent : coordinator.growth coordinator.releaseSurface = [] := by
      rw [hsame]
      exact Coordinator.growth_eq (List.append_nil _).symm (List.append_nil _).symm
    rw [hsilent, List.append_nil]
    exact hback.log

end Custody

/-! ### Lives -/

/-- All that happens to a coordinator with a terminal surface. -/
structure Life where
  /-- The settings. -/
  settings : Settings
  /-- Where the renderer writes. -/
  outlet : Outlet
  /-- The moves before the surface is handed over. -/
  earlier : List Move
  /-- Whether the surface shows the alternate screen. -/
  alternate : Bool
  /-- The moves after that. -/
  later : List Move

/-- The state in which the surface is handed over. -/
def Life.before (life : Life) : Interplay :=
  (Interplay.new (.new life.outlet life.settings)).after life.settings life.earlier

/-- The state after the surface was handed over and some moves. -/
def Life.after (life : Life) (moves : List Move) : Interplay :=
  Interplay.after life.settings
    { life.before with coordinator := life.before.coordinator.withSurface life.alternate } moves

/-- All that is written until then. -/
def Life.written (life : Life) (moves : List Move) : List (Writer × UInt8) :=
  Interplay.gather life.settings (Interplay.written life.settings)
      (.new (.new life.outlet life.settings)) life.earlier ++
    Writer.surface.sign (enterBytes life.alternate) ++
    Interplay.gather life.settings (Interplay.written life.settings) (life.after []) moves

/-- All that is written in a life. At its end the coordinator is dropped, and with it the surface
if it is still held. -/
def Life.log (life : Life) : List (Writer × UInt8) :=
  life.written life.later ++ (life.after life.later).coordinator.growth
    (life.after life.later).coordinator.releaseSurface

section Lives

variable {life : Life}

/-- Before the surface is handed over, nothing shows the cursor. -/
theorem Life.hides_before (hearlier : Move.run ∉ life.earlier) :
    life.before.coordinator.task = .idle ∧
      life.before.coordinator.renderer.Hides (bytesOf
        (Interplay.gather life.settings (Interplay.written life.settings)
          (.new (.new life.outlet life.settings)) life.earlier)) := by
  unfold Life.before
  generalize life.earlier = moves at hearlier ⊢
  induction moves using List.reverseRecOn with
  | nil => exact ⟨rfl, Renderer.hides_new _ _⟩
  | append_singleton moves move ih =>
    rw [List.mem_append, not_or] at hearlier
    obtain ⟨hidle, hhides⟩ := ih hearlier.1
    rw [Interplay.after_append, Interplay.gather_append, Interplay.gather_singleton]
    set state := (Interplay.new (.new life.outlet life.settings)).after life.settings moves
    have hgoing : state.endsRun move = false := Interplay.endsRun_of_idle hidle move
    obtain ⟨drawn, hdrawn, hnext⟩ := Interplay.hides_step hhides life.settings move
    obtain ⟨hterminal, -⟩ := Interplay.step_terminal life.settings hgoing
    rw [Interplay.written_eq_growth life.settings hgoing,
      Coordinator.growth_renderer hdrawn hterminal, bytesOf_append, bytesOf_sign]
    refine ⟨?_, hnext⟩
    by_contra hbusy
    rcases (Interplay.step_busy life.settings hgoing).mp hbusy with hbefore | rfl
    · exact hbefore hidle
    · exact hearlier.2 (List.mem_singleton_self _)

/-- From the handing over on the terminal is in custody. -/
theorem Life.custody (hearlier : Move.run ∉ life.earlier) (moves : List Move)
    (honce : moves.countP Move.isRun ≤ 1) :
    (life.after moves).coordinator.Custody life.alternate (life.written moves)
      (Move.run ∈ moves) := by
  induction moves using List.reverseRecOn with
  | nil =>
    obtain ⟨hidle, hhides⟩ := Life.hides_before hearlier
    obtain ⟨rest, hrest⟩ := enterBytes_cons life.alternate
    have hsettled := settled_enterBytes life.alternate
    have hbusy : Move.run ∈ ([] : List Move) ↔ (life.after []).coordinator.task ≠ .idle :=
      ⟨fun hmem ↦ absurd hmem List.not_mem_nil, fun hbusy ↦ absurd hidle hbusy⟩
    refine Or.inl ⟨⟨rfl, ?_⟩, hbusy⟩
    unfold Life.written
    rw [Interplay.gather, List.append_nil, bytesOf_append, bytesOf_sign, hrest]
    rw [hrest] at hsettled
    exact hhides.add hsettled
  | append_singleton moves move ih =>
    rw [List.countP_append] at honce
    have hfirst : move = .run → Move.run ∉ moves := by
      rintro rfl hmem
      have hpositive : 0 < moves.countP Move.isRun := List.countP_pos_iff.mpr ⟨_, hmem, rfl⟩
      have hlast : [Move.run].countP Move.isRun = 1 := rfl
      omega
    have hafter : life.after (moves ++ [move]) = (life.after moves).step life.settings move :=
      Interplay.after_append _ _ _ _
    have hwritten : life.written (moves ++ [move]) =
        life.written moves ++ (life.after moves).written life.settings move := by
      unfold Life.written
      rw [Interplay.gather_append, Interplay.gather_singleton, ← List.append_assoc]
      rfl
    have hbegun : Move.run ∈ moves ++ [move] ↔ Move.run ∈ moves ∨ move = .run := by
      rw [List.mem_append, List.mem_singleton, eq_comm]
    rw [hafter, hwritten, hbegun]
    exact (ih (by omega)).step life.settings move hfirst

/-- Assumes: a coordinator to which a terminal surface is handed over before it runs, which is
started and refused to start any number of times and runs at most once, and which is then dropped.
In all that the renderer and the surface write together, over any source, with any messages, at any
times and with any answers of the outlet, the bytes that give the terminal back stand at the end and
occur nowhere else. So nothing of the renderer comes after them, and whatever terminal receives all
of it shows the cursor in the end. They were written when the run returned, if there was one. And a
surface alone, released any number of times and then dropped, writes them once. -/
theorem Life.terminal_given_back (life : Life) (hearlier : Move.run ∉ life.earlier)
    (honce : life.later.countP Move.isRun ≤ 1) :
    (∃ before, life.log = before ++ Writer.surface.sign (releaseBytes life.alternate)) ∧
    occurrences (releaseBytes life.alternate) (bytesOf life.log) = 1 ∧
    (∀ terminal : Terminal, (terminal.feed (bytesOf life.log)).cursorShown = true) ∧
    (∀ returned, returned <+: life.later → Move.run ∈ returned →
      (life.after returned).coordinator.task = .idle →
      ∃ before, life.written returned =
        before ++ Writer.surface.sign (releaseBytes life.alternate)) ∧
    ∀ count, surfaceReleases (count + 1) (.entered life.alternate) =
      releaseBytes life.alternate := by
  have hback : GivenBack life.alternate life.log :=
    (Life.custody hearlier life.later honce).release
  obtain ⟨before, hlog, hhushed⟩ := hback
  have hbytes : bytesOf life.log = bytesOf before ++ releaseBytes life.alternate := by
    simp [hlog]
  refine ⟨⟨before, hlog⟩, ?_, ?_, ?_, surfaceReleases_succ life.alternate⟩
  · rw [hbytes]
    exact occurrences_releaseBytes hhushed life.alternate
  · intro terminal
    rw [hbytes, Terminal.feed_append]
    exact cursorShown_releaseBytes _ life.alternate
  · intro returned hreturned hrun hidle
    have honce' : returned.countP Move.isRun ≤ 1 := hreturned.sublist.countP_le.trans honce
    rcases Life.custody hearlier returned honce' with ⟨-, hbegun⟩ | ⟨-, hgiven⟩
    · exact absurd hidle (hbegun.mp hrun)
    · obtain ⟨before, hwritten, -⟩ := hgiven.log
      exact ⟨before, hwritten⟩

end Lives

/-- Three messages are taken in the drain, the run ends, and another start is refused. -/
def Life.drained : Life :=
  ⟨unthrottled, .unlimited, [], true,
    Move.inDrain ++ [.coordinator 0, .coordinator 0, .start (.ok ()) 0]⟩

theorem Life.terminal_given_back_drained :
    occurrences (releaseBytes true) (bytesOf Life.drained.log) = 1 ∧
      ∃ before, Life.drained.written Life.drained.later =
        before ++ Writer.surface.sign (releaseBytes true) := by
  have hidle : (Life.drained.after Life.drained.later).coordinator.task = .idle := by
    decide +kernel
  have hrun : Move.run ∈ Life.drained.later := by simp [Life.drained, Move.inDrain, Move.connection]
  obtain ⟨-, honce, -, hreturned, -⟩ :=
    Life.terminal_given_back Life.drained List.not_mem_nil (by decide)
  exact ⟨honce, hreturned _ (List.prefix_refl _) hrun hidle⟩

end LiveBoard.Viewer
