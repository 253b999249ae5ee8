import LiveBoard.Proofs.Display.Staging
import LiveBoard.Proofs.Display.Throttling
import LiveBoard.Proofs.Display.VisibleFrame
import Mathlib.Data.List.Induction

/-!
# What a call of the renderer does

Every call prepares, which stages a view if it brings one (`Renderer.prepare`), and then draws what
is staged, or does not (`Renderer.call_cases`). It draws where a frame is staged and is due; a frame
that is not due is drawn only where the call does not ask (`RendererCall.isForced`). So frames that
are not forced are spaced (`Renderer.Paces`). What calls keep follows by cases: the frames stay tidy
(`Tidy.callAll`), and on an outlet that works nothing but a staged frame is still to be shown
(`Renderer.UpToDate`). So a call that leaves nothing staged brings the view that came last onto the
screen (`Sound.look_closed`).
-/

set_option autoImplicit false
set_option relaxedAutoImplicit false

namespace LiveBoard.Display

open Screen

/-- When a call is made. -/
def RendererCall.now : RendererCall → Instant
  | .update _ now => now
  | .tick now => now
  | .flushNow now => now

/-- Whether a call draws a staged frame that is not due. -/
def RendererCall.isForced : RendererCall → Bool
  | .flushNow _ => true
  | _ => false

/-- The view that a call brings. -/
def RendererCall.view? : RendererCall → Option Board.View
  | .update view _ => some view
  | _ => none

/-- The views that calls bring, one after the other. -/
def viewsOf (calls : List RendererCall) : List Board.View := calls.filterMap RendererCall.view?

/-- The view of the empty board. -/
def emptyView : Board.View := Board.State.initial.view

/-- The empty board under another title. -/
def otherView : Board.View := { emptyView with title := ['a'] }

/-- The renderer with the view staged that a call brings. -/
def Renderer.prepare (renderer : Renderer) (call : RendererCall) : Renderer :=
  match call.view? with
  | some view => renderer.stage view
  | none => renderer

section Calls

variable {renderer : Renderer}

@[simp]
theorem viewsOf_concat (calls : List RendererCall) (call : RendererCall) :
    viewsOf (calls ++ [call]) = viewsOf calls ++ call.view?.toList := by
  unfold viewsOf
  rw [List.filterMap_append]
  cases hview : call.view? <;> simp [hview]

@[simp]
theorem Renderer.callAll_append (renderer : Renderer) (first second : List RendererCall) :
    renderer.callAll (first ++ second) = (renderer.callAll first).callAll second :=
  List.foldl_append

@[simp]
theorem Renderer.throttle_prepare (renderer : Renderer) (call : RendererCall) :
    (renderer.prepare call).throttle = renderer.throttle := by
  unfold Renderer.prepare
  split <;> rfl

/-- A call draws the staged frame if it is due or the call is forced, and does nothing more than
staging otherwise. -/
theorem Renderer.call_cases (renderer : Renderer) (call : RendererCall) :
    (renderer.call call = renderer.prepare call ∧
      ((renderer.prepare call).staged = true →
        call.isForced = false ∧ renderer.throttle.isDue call.now = false)) ∨
    (renderer.call call = (renderer.prepare call).flush call.now ∧
      (renderer.prepare call).staged = true ∧
      (call.isForced = true ∨ renderer.throttle.isDue call.now = true)) := by
  have htick : ∀ (prepared : Renderer) (now : Instant),
      prepared.throttle = renderer.throttle →
      (prepared.tick now = prepared ∧
        (prepared.staged = true → renderer.throttle.isDue now = false)) ∨
      (prepared.tick now = prepared.flush now ∧ prepared.staged = true ∧
        renderer.throttle.isDue now = true) := by
    intro prepared now hthrottle
    unfold Renderer.tick
    rw [hthrottle]
    cases hstaged : prepared.staged <;> cases hdue : renderer.throttle.isDue now <;> simp
  cases call with
  | update view now =>
    rcases htick (renderer.stage view) now rfl with ⟨hsame, hearly⟩ | ⟨hdrawn, hstaged, hdue⟩
    · exact Or.inl ⟨hsame, fun hstaged ↦ ⟨rfl, hearly hstaged⟩⟩
    · exact Or.inr ⟨hdrawn, hstaged, Or.inr hdue⟩
  | tick now =>
    rcases htick renderer now rfl with ⟨hsame, hearly⟩ | ⟨hdrawn, hstaged, hdue⟩
    · exact Or.inl ⟨hsame, fun hstaged ↦ ⟨rfl, hearly hstaged⟩⟩
    · exact Or.inr ⟨hdrawn, hstaged, Or.inr hdue⟩
  | flushNow now =>
    have hprepared : renderer.prepare (.flushNow now) = renderer := rfl
    rw [hprepared]
    change (renderer.flushNow now = renderer ∧ _) ∨ (renderer.flushNow now = _ ∧ _)
    unfold Renderer.flushNow
    cases hstaged : renderer.staged with
    | true => exact Or.inr ⟨rfl, rfl, Or.inl rfl⟩
    | false => exact Or.inl ⟨rfl, fun h ↦ by cases h⟩

/-- A staged frame that is due is drawn. -/
theorem Renderer.tick_of_isDue {now : Instant} (hstaged : renderer.staged = true)
    (hdue : renderer.throttle.isDue now = true) : renderer.tick now = renderer.flush now := by
  rcases renderer.call_cases (.tick now) with ⟨-, hearly⟩ | ⟨hdrawn, -⟩
  · exact absurd (hdue.symm.trans (hearly hstaged).2) Bool.noConfusion
  · exact hdrawn

/-- A call that is not forced draws nothing where no frame is due. -/
theorem Renderer.call_of_not_isDue (call : RendererCall) (hforced : call.isForced = false)
    (hearly : renderer.throttle.isDue call.now = false) :
    renderer.call call = renderer.prepare call := by
  rcases renderer.call_cases call with ⟨hsame, -⟩ | ⟨-, -, hdraws⟩
  · exact hsame
  · rw [hforced, hearly] at hdraws
    rcases hdraws with hdraws | hdraws <;> cases hdraws

/-! ### Spacing -/

/-- From one renderer to the next nothing is drawn, or one frame is: it is counted and marked, and
it is due unless it is forced. -/
def Renderer.Paces (renderer next : Renderer) (now : Instant) (isForced : Bool) : Prop :=
  (next.throttle = renderer.throttle ∧ next.stats.frames = renderer.stats.frames) ∨
    (next.throttle = renderer.throttle.mark now ∧
      next.stats.frames = renderer.stats.frames + 1 ∧
      (isForced = true ∨ renderer.throttle.isDue now = true))

theorem Renderer.paces_refl (now : Instant) (isForced : Bool) :
    renderer.Paces renderer now isForced :=
  Or.inl ⟨rfl, rfl⟩

theorem Renderer.paces_call (renderer : Renderer) (call : RendererCall) :
    renderer.Paces (renderer.call call) call.now call.isForced := by
  have hframes : (renderer.prepare call).stats.frames = renderer.stats.frames := by
    unfold Renderer.prepare
    split <;> rfl
  have hthrottle := renderer.throttle_prepare call
  rcases renderer.call_cases call with ⟨hsame, -⟩ | ⟨hdrawn, -, hdue⟩
  · rw [hsame]
    exact Or.inl ⟨hthrottle, hframes⟩
  · rw [hdrawn]
    refine Or.inr ⟨?_, ?_, hdue⟩
    · exact congrArg (Throttle.mark · call.now) hthrottle
    · exact congrArg (· + 1) hframes

/-- Assumes: no repaint so far. An update draws its view, and a flush after it adds nothing. -/
theorem Renderer.flushNow_update (hlast : renderer.throttle.last = none) (view : Board.View)
    (now : Instant) :
    (renderer.update view now).flushNow now = (renderer.stage view).flush now := by
  have hdue : (renderer.stage view).throttle.isDue now = true := Throttle.isDue_of_first hlast now
  have hdrawn : renderer.update view now = (renderer.stage view).flush now :=
    Renderer.tick_of_isDue rfl hdue
  rw [hdrawn]
  rfl

/-- Before the slot nothing is drawn, by a tick or by an update. -/
theorem Renderer.early_calls {last later : Instant} (hlast : renderer.throttle.last = some last)
    (hsince : last ≤ later) (hearly : later < last + renderer.throttle.interval) :
    renderer.tick later = renderer ∧ ∀ view, renderer.update view later = renderer.stage view := by
  have hdue := Throttle.isDue_of_lt hlast hsince hearly
  exact ⟨Renderer.call_of_not_isDue (.tick later) rfl hdue,
    fun view ↦ Renderer.call_of_not_isDue (.update view later) rfl hdue⟩

/-- Assumes: a renderer that has drawn nothing. Once it has drawn a view, one that comes before the
slot is staged. -/
theorem Renderer.update_early (renderer : Renderer) (view : Board.View) {now later : Instant}
    (hfirst : renderer.throttle.last = none) (hlater : now ≤ later)
    (hearly : later < now + renderer.throttle.interval) :
    let again := ((renderer.update view now).flushNow now).update view later
    again.throttle = renderer.throttle.mark now ∧ again.staged = true := by
  intro again
  have hmarked : ((renderer.stage view).flush now).throttle = renderer.throttle.mark now := rfl
  have hlast : ((renderer.stage view).flush now).throttle.last = some now := by
    rw [hmarked]
    rfl
  have hagain : again = ((renderer.stage view).flush now).stage view := by
    change ((renderer.update view now).flushNow now).update view later = _
    rw [Renderer.flushNow_update hfirst]
    exact (Renderer.early_calls hlast hlater hearly).2 view
  rw [hagain]
  exact ⟨hmarked, rfl⟩

/-! ### Calls that close -/

/-- The call brings no view and leaves nothing staged: it is forced, or what is staged is due. -/
structure RendererCall.Closes (call : RendererCall) (renderer : Renderer) : Prop where
  view : call.view? = none
  draws : call.isForced = true ∨ renderer.throttle.isDue call.now = true

theorem RendererCall.closes_flushNow (renderer : Renderer) (now : Instant) :
    (RendererCall.flushNow now).Closes renderer :=
  ⟨rfl, Or.inl rfl⟩

theorem Renderer.prepare_of_no_view {call : RendererCall} (hview : call.view? = none) :
    renderer.prepare call = renderer := by
  unfold Renderer.prepare
  rw [hview]

/-- With nothing staged, a call that brings no view does nothing. -/
@[simp]
theorem Renderer.call_of_clear {call : RendererCall} (hview : call.view? = none)
    (hclear : renderer.staged = false) : renderer.call call = renderer := by
  have hcases := renderer.call_cases call
  rw [Renderer.prepare_of_no_view hview] at hcases
  rcases hcases with ⟨hsame, -⟩ | ⟨-, hstaged, -⟩
  · exact hsame
  · simp [hclear] at hstaged

theorem Renderer.callAll_of_clear (hclear : renderer.staged = false) {calls : List RendererCall}
    (hviews : viewsOf calls = []) : renderer.callAll calls = renderer := by
  induction calls with
  | nil => rfl
  | cons call rest ih =>
    have hnone : ∀ other ∈ call :: rest, other.view? = none := List.filterMap_eq_nil_iff.mp hviews
    have hrest : viewsOf rest = [] :=
      List.filterMap_eq_nil_iff.mpr fun other hmem ↦ hnone other (List.mem_cons_of_mem _ hmem)
    change (renderer.call call).callAll rest = renderer
    rw [Renderer.call_of_clear (hnone call List.mem_cons_self) hclear]
    exact ih hrest

theorem RendererCall.Closes.cases {call : RendererCall} (h : call.Closes renderer) :
    (renderer.staged = true ∧ renderer.call call = renderer.flush call.now) ∨
      (renderer.staged = false ∧ renderer.call call = renderer) := by
  have hcases := renderer.call_cases call
  rw [Renderer.prepare_of_no_view h.view] at hcases
  rcases hcases with ⟨hsame, hearly⟩ | ⟨hdrawn, hstaged, -⟩
  · refine Or.inr ⟨?_, hsame⟩
    by_contra hstaged
    obtain ⟨hforced, hdue⟩ := hearly (by simpa using hstaged)
    rcases h.draws with hdraws | hdraws
    · simp [hforced] at hdraws
    · simp [hdue] at hdraws
  · exact Or.inl ⟨hstaged, hdrawn⟩

/-! ### Frames -/

theorem Renderer.Tidy.call (h : renderer.Tidy) (call : RendererCall) :
    (renderer.call call).Tidy := by
  cases call with
  | update view now => exact h.update view now
  | tick now => exact h.tick now
  | flushNow now => exact h.flushNow now

theorem Renderer.Tidy.callAll (h : renderer.Tidy) (calls : List RendererCall) :
    (renderer.callAll calls).Tidy := by
  induction calls generalizing renderer with
  | nil => exact h
  | cons call rest ih => exact ih (h.call call)

theorem Renderer.next_call (renderer : Renderer) (call : RendererCall) :
    (renderer.call call).next = (renderer.prepare call).next := by
  rcases renderer.call_cases call with ⟨hsame, -⟩ | ⟨hdrawn, -⟩
  · rw [hsame]
  · rw [hdrawn]
    rfl

/-- The frame staged last is the painting of the view that came last, if one came. -/
theorem Renderer.Tidy.next_callAll (h : renderer.Tidy) (calls : List RendererCall) :
    (renderer.callAll calls).next =
      (viewsOf calls).getLast?.elim renderer.next Board.View.painting := by
  induction calls using List.reverseRecOn with
  | nil => rfl
  | append_singleton calls call ih =>
    rw [viewsOf_concat, renderer.callAll_append]
    refine (Renderer.next_call _ call).trans ?_
    unfold Renderer.prepare
    cases call.view? with
    | some view =>
      rw [Option.toList_some, List.getLast?_concat]
      exact (h.callAll calls).next_stage view
    | none =>
      rw [Option.toList_none, List.append_nil]
      exact ih

theorem Renderer.Tidy.visible_closes (h : renderer.Tidy) {call : RendererCall}
    (hcloses : call.Closes renderer) : (renderer.call call).visible = renderer.next := by
  rcases hcloses.cases with ⟨-, hdrawn⟩ | ⟨hclear, hsame⟩
  · rw [hdrawn]
    rfl
  · rw [hsame]
    exact h.visible hclear

/-! ### Outlets that work -/

/-- The outlet works, and what is not shown yet is staged. -/
structure Renderer.UpToDate (renderer : Renderer) : Prop where
  works : renderer.outlet.Works
  shown : renderer.staged = true ∨ renderer.needsRepaint = false

theorem Renderer.works_prepare (h : renderer.outlet.Works) (call : RendererCall) :
    (renderer.prepare call).outlet.Works := by
  unfold Renderer.prepare
  split <;> exact h

theorem Renderer.works_call (h : renderer.outlet.Works) (call : RendererCall) :
    (renderer.call call).outlet.Works := by
  rcases renderer.call_cases call with ⟨hsame, -⟩ | ⟨hdrawn, -⟩
  · rw [hsame]
    exact Renderer.works_prepare h call
  · rw [hdrawn]
    exact Renderer.works_flush (Renderer.works_prepare h call) call.now

theorem Renderer.works_callAll (h : renderer.outlet.Works) (calls : List RendererCall) :
    (renderer.callAll calls).outlet.Works := by
  induction calls generalizing renderer with
  | nil => exact h
  | cons call rest ih => exact ih (Renderer.works_call h call)

/-- A call keeps the renderer up to date, and one that brings a view makes it so. -/
theorem Renderer.upToDate_call (h : renderer.outlet.Works) (call : RendererCall)
    (hshown : call.view? = none → renderer.staged = true ∨ renderer.needsRepaint = false) :
    (renderer.call call).UpToDate := by
  have hprepared : (renderer.prepare call).staged = true ∨
      (renderer.prepare call).needsRepaint = false := by
    unfold Renderer.prepare
    cases hview : call.view? with
    | some view => exact Or.inl rfl
    | none => exact hshown hview
  refine ⟨Renderer.works_call h call, ?_⟩
  rcases renderer.call_cases call with ⟨hsame, -⟩ | ⟨hdrawn, -⟩
  · rw [hsame]
    exact hprepared
  · rw [hdrawn]
    exact Or.inr (Renderer.needsRepaint_flush (Renderer.works_prepare h call) call.now)

theorem Renderer.UpToDate.callAll (h : renderer.UpToDate) (calls : List RendererCall) :
    (renderer.callAll calls).UpToDate := by
  induction calls generalizing renderer with
  | nil => exact h
  | cons call rest ih => exact ih (Renderer.upToDate_call h.works call fun _ ↦ h.shown)

/-- On an outlet that works the renderer is up to date once a view came. -/
theorem Renderer.upToDate_callAll (h : renderer.outlet.Works) (calls : List RendererCall)
    (hviews : viewsOf calls ≠ []) : (renderer.callAll calls).UpToDate := by
  induction calls generalizing renderer with
  | nil => exact absurd rfl hviews
  | cons call rest ih =>
    cases hview : call.view? with
    | some view =>
      have hnow := Renderer.upToDate_call h call fun hnone ↦ by simp [hview] at hnone
      exact hnow.callAll rest
    | none =>
      refine ih (Renderer.works_call h call) ?_
      rwa [viewsOf, List.filterMap_cons_none hview] at hviews

theorem Renderer.UpToDate.needsRepaint_closes (h : renderer.UpToDate) {call : RendererCall}
    (hcloses : call.Closes renderer) : (renderer.call call).needsRepaint = false := by
  rcases hcloses.cases with ⟨-, hdrawn⟩ | ⟨hclear, hsame⟩
  · rw [hdrawn]
    exact Renderer.needsRepaint_flush h.works call.now
  · rw [hsame]
    exact h.shown.resolve_left (by simp [hclear])

/-- Assumes: a screen with room for the frame, and an outlet that works. Once a view came, a call
that closes brings the visible frame onto the screen. -/
theorem Renderer.Sound.look_closed {terminal : Terminal} (h : renderer.Sound terminal)
    (hroom : terminal.device.Holds Board.frameWidth Board.frameHeight)
    (hworks : renderer.outlet.Works) {calls : List RendererCall} (hviews : viewsOf calls ≠ [])
    {call : RendererCall} (hcloses : call.Closes (renderer.callAll calls)) {x y : Nat}
    (hx : x < Board.frameWidth) (hy : y < Board.frameHeight) :
    let closed := (renderer.callAll calls).call call
    (closed.visible.get? x y).map Cell.look = some ((closed.screen terminal).lines y x) :=
  ((h.callAll hroom calls).call hroom call).look_eq
    ((Renderer.upToDate_callAll hworks calls hviews).needsRepaint_closes hcloses) hx hy

end Calls

end LiveBoard.Display
