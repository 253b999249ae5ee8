import LiveBoard.Proofs.Display.RendererCalls
import LiveBoard.Proofs.Screen.CursorCommands

/-!
# The renderer does not show the cursor

What an outlet accepts of a drawing is a beginning of it, and all of it where the write succeeds
(`Renderer.accepted_send_torn`). No drawing shows the cursor, whole or torn, and what comes after a
torn one is a repaint, which begins with an escape byte. So no call of the renderer adds the
sequence that shows the cursor to what was written before, by whomever (`Renderer.Hides.call`).
-/

set_option autoImplicit false
set_option relaxedAutoImplicit false

namespace LiveBoard.Display

open Screen

/-! ### Beginnings of drawings -/

/-- A write accepts a beginning of the bytes. -/
theorem accepted_writeAll (answers : List WriteAnswer) (bytes : List UInt8) :
    (writeAll answers bytes).accepted <+: bytes := by
  induction answers generalizing bytes with
  | nil => cases bytes <;> exact List.prefix_refl _
  | cons answer answers ih =>
    cases bytes with
    | nil => exact List.prefix_refl _
    | cons byte rest =>
      cases answer with
      | everything => exact List.prefix_refl _
      | interrupted => exact ih (byte :: rest)
      | failed => exact List.nil_prefix
      | atMost count =>
        cases count with
        | zero => exact List.nil_prefix
        | succ count =>
          obtain ⟨lost, hlost⟩ := ih ((byte :: rest).drop (count + 1))
          refine ⟨lost, ?_⟩
          change (byte :: rest).take (count + 1) ++ _ ++ lost = _
          rw [List.append_assoc, hlost, List.take_append_drop]

theorem Outlet.accepted_send_torn (outlet : Outlet) (bytes : List UInt8) :
    ∃ torn, torn <+: bytes ∧
      (outlet.send bytes).2.accepted.toList = outlet.accepted.toList ++ torn := by
  refine ⟨_, accepted_writeAll outlet.writes bytes, ?_⟩
  unfold Outlet.send
  dsimp only
  split <;> simp [Outlet.flush]

/-- A renderer sends a beginning of a drawing, and all of it if it succeeds. -/
theorem Renderer.accepted_send_torn (renderer : Renderer) (bytes : List UInt8) :
    ∃ torn, torn <+: bytes ∧
      (renderer.send bytes).2.accepted.toList = renderer.outlet.accepted.toList ++ torn ∧
      ((renderer.send bytes).1 = true → torn = bytes) := by
  have hbeginning : ∃ torn, torn <+: bytes ∧
      (renderer.send bytes).2.accepted.toList = renderer.outlet.accepted.toList ++ torn := by
    unfold Renderer.send
    split
    · exact ⟨[], List.nil_prefix, (List.append_nil _).symm⟩
    · exact renderer.outlet.accepted_send_torn bytes
  obtain ⟨torn, htorn, haccepted⟩ := hbeginning
  refine ⟨torn, htorn, haccepted, ?_⟩
  intro hsent
  rw [renderer.accepted_send bytes hsent] at haccepted
  exact (List.append_cancel_left haccepted).symm

/-! ### Drawings -/

theorem settled_of_adds {start drawing : Drawing} {width height : Nat}
    (hstart : ∀ mark ∈ start.marks.toList, mark.isPlain = true)
    (hadds : start.Adds width height drawing) : Settled drawing.bytes := by
  obtain ⟨marks, hmarks, hfits⟩ := hadds
  refine settled_bytesOfMarks _ ?_
  intro mark hmem
  rw [hmarks, List.mem_append] at hmem
  rcases hmem with hmem | hmem
  · exact hstart mark hmem
  · exact (hfits mark hmem).isPlain

/-- Assumes: a well-paired frame of the usual size is staged. No drawing of it shows the cursor, and
a repaint begins with an escape byte. -/
theorem Renderer.settled_drawing {renderer : Renderer}
    (hnext : renderer.next.PairedOfSize Board.frameWidth Board.frameHeight) :
    Settled renderer.drawing.bytes ∧
      (renderer.needsRepaint = true → ∃ rest, renderer.drawing.bytes = 0x1B :: rest) := by
  unfold Renderer.drawing
  by_cases hrepaint : renderer.needsRepaint = true
  · rw [if_pos hrepaint]
    obtain ⟨rest, hbytes⟩ := bytes_repaint hnext (by decide) (by decide)
    have hwidth : 0 < renderer.next.width := by
      rw [hnext.width]
      decide
    have hadds := Drawing.adds_repaint hnext.paired.legible hwidth
    exact ⟨settled_of_adds (by decide) hadds, fun _ ↦ ⟨_, hbytes⟩⟩
  · rw [if_neg hrepaint]
    have hadds : (Drawing.start renderer.pen).Adds _ _
        (difference renderer.visible renderer.next renderer.pen) :=
      Drawing.adds_difference hnext.paired.legible renderer.pen
    exact ⟨settled_of_adds (fun _ hmem ↦ by cases hmem) hadds, fun h ↦ absurd h hrepaint⟩

/-! ### Calls -/

/-- All that was written so far, by the renderer and by others, does not show the cursor in the end:
after a torn drawing not before the next escape byte, and otherwise whatever follows. -/
structure Renderer.Hides (renderer : Renderer) (bytes : List UInt8) : Prop where
  next : renderer.next.PairedOfSize Board.frameWidth Board.frameHeight
  hushed : Hushed BeginsAnew bytes
  settled : renderer.needsRepaint = false → Settled bytes

section Hides

variable {renderer : Renderer} {bytes : List UInt8}

theorem Renderer.hides_new (outlet : Outlet) (refreshPerSecond : Nat) :
    (Renderer.new outlet refreshPerSecond).Hides [] :=
  ⟨⟨Frame.wellPaired_blank _ _, rfl, rfl⟩, hushed_nil, fun _ ↦ hushed_nil⟩

/-- What others write is settled if what they add is and begins with an escape byte. -/
theorem Renderer.Hides.add (h : renderer.Hides bytes) {rest : List UInt8}
    (hrest : Settled (0x1B :: rest)) : renderer.Hides (bytes ++ 0x1B :: rest) :=
  ⟨h.next, (h.hushed.append_escape hrest).hushed, fun _ ↦ h.hushed.append_escape hrest⟩

/-- A renderer that draws adds a beginning of its drawing. -/
theorem Renderer.Hides.flush (h : renderer.Hides bytes) (now : Instant) :
    ∃ written, (renderer.flush now).outlet.accepted.toList =
        renderer.outlet.accepted.toList ++ written ∧
      (renderer.flush now).Hides (bytes ++ written) := by
  obtain ⟨hsettled, hrepaint⟩ := Renderer.settled_drawing h.next
  obtain ⟨torn, htorn, haccepted, hsent⟩ := renderer.accepted_send_torn renderer.drawing.bytes
  have hafter : (renderer.flush now).needsRepaint = false → torn = renderer.drawing.bytes := by
    intro hclean
    exact hsent (by simpa [Renderer.flush] using hclean)
  refine ⟨torn, haccepted, ?_⟩
  by_cases hstate : renderer.needsRepaint = true
  · obtain ⟨rest, hbytes⟩ := hrepaint hstate
    have hanew : BeginsAnew renderer.drawing.bytes := by
      rw [hbytes]
      exact fun byte hbyte ↦ (Option.some.inj hbyte).symm
    refine ⟨h.next, ?_, ?_⟩
    · exact h.hushed.append (hsettled.beginning htorn) fun other hother ↦
        beginsAnew_append (beginsAnew_of_beginning htorn hanew) hother
    · intro hclean
      rw [hbytes] at hsettled
      rw [hafter hclean, hbytes]
      exact h.hushed.append_escape hsettled
  · have hbefore : Settled bytes := h.settled (by simpa using hstate)
    refine ⟨h.next, ?_, ?_⟩
    · exact Hushed.append hbefore (hsettled.beginning htorn) fun _ _ ↦ trivial
    · intro hclean
      rw [hafter hclean]
      exact hbefore.append hsettled

theorem Renderer.Hides.stage (h : renderer.Hides bytes) (view : Board.View) :
    (renderer.stage view).Hides bytes := by
  refine ⟨?_, h.hushed, h.settled⟩
  change (view.paint (.blank renderer.next.width renderer.next.height)).PairedOfSize _ _
  rw [h.next.width, h.next.height]
  exact view.pairedOfSize_paint (by decide)

/-- No call of the renderer shows the cursor. -/
theorem Renderer.Hides.call (h : renderer.Hides bytes) (call : RendererCall) :
    ∃ written, (renderer.call call).outlet.accepted.toList =
        renderer.outlet.accepted.toList ++ written ∧
      (renderer.call call).Hides (bytes ++ written) := by
  have hprepared : (renderer.prepare call).outlet = renderer.outlet ∧
      (renderer.prepare call).Hides bytes := by
    unfold Renderer.prepare
    split
    · exact ⟨rfl, h.stage _⟩
    · exact ⟨rfl, h⟩
  rcases renderer.call_cases call with ⟨hsame, -⟩ | ⟨hdrawn, -⟩
  · rw [hsame]
    refine ⟨[], ?_, ?_⟩
    · rw [hprepared.1, List.append_nil]
    · rw [List.append_nil]
      exact hprepared.2
  · rw [hdrawn, ← hprepared.1]
    exact hprepared.2.flush call.now

end Hides

end LiveBoard.Display
