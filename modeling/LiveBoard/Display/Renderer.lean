import LiveBoard.Board.View
import LiveBoard.Display.Outlet
import LiveBoard.Display.Throttle
import LiveBoard.Screen.Drawing

/-!
# The renderer

The renderer holds the frame that is shown and stages the next one. A staged frame is drawn when the
throttle lets it, as the difference to the frame shown, in one write; a view that comes while
another is staged replaces it. A write that fails leaves the terminal in an unknown state, so the
next frame is drawn as a whole. Every operation that may draw is given the time.
-/

set_option autoImplicit false
set_option relaxedAutoImplicit false

namespace LiveBoard.Display

open Screen

/-- Counts of what was drawn. -/
structure Stats where
  /-- Frames drawn. -/
  frames : Nat
  /-- Views replaced by a later one before they were drawn. -/
  coalesced : Nat
  /-- Cells drawn because they differed. -/
  cellsChanged : Nat
  /-- Bytes of all drawings. -/
  bytesWritten : Nat
  deriving DecidableEq, Repr

/-- The state of the renderer. -/
structure Renderer where
  /-- Where frames are written. -/
  outlet : Outlet
  /-- The frame that is shown. -/
  visible : Frame
  /-- The frame that was staged last. -/
  next : Frame
  /-- What is known about the terminal. -/
  pen : Pen
  /-- When a staged frame is due. -/
  throttle : Throttle
  /-- Whether a frame is staged. -/
  staged : Bool
  /-- Whether the next drawing has to be of the whole frame. -/
  needsRepaint : Bool
  /-- What was drawn. -/
  stats : Stats

/-- A renderer that has drawn nothing yet. -/
def Renderer.new (outlet : Outlet) (refreshPerSecond : Nat) : Renderer where
  outlet := outlet
  visible := .blank Board.frameWidth Board.frameHeight
  next := .blank Board.frameWidth Board.frameHeight
  pen := .unknown
  throttle := .perSecond refreshPerSecond
  staged := false
  needsRepaint := true
  stats := ⟨0, 0, 0, 0⟩

/-- The drawing of the staged frame. -/
def Renderer.drawing (renderer : Renderer) : Drawing :=
  if renderer.needsRepaint then repaint renderer.next
  else difference renderer.visible renderer.next renderer.pen

/-- The number of cells that a drawing adds to the count: a drawing of the whole frame adds none. -/
def Renderer.changed (renderer : Renderer) (drawing : Drawing) : Nat :=
  if renderer.needsRepaint then 0 else drawing.cells

/-- Sends the bytes of a drawing; an empty drawing sends nothing and succeeds. -/
def Renderer.send (renderer : Renderer) (bytes : List UInt8) : Bool × Outlet :=
  if bytes.isEmpty then (true, renderer.outlet) else renderer.outlet.send bytes

/-- Draws the staged frame. -/
def Renderer.flush (renderer : Renderer) (now : Instant) : Renderer :=
  let drawing := renderer.drawing
  let bytes := drawing.bytes
  let (sent, outlet) := renderer.send bytes
  { outlet := outlet
    visible := renderer.next
    next := renderer.next
    pen := drawing.pen
    throttle := renderer.throttle.mark now
    staged := false
    needsRepaint := !sent
    stats :=
      { renderer.stats with
        frames := renderer.stats.frames + 1
        cellsChanged := renderer.stats.cellsChanged + renderer.changed drawing
        bytesWritten := renderer.stats.bytesWritten + bytes.length } }

/-- Draws the staged frame, if there is one and it is due. -/
def Renderer.tick (renderer : Renderer) (now : Instant) : Renderer :=
  if renderer.staged && renderer.throttle.isDue now then renderer.flush now else renderer

/-- Draws the staged frame, if there is one, due or not. -/
def Renderer.flushNow (renderer : Renderer) (now : Instant) : Renderer :=
  if renderer.staged then renderer.flush now else renderer

/-- Stages the painting of a view on a cleared frame. -/
def Renderer.stage (renderer : Renderer) (view : Board.View) : Renderer :=
  { renderer with
    next := view.paint renderer.next.cleared
    staged := true
    stats :=
      { renderer.stats with
        coalesced := renderer.stats.coalesced + if renderer.staged then 1 else 0 } }

/-- Stages a view, and draws it if it is due. -/
def Renderer.update (renderer : Renderer) (view : Board.View) (now : Instant) : Renderer :=
  (renderer.stage view).tick now

/-- The time until the staged frame is due, none where no frame is staged. -/
def Renderer.pendingFor (renderer : Renderer) (now : Instant) : Option Duration :=
  if renderer.staged then some (renderer.throttle.remaining now) else none

end LiveBoard.Display
