import LiveBoard.Time

/-!
# The repaint throttle

Repaints are spaced by an interval, one second divided by their number per second and rounded down.
A repaint is due when the interval since the last one is over; before the first one it always is.
-/

set_option autoImplicit false
set_option relaxedAutoImplicit false

namespace LiveBoard.Display

/-- The least spacing between repaints, and when the last one was. -/
structure Throttle where
  /-- The spacing. -/
  interval : Duration
  /-- The last repaint. -/
  last : Option Instant
  deriving DecidableEq, Repr

/-- The throttle of a number of repaints per second; zero sets no limit. -/
def Throttle.perSecond (count : Nat) : Throttle :=
  ⟨if count = 0 then 0 else oneSecond / count, none⟩

/-- The time from `now` until a repaint is due, zero where it is. -/
def Throttle.remaining (throttle : Throttle) (now : Instant) : Duration :=
  match throttle.last with
  | none => 0
  | some last => throttle.interval - (now - last)

/-- Whether a repaint is due. -/
def Throttle.isDue (throttle : Throttle) (now : Instant) : Bool := throttle.remaining now == 0

/-- Records a repaint. -/
def Throttle.mark (throttle : Throttle) (now : Instant) : Throttle :=
  { throttle with last := some now }

end LiveBoard.Display
