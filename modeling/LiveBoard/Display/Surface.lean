import LiveBoard.Board.View
import LiveBoard.Screen.Mark

/-!
# The terminal surface

While the board is displayed the cursor is hidden and, if wanted, the alternate screen is shown. A
surface is entered once and released once: releasing it again writes nothing. Off the alternate
screen the last frame stays and the cursor moves below it.
-/

set_option autoImplicit false
set_option relaxedAutoImplicit false

namespace LiveBoard.Display

open Screen

/-- The terminal while it is held. -/
structure Surface where
  /-- Whether the alternate screen is shown. -/
  alternate : Bool
  /-- Whether the terminal was given back. -/
  released : Bool
  deriving DecidableEq, Repr

/-- A control sequence given by its body. -/
def sequence (body : String) : List UInt8 := controlSequence body.toList

/-- The cursor address of a column and row, both written out. -/
def fullAddress (x y : Nat) : List UInt8 :=
  controlSequence (parameter (y + 1) ++ ';' :: parameter (x + 1) ++ ['H'])

/-- What is written on entering. -/
def enterBytes (alternate : Bool) : List UInt8 :=
  (if alternate then sequence "?1049h" else []) ++ sequence "?25l" ++ sequence "2J" ++
    fullAddress 0 0

/-- What is written on giving the terminal back. -/
def releaseBytes (alternate : Bool) : List UInt8 :=
  sequence "0m" ++ sequence "?25h" ++
    if alternate then sequence "?1049l" else fullAddress 0 Board.frameHeight ++ [0x0A]

/-- The surface just after entering. -/
def Surface.entered (alternate : Bool) : Surface := ⟨alternate, false⟩

/-- Gives the terminal back, with what is written. -/
def Surface.release (surface : Surface) : List UInt8 × Surface :=
  if surface.released then ([], surface)
  else (releaseBytes surface.alternate, { surface with released := true })

end LiveBoard.Display
