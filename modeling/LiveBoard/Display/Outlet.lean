/-!
# Outlets

An outlet is where frames are written. It answers every write and every flush by a script, and once
the script of one kind is over it accepts everything. `Outlet.send` writes bytes until all are
accepted, repeating interrupted writes, and then flushes; it stops at the first failure, and a write
that accepts nothing is one.
-/

set_option autoImplicit false
set_option relaxedAutoImplicit false

namespace LiveBoard.Display

/-- The answer to a write. -/
inductive WriteAnswer
  /-- All bytes are accepted. -/
  | everything
  /-- At most this many bytes are accepted. -/
  | atMost (count : Nat)
  /-- No byte is accepted, and the write is to be repeated. -/
  | interrupted
  /-- The write fails. -/
  | failed
  deriving DecidableEq, Repr

/-- Where frames are written. -/
structure Outlet where
  /-- The answers to the next writes. -/
  writes : List WriteAnswer
  /-- The answers to the next flushes: whether each succeeds. -/
  flushes : List Bool
  /-- The bytes accepted so far. -/
  accepted : Array UInt8
  /-- The number of flushes so far. -/
  flushCalls : Nat
  deriving DecidableEq, Repr

/-- The outlet that accepts everything. -/
def Outlet.unlimited : Outlet := ⟨[], [], #[], 0⟩

/-- The result of writing bytes: the answers left, the bytes accepted and whether these are all. -/
structure Written where
  /-- The answers that were not used. -/
  answers : List WriteAnswer
  /-- The bytes accepted. -/
  accepted : List UInt8
  /-- Whether all bytes were accepted. -/
  complete : Bool
  deriving DecidableEq, Repr

/-- Writes bytes until all are accepted or a write fails. -/
def writeAll : List WriteAnswer → List UInt8 → Written
  | answers, [] => ⟨answers, [], true⟩
  | [], bytes => ⟨[], bytes, true⟩
  | .everything :: answers, bytes => ⟨answers, bytes, true⟩
  | .interrupted :: answers, bytes => writeAll answers bytes
  | .failed :: answers, _ => ⟨answers, [], false⟩
  | .atMost 0 :: answers, _ => ⟨answers, [], false⟩
  | .atMost count :: answers, bytes =>
    let rest := writeAll answers (bytes.drop count)
    { rest with accepted := bytes.take count ++ rest.accepted }

/-- Flushes, and tells whether that succeeds. -/
def Outlet.flush (outlet : Outlet) : Bool × Outlet :=
  (outlet.flushes.headD true,
    { outlet with flushes := outlet.flushes.tail, flushCalls := outlet.flushCalls + 1 })

/-- Writes all bytes and flushes, and tells whether both succeed. -/
def Outlet.send (outlet : Outlet) (bytes : List UInt8) : Bool × Outlet :=
  let written := writeAll outlet.writes bytes
  let outlet :=
    { outlet with
      writes := written.answers
      accepted := outlet.accepted ++ written.accepted.toArray }
  if written.complete then outlet.flush else (false, outlet)

end LiveBoard.Display
