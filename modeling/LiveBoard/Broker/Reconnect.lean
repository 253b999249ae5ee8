import LiveBoard.Time

/-!
# The reconnect policy

After a session has dropped it is tried again a limited number of times, with a wait before each try
that doubles from the initial one up to the longest one. The doubling stops after `doublingLimit`
times.
-/

set_option autoImplicit false
set_option relaxedAutoImplicit false

namespace LiveBoard.Broker

/-- How a dropped session is tried again. -/
structure ReconnectPolicy where
  /-- The number of failures in a row that are tolerated. -/
  maxAttempts : Nat
  /-- The wait before the first try. -/
  initialBackoff : Duration
  /-- The longest wait. -/
  maxBackoff : Duration
  deriving DecidableEq, Repr

/-- Five tries, after half a second at first and eight seconds at most. -/
def ReconnectPolicy.standard : ReconnectPolicy := ⟨5, milliseconds 500, 8 * oneSecond⟩

/-- No tries. -/
def ReconnectPolicy.disabled : ReconnectPolicy := ⟨0, 0, 0⟩

/-- The number of times a wait doubles. -/
def doublingLimit : Nat := 16

/-- The wait before a try, counted from one. -/
def ReconnectPolicy.backoff (policy : ReconnectPolicy) (attempt : Nat) : Duration :=
  min (saturatedMultiple policy.initialBackoff (Nat.pow 2 (min (attempt - 1) doublingLimit)))
    policy.maxBackoff

end LiveBoard.Broker
