import LiveBoard.Broker.Reconnect
import Mathlib.Data.Nat.Basic

/-!
# Waits between tries

A wait is the first one, doubled once for every try after the first but not more than
`doublingLimit` times, and cut to the longest one (`ReconnectPolicy.backoff_eq`). The product never
has to be cut for being no duration, because the longest wait is one. So up to the limit each wait
is twice the one before it, and beyond it the wait stays the same. The waits go on to double all the
same where there is nothing to double, or where the longest wait was reached before
(`ReconnectPolicy.backoff_doubles`).
-/

set_option autoImplicit false
set_option relaxedAutoImplicit false

namespace LiveBoard.Broker

/-! ### Products under a bound -/

section Products

variable {bound product factor : Nat}

/-- A product that may not exceed a limit may be left as it is below a bound within the limit. -/
theorem min_min_of_le {limit : Nat} (hbound : bound ≤ limit) :
    min (min product limit) bound = min bound product := by
  omega

/-- Under a bound the double may be taken of what the bound leaves. -/
theorem min_double (bound product : Nat) :
    min bound (product * 2) = min bound (2 * min bound product) := by
  omega

/-- Under a bound a double is what was doubled only where this is zero or the bound. -/
theorem eq_min_double_iff (hbound : product ≤ bound) :
    product = min bound (2 * product) ↔ product = 0 ∨ product = bound := by
  omega

/-- Under a bound a multiple is what was multiplied only where this is zero or not below it. -/
theorem min_eq_min_mul_iff (hfactor : 2 ≤ factor) :
    min bound product = min bound (product * factor) ↔ product = 0 ∨ bound ≤ product := by
  have hmore : product * 2 ≤ product * factor := Nat.mul_le_mul_left product hfactor
  by_cases hzero : product = 0
  · simp [hzero]
  · omega

end Products

/-! ### Waits -/

section Waits

variable {policy : ReconnectPolicy} {attempt : Nat}

/-- Assumes: a longest wait that is a duration. The wait before a try is exact. -/
theorem ReconnectPolicy.backoff_eq (hlongest : policy.maxBackoff ≤ longestDuration)
    (attempt : Nat) :
    policy.backoff attempt = min policy.maxBackoff
      (policy.initialBackoff * Nat.pow 2 (min (attempt - 1) doublingLimit)) :=
  min_min_of_le hlongest

/-- Beyond the limit nothing doubles any more. -/
theorem ReconnectPolicy.backoff_of_lt (hbeyond : doublingLimit < attempt) :
    policy.backoff attempt = policy.backoff (doublingLimit + 1) := by
  unfold ReconnectPolicy.backoff
  rw [Nat.min_eq_right (Nat.le_sub_one_of_lt hbeyond), Nat.add_sub_cancel, Nat.min_self]

/-- Up to the limit the next wait is twice the one before it. -/
theorem ReconnectPolicy.backoff_succ (hlongest : policy.maxBackoff ≤ longestDuration)
    (hfirst : 1 ≤ attempt) (hwithin : attempt ≤ doublingLimit) :
    policy.backoff (attempt + 1) = min policy.maxBackoff (2 * policy.backoff attempt) := by
  obtain ⟨earlier, rfl⟩ := Nat.exists_eq_add_of_le' hfirst
  rw [ReconnectPolicy.backoff_eq hlongest, ReconnectPolicy.backoff_eq hlongest,
    Nat.add_sub_cancel, Nat.add_sub_cancel, Nat.min_eq_left hwithin,
    Nat.min_eq_left (Nat.le_of_succ_le hwithin)]
  change min _ (policy.initialBackoff * (Nat.pow 2 earlier * 2)) = _
  rw [← Nat.mul_assoc]
  exact min_double _ _

theorem ReconnectPolicy.backoff_succ_of_lt (hbeyond : doublingLimit < attempt) :
    policy.backoff (attempt + 1) = policy.backoff attempt :=
  (ReconnectPolicy.backoff_of_lt (Nat.lt_succ_of_lt hbeyond)).trans
    (ReconnectPolicy.backoff_of_lt hbeyond).symm

/-- A wait is the first one doubled for every try in between where these are within the limit, the
waits are zero, or the longest wait is reached within the limit. -/
theorem ReconnectPolicy.backoff_eq_min_iff (hlongest : policy.maxBackoff ≤ longestDuration) :
    policy.backoff attempt = min policy.maxBackoff
        (policy.initialBackoff * Nat.pow 2 (attempt - 1)) ↔
      attempt ≤ doublingLimit + 1 ∨ policy.initialBackoff = 0 ∨
        policy.maxBackoff ≤ policy.initialBackoff * Nat.pow 2 doublingLimit := by
  rw [ReconnectPolicy.backoff_eq hlongest]
  by_cases hwithin : attempt ≤ doublingLimit + 1
  · rw [Nat.min_eq_left (Nat.sub_le_of_le_add hwithin)]
    exact iff_of_true rfl (Or.inl hwithin)
  · -- what the limit leaves out is a multiplier of its own
    obtain ⟨more, rfl⟩ := Nat.exists_eq_add_of_le (Nat.succ_le_of_lt (Nat.lt_of_not_le hwithin))
    have hexponent : doublingLimit + 1 + 1 + more - 1 = doublingLimit + (more + 1) := by omega
    have hfactor : 2 ≤ Nat.pow 2 (more + 1) := Nat.le_self_pow (Nat.succ_ne_zero more) 2
    have hsplit : Nat.pow 2 (doublingLimit + (more + 1)) =
        Nat.pow 2 doublingLimit * Nat.pow 2 (more + 1) := Nat.pow_add 2 _ _
    have hzero : policy.initialBackoff * Nat.pow 2 doublingLimit = 0 ↔
        policy.initialBackoff = 0 := by
      rw [Nat.mul_eq_zero]
      exact or_iff_left (by decide)
    rw [hexponent, Nat.min_eq_right (Nat.le_add_right _ _), hsplit, ← Nat.mul_assoc,
      min_eq_min_mul_iff hfactor, hzero]
    exact (or_iff_right hwithin).symm

/-- A wait is followed by one twice as long where the try is within the limit, the wait is zero, or
it is the longest one. -/
theorem ReconnectPolicy.backoff_succ_iff (hlongest : policy.maxBackoff ≤ longestDuration)
    (hfirst : 1 ≤ attempt) :
    policy.backoff (attempt + 1) = min policy.maxBackoff (2 * policy.backoff attempt) ↔
      attempt ≤ doublingLimit ∨ policy.backoff attempt = 0 ∨
        policy.backoff attempt = policy.maxBackoff := by
  by_cases hwithin : attempt ≤ doublingLimit
  · exact iff_of_true (ReconnectPolicy.backoff_succ hlongest hfirst hwithin) (Or.inl hwithin)
  · rw [ReconnectPolicy.backoff_succ_of_lt (Nat.lt_of_not_le hwithin), or_iff_right hwithin]
    refine eq_min_double_iff ?_
    rw [ReconnectPolicy.backoff_eq hlongest]
    exact Nat.min_le_left _ _

/-- Assumes: a longest wait that is a duration, and tries that are counted from one. The wait before
a try is the first wait, multiplied by two for every try in between but for no more of them than the
limit says, and cut to the longest wait; the multiplier is a number of 32 bits. It is the first wait
multiplied by two for every try in between exactly where these are within the limit, or the waits
are zero, or the longest wait is reached within the limit. The next wait is twice the one before it,
cut to the longest wait, exactly where the try is within the limit, or the wait is zero or the
longest one; beyond the limit it is the one before it. -/
theorem ReconnectPolicy.backoff_doubles (hlongest : policy.maxBackoff ≤ longestDuration)
    (hfirst : 1 ≤ attempt) :
    policy.backoff attempt = min policy.maxBackoff
      (policy.initialBackoff * Nat.pow 2 (min (attempt - 1) doublingLimit)) ∧
    Nat.pow 2 (min (attempt - 1) doublingLimit) < Nat.pow 2 32 ∧
    (policy.backoff attempt = min policy.maxBackoff
        (policy.initialBackoff * Nat.pow 2 (attempt - 1)) ↔
      attempt ≤ doublingLimit + 1 ∨ policy.initialBackoff = 0 ∨
        policy.maxBackoff ≤ policy.initialBackoff * Nat.pow 2 doublingLimit) ∧
    (policy.backoff (attempt + 1) = min policy.maxBackoff (2 * policy.backoff attempt) ↔
      attempt ≤ doublingLimit ∨ policy.backoff attempt = 0 ∨
        policy.backoff attempt = policy.maxBackoff) ∧
    (doublingLimit < attempt → policy.backoff (attempt + 1) = policy.backoff attempt) := by
  have hmultiplier : Nat.pow 2 (min (attempt - 1) doublingLimit) < Nat.pow 2 32 :=
    Nat.pow_lt_pow_right (by decide) (Nat.lt_of_le_of_lt (Nat.min_le_right _ _) (by decide))
  exact ⟨ReconnectPolicy.backoff_eq hlongest attempt, hmultiplier,
    ReconnectPolicy.backoff_eq_min_iff hlongest, ReconnectPolicy.backoff_succ_iff hlongest hfirst,
    ReconnectPolicy.backoff_succ_of_lt⟩

/-- The standard waits reach eight seconds with the fifth one and stay there. -/
theorem ReconnectPolicy.backoff_doubles_standard :
    ReconnectPolicy.standard.maxBackoff ≤ longestDuration ∧ 1 ≤ 30 ∧
      ReconnectPolicy.standard.backoff 30 = min ReconnectPolicy.standard.maxBackoff
        (ReconnectPolicy.standard.initialBackoff * Nat.pow 2 29) ∧
      ReconnectPolicy.standard.backoff 31 = ReconnectPolicy.standard.backoff 30 := by
  have hlongest : ReconnectPolicy.standard.maxBackoff ≤ longestDuration := by decide
  obtain ⟨-, -, hexact, -, hstays⟩ :=
    ReconnectPolicy.backoff_doubles hlongest (by decide : 1 ≤ 30)
  exact ⟨hlongest, by decide, hexact.mpr (Or.inr (Or.inr (by decide))), hstays (by decide)⟩

/-- Where the first wait is a nanosecond and the longest one eight seconds, the waits double up to
the seventeenth one, and the eighteenth is not twice as long. -/
theorem ReconnectPolicy.eighteenth_wait :
    let policy : ReconnectPolicy := ⟨30, 1, 8 * oneSecond⟩
    policy.maxBackoff ≤ longestDuration ∧ policy.backoff 17 = 65536 ∧
      policy.backoff 18 = 65536 ∧
      min policy.maxBackoff (policy.initialBackoff * Nat.pow 2 (18 - 1)) = 131072 ∧
      min policy.maxBackoff (2 * policy.backoff 17) = 131072 := by
  decide

end Waits

end LiveBoard.Broker
