import LiveBoard.Display.Throttle
import Mathlib.Data.List.Basic
import Mathlib.Data.Nat.Basic

/-!
# Throttling

A repaint is due when the interval since the last one is over (`Throttle.isDue_iff`). What remains
of the interval shrinks as time goes on, and says when that is (`Throttle.isDue_later_iff`).

So repaints that are each made when they are due are an interval apart (`Throttle.Allows.spaced`),
and as closely as that they may come (`Throttle.allows_range'`). A throttle therefore keeps to a
number of repaints in a second where, and only where, as many intervals fill the second
(`Throttle.keepsTo_iff`). The interval of a throttle is a second divided by the number of repaints
and rounded down, so the throttle keeps to this number only if the division leaves no remainder
(`Throttle.keeps_rate_iff`).
-/

set_option autoImplicit false
set_option relaxedAutoImplicit false

namespace LiveBoard.Display

/-! ### When a repaint is due -/

section Due

variable {throttle : Throttle} {now later last : Instant}

/-- A repaint is due when the interval since the last one is over, if there was one. -/
@[grind =]
theorem Throttle.isDue_iff :
    throttle.isDue now = true ↔ ∀ last ∈ throttle.last, throttle.interval ≤ now - last := by
  unfold Throttle.isDue Throttle.remaining
  cases throttle.last with
  | none => simp
  | some last => simp [Nat.sub_eq_zero_iff_le]

/-- A repaint that is due comes an interval after the last one. -/
theorem Throttle.le_of_isDue (hdue : throttle.isDue now = true)
    (hlast : throttle.last = some last) : throttle.interval ≤ now - last :=
  Throttle.isDue_iff.mp hdue last hlast

theorem Throttle.isDue_of_first (hlast : throttle.last = none) (now : Instant) :
    throttle.isDue now = true := by
  grind

/-- No repaint is due before the interval is over. -/
theorem Throttle.isDue_of_lt (hlast : throttle.last = some last) (hsince : last ≤ now)
    (hearly : now < last + throttle.interval) : throttle.isDue now = false := by
  by_contra hdue
  have hover := Throttle.le_of_isDue (by simpa using hdue) hlast
  exact Nat.not_lt_of_le hover (Nat.sub_lt_left_of_lt_add hsince hearly)

theorem Throttle.remaining_le (throttle : Throttle) (now : Instant) :
    throttle.remaining now ≤ throttle.interval := by
  unfold Throttle.remaining
  split
  · exact Nat.zero_le _
  · exact Nat.sub_le _ _

/-- What remains does not grow. -/
theorem Throttle.remaining_anti (throttle : Throttle) (hlater : now ≤ later) :
    throttle.remaining later ≤ throttle.remaining now := by
  unfold Throttle.remaining
  split
  · exact Nat.le_refl _
  · exact Nat.sub_le_sub_left (Nat.sub_le_sub_right hlater _) _

/-- An interval is over once what remained of it at some time is over. -/
theorem le_sub_iff_add_le {interval last now later : Nat} (hsince : last ≤ now)
    (hlater : now ≤ later) :
    interval ≤ later - last ↔ now + (interval - (now - last)) ≤ later := by
  omega

/-- Assumes: the last repaint is not ahead of the time. A repaint is due once the time that
remains is over, and not before. -/
theorem Throttle.isDue_later_iff (hsince : ∀ last ∈ throttle.last, last ≤ now)
    (hlater : now ≤ later) :
    throttle.isDue later = true ↔ now + throttle.remaining now ≤ later := by
  rw [Throttle.isDue_iff]
  unfold Throttle.remaining
  cases hlast : throttle.last with
  | none => simpa using hlater
  | some last => simpa using le_sub_iff_add_le (hsince last hlast) hlater

end Due

/-! ### Repaints one after the other -/

/-- Repaints at some instants, one after the other, are each due when they are made. -/
def Throttle.Allows (throttle : Throttle) : List Instant → Prop
  | [] => True
  | now :: rest => throttle.isDue now = true ∧ (throttle.mark now).Allows rest

instance Throttle.decidableAllows (throttle : Throttle) :
    (times : List Instant) → Decidable (throttle.Allows times)
  | [] => .isTrue trivial
  | now :: rest =>
    have := (throttle.mark now).decidableAllows rest
    inferInstanceAs (Decidable (_ ∧ _))

/-- A throttle lets no more than so many repaints come within a second, from whatever instant on,
however they are spread over the time. -/
def Throttle.KeepsTo (throttle : Throttle) (bound : Nat) : Prop :=
  ∀ times : List Instant, times.Pairwise (· ≤ ·) → throttle.Allows times → ∀ start : Instant,
    (times.filter fun time ↦ start ≤ time ∧ time < start + oneSecond).length ≤ bound

section Rates

variable {throttle : Throttle} {times : List Instant}

/-- Repaints that are due are an interval apart. -/
theorem Throttle.Allows.spaced (h : throttle.Allows times) (hsorted : times.Pairwise (· ≤ ·)) :
    times.Pairwise fun first second ↦ first + throttle.interval ≤ second := by
  induction times generalizing throttle with
  | nil => exact .nil
  | cons first rest ih =>
    obtain ⟨hfirst, hrest⟩ := List.pairwise_cons.mp hsorted
    have hspaced := ih h.2 hrest
    refine .cons ?_ hspaced
    intro time hmem
    -- the next repaint has waited for the interval, and the others come after it
    cases rest with
    | nil => cases hmem
    | cons second others =>
      have hdue : (throttle.mark first).isDue second = true := h.2.1
      have hwaited := Throttle.le_of_isDue hdue rfl
      have hsecond : first + throttle.interval ≤ second :=
        Nat.add_le_of_le_sub' (hfirst second List.mem_cons_self) hwaited
      have hnext : second ≤ time := by
        rcases List.mem_cons.mp hmem with rfl | hother
        · exact Nat.le_refl _
        · exact (List.pairwise_cons.mp hrest).1 time hother
      exact Nat.le_trans hsecond hnext

/-- Repaints may come as closely as an interval apart. -/
theorem Throttle.allows_range' {first : Instant} (hdue : throttle.isDue first = true)
    (count : Nat) : throttle.Allows (List.range' first count throttle.interval) := by
  induction count generalizing throttle first with
  | zero => exact trivial
  | succ count ih =>
    have hnext : (throttle.mark first).isDue (first + throttle.interval) = true := by
      refine Throttle.isDue_iff.mpr fun last hlast ↦ ?_
      obtain rfl : first = last := Option.some.inj hlast
      exact Nat.le_of_eq (Nat.add_sub_cancel_left _ _).symm
    rw [List.range'_succ]
    exact ⟨hdue, ih hnext⟩

/-- Spaced times within a span. -/
theorem length_of_spaced {interval early late : Nat} {times : List Nat}
    (hspaced : times.Pairwise fun first second ↦ first + interval ≤ second)
    (hwithin : ∀ time ∈ times, early ≤ time ∧ time ≤ late) :
    times.length * interval ≤ late - early + interval := by
  induction times generalizing early with
  | nil => simp
  | cons first rest ih =>
    obtain ⟨hfirst, hrest⟩ := List.pairwise_cons.mp hspaced
    obtain ⟨hearly, hlate⟩ := hwithin first List.mem_cons_self
    cases rest with
    | nil => simp
    | cons second rest =>
      have hsecond := hfirst second List.mem_cons_self
      have hlast := (hwithin second (by simp)).2
      have hlength := ih hrest fun time hmem ↦
        ⟨hfirst time hmem, (hwithin time (List.mem_cons_of_mem _ hmem)).2⟩
      rw [List.length_cons, Nat.add_mul, Nat.one_mul]
      omega

/-- Spaced times within a span that leaves out its end. -/
theorem length_mul_lt_of_spaced {interval start length : Nat} {times : List Nat}
    (hpositive : 0 < length)
    (hspaced : times.Pairwise fun first second ↦ first + interval ≤ second)
    (hwithin : ∀ time ∈ times, start ≤ time ∧ time < start + length) :
    times.length * interval < length + interval := by
  have hlast : ∀ time ∈ times, start ≤ time ∧ time ≤ start + length - 1 := fun time hmem ↦
    ⟨(hwithin time hmem).1, Nat.le_sub_one_of_lt (hwithin time hmem).2⟩
  have hlength := length_of_spaced hspaced hlast
  omega

/-- As many intervals as fill a second bound the repaints within it. -/
theorem Throttle.keepsTo_of_le {bound : Nat} (hfills : oneSecond ≤ bound * throttle.interval) :
    throttle.KeepsTo bound := by
  intro times hsorted hallows start
  set within := fun time : Instant ↦ decide (start ≤ time ∧ time < start + oneSecond)
  have hspaced := (hallows.spaced hsorted).filter within
  have hshort : (times.filter within).length * throttle.interval <
      (bound + 1) * throttle.interval :=
    calc (times.filter within).length * throttle.interval
      _ < oneSecond + throttle.interval :=
        length_mul_lt_of_spaced (by decide) hspaced fun time hmem ↦
          of_decide_eq_true (List.mem_filter.mp hmem).2
      _ ≤ bound * throttle.interval + throttle.interval := Nat.add_le_add_right hfills _
      _ = (bound + 1) * throttle.interval := by rw [Nat.add_mul, Nat.one_mul]
  exact Nat.le_of_lt_succ (Nat.lt_of_mul_lt_mul_right hshort)

/-- Assumes: no repaint so far. The throttle keeps to a number of repaints in a second where, and
only where, as many intervals fill it. -/
theorem Throttle.keepsTo_iff (hfirst : throttle.last = none) (bound : Nat) :
    throttle.KeepsTo bound ↔ oneSecond ≤ bound * throttle.interval := by
  refine ⟨fun hkeeps ↦ ?_, Throttle.keepsTo_of_le⟩
  by_contra hshort
  -- one repaint more, each as soon as it is due
  set times := List.range' 0 (bound + 1) throttle.interval
  have hallows : throttle.Allows times :=
    Throttle.allows_range' (Throttle.isDue_of_first hfirst 0) _
  have hwithin : ∀ time ∈ times, 0 ≤ time ∧ time < 0 + oneSecond := by
    intro time hmem
    obtain ⟨count, hcount, rfl⟩ := List.mem_range'.mp hmem
    have hlast : throttle.interval * count ≤ bound * throttle.interval := by
      rw [Nat.mul_comm bound]
      exact Nat.mul_le_mul_left _ (Nat.le_of_lt_succ hcount)
    refine ⟨Nat.zero_le _, ?_⟩
    rw [Nat.zero_add, Nat.zero_add]
    exact Nat.lt_of_le_of_lt hlast (Nat.lt_of_not_le hshort)
  have hcount := hkeeps times (List.pairwise_le_range' _) hallows 0
  rw [List.filter_eq_self.mpr fun time hmem ↦ decide_eq_true (hwithin time hmem),
    List.length_range'] at hcount
  exact Nat.not_succ_le_self bound hcount

end Rates

/-! ### The rate of a throttle -/

theorem Throttle.interval_perSecond (count : Nat) :
    (Throttle.perSecond count).interval = oneSecond / count := by
  unfold Throttle.perSecond
  split_ifs with hnone
  · rw [hnone, Nat.div_zero]
  · rfl

/-- The throttle of a number of repaints in a second keeps to it where, and only where, the number
divides the second. In general it keeps to those numbers of repaints that fill a second with its
intervals. As long as the number is not beyond the square root of a second, no more than one
repaint exceeds it. -/
theorem Throttle.keeps_rate_iff (count : Nat) :
    ((Throttle.perSecond count).KeepsTo count ↔ count ∣ oneSecond) ∧
    (∀ bound, (Throttle.perSecond count).KeepsTo bound ↔
      oneSecond ≤ bound * (Throttle.perSecond count).interval) ∧
    (0 < count → count * count ≤ oneSecond → (Throttle.perSecond count).KeepsTo (count + 1)) := by
  have hkeeps : ∀ bound, (Throttle.perSecond count).KeepsTo bound ↔
      oneSecond ≤ bound * (Throttle.perSecond count).interval := Throttle.keepsTo_iff rfl
  refine ⟨?_, hkeeps, ?_⟩
  · rw [hkeeps, Throttle.interval_perSecond, Nat.dvd_iff_div_mul_eq, Nat.mul_comm count]
    exact ⟨Nat.le_antisymm (Nat.div_mul_le_self _ _), fun h ↦ Nat.le_of_eq h.symm⟩
  · intro hpositive hroot
    -- what the division leaves is less than the number, and so less than an interval
    have hinterval : count ≤ oneSecond / count := (Nat.le_div_iff_mul_le hpositive).mpr hroot
    have hrest : oneSecond % count ≤ oneSecond / count :=
      Nat.le_trans (Nat.le_of_lt (Nat.mod_lt _ hpositive)) hinterval
    rw [hkeeps, Throttle.interval_perSecond]
    calc oneSecond
      _ = count * (oneSecond / count) + oneSecond % count := (Nat.div_add_mod _ _).symm
      _ ≤ count * (oneSecond / count) + oneSecond / count := Nat.add_le_add_left hrest _
      _ = (count + 1) * (oneSecond / count) := by rw [Nat.add_mul, Nat.one_mul]

/-- Four repaints in a second are kept to, and the throttle of three lets four of them come. -/
theorem Throttle.keeps_rate_iff_four :
    (4 ∣ oneSecond ∧ (Throttle.perSecond 4).KeepsTo 4) ∧
      0 < 3 ∧ 3 * 3 ≤ oneSecond ∧ (Throttle.perSecond 3).KeepsTo (3 + 1) := by
  have hdivides : 4 ∣ oneSecond := by decide
  have hroot : 3 * 3 ≤ oneSecond := by decide
  exact ⟨⟨hdivides, (Throttle.keeps_rate_iff 4).1.mpr hdivides⟩, by decide, hroot,
    (Throttle.keeps_rate_iff 3).2.2 (by decide) hroot⟩

/-- The throttle of three repaints in a second allows four of them within one: three intervals,
each rounded down, are a nanosecond short of it. -/
theorem Throttle.fourth_repaint_of_three :
    let times : List Instant := [0, 333333333, 666666666, 999999999]
    times.Pairwise (· ≤ ·) ∧ (Throttle.perSecond 3).Allows times ∧
      (times.filter fun time ↦ 0 ≤ time ∧ time < 0 + oneSecond).length = 4 := by
  decide

end LiveBoard.Display
