/-!
# Time

Durations and instants are natural numbers of nanoseconds, instants counted from an origin that is
left open. A duration is at most `longestDuration`, and operations that could exceed it stay there.
`durationText` writes a duration in its largest whole unit, as log lines and messages show it.
-/

set_option autoImplicit false
set_option relaxedAutoImplicit false

namespace LiveBoard

/-- A length of time in nanoseconds. -/
abbrev Duration := Nat

/-- A point in time, in nanoseconds after an origin. -/
abbrev Instant := Nat

/-- One second. -/
def oneSecond : Duration := 1000000000

/-- One millisecond. -/
def oneMillisecond : Duration := 1000000

/-- An early reading of a clock: its origin lies a minute back, so that no clock reads zero. -/
def firstReading : Instant := 60 * oneSecond

/-- The longest duration: its seconds are counted in 64 bits. -/
def longestDuration : Duration := Nat.pow 2 64 * oneSecond - 1

/-- A number of milliseconds. -/
def milliseconds (count : Nat) : Duration := count * oneMillisecond

/-- The multiple of a duration, at most the longest duration. -/
def saturatedMultiple (duration : Duration) (factor : Nat) : Duration :=
  min (duration * factor) longestDuration

/-- What is left of a time after something took a part of it. Everything takes at least a
nanosecond, so that a wait that goes on comes to its end. -/
def timeLeft (remaining elapsed : Duration) : Duration := remaining - max 1 elapsed

theorem timeLeft_lt {remaining : Duration} (h : remaining ≠ 0) (elapsed : Duration) :
    timeLeft remaining elapsed < remaining :=
  Nat.sub_lt (Nat.pos_of_ne_zero h) (Nat.lt_of_lt_of_le Nat.one_pos (Nat.le_max_left 1 elapsed))

/-- The decimal digits of a fraction `part / scale` below one, where `scale` is a power of ten with
`places` zeros, without trailing zeros. -/
def fractionDigits (part places : Nat) : List Char :=
  let digits := Nat.toDigits 10 part
  let padded := List.replicate (places - digits.length) '0' ++ digits
  (padded.reverse.dropWhile (· == '0')).reverse

/-- A number of units with its fraction, `10 ^ places` of which make one unit. -/
def decimalText (amount places : Nat) : String :=
  let scale := Nat.pow 10 places
  let fraction := if amount % scale = 0 then [] else '.' :: fractionDigits (amount % scale) places
  String.ofList (Nat.toDigits 10 (amount / scale) ++ fraction)

/-- The text of a duration in seconds, milliseconds, microseconds or nanoseconds, whichever is the
largest unit that it fills. -/
def durationText (duration : Duration) : String :=
  if oneSecond ≤ duration then decimalText duration 9 ++ "s"
  else if oneMillisecond ≤ duration then decimalText duration 6 ++ "ms"
  else if 1000 ≤ duration then decimalText duration 3 ++ "µs"
  else decimalText duration 0 ++ "ns"

end LiveBoard
