import LiveBoard.Log.Event

/-!
# Log lines

A log line shows the time in UTC, to the microsecond, the level, the thread and the event. Days are
turned into dates by counting from the first of March of the year zero, so that the day added in a
leap year comes last.
-/

set_option autoImplicit false
set_option relaxedAutoImplicit false

namespace LiveBoard.Log

/-- A day of the calendar. -/
structure CalendarDay where
  year : Nat
  month : Nat
  day : Nat
  deriving DecidableEq, Repr

/-- The days of four hundred years. -/
def daysOfEra : Nat := 146097

/-- The number of days from the first of March of the year zero to the first day of 1970. -/
def daysBeforeEpoch : Nat := 719468

/-- The day that comes a number of days after the first day of 1970. -/
def CalendarDay.ofEpochDay (count : Nat) : CalendarDay :=
  let days := count + daysBeforeEpoch
  let inEra := days % daysOfEra
  let yearOfEra := (inEra - inEra / 1460 + inEra / 36524 - inEra / 146096) / 365
  let inYear := inEra - (365 * yearOfEra + yearOfEra / 4 - yearOfEra / 100)
  let marchMonth := (5 * inYear + 2) / 153
  let month := if marchMonth < 10 then marchMonth + 3 else marchMonth - 9
  let year := yearOfEra + 400 * (days / daysOfEra) + if month ≤ 2 then 1 else 0
  ⟨year, month, inYear - (153 * marchMonth + 2) / 5 + 1⟩

/-- A number with zeros in front, of at least a number of digits. -/
def padded (places number : Nat) : String :=
  let digits := Nat.toDigits 10 number
  String.ofList (List.replicate (places - digits.length) '0' ++ digits)

/-- The text of the time that is a number of microseconds after the start of 1970. -/
def stamp (microseconds : Nat) : String :=
  let seconds := microseconds / 1000000
  let day := CalendarDay.ofEpochDay (seconds / 86400)
  let date := s!"{padded 4 day.year}-{padded 2 day.month}-{padded 2 day.day}"
  let hour := padded 2 (seconds / 3600 % 24)
  let minute := padded 2 (seconds / 60 % 60)
  s!"{date}T{hour}:{minute}:{padded 2 (seconds % 60)}.{padded 6 (microseconds % 1000000)}Z"

example : stamp 951782399999999 = "2000-02-28T23:59:59.999999Z" := by decide +kernel

example : stamp 951868800000000 = "2000-03-01T00:00:00.000000Z" := by decide +kernel

/-- The width of the longest level name. -/
def levelWidth : Nat := 5

/-- The log line of an event of a thread, at a time in microseconds after the start of 1970. -/
def Event.line (event : Event) (thread : String) (microseconds : Nat) : String :=
  let level := "".pushn ' ' (levelWidth - event.level.name.length) ++ event.level.name
  s!"{stamp microseconds} {level} {thread}: {event.text}\n"

end LiveBoard.Log
