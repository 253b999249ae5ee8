import LiveBoard.Feed.Worker

/-!
# Scripted sources

A scripted source answers its polls one after the other from a list of turns and notes every call.
When the list is used up it cancels the run. A turn that repeats is answered again and again, and
noted once.
-/

set_option autoImplicit false
set_option relaxedAutoImplicit false

namespace LiveBoard.Feed

/-- One answer of a scripted source. -/
structure ScriptTurn where
  /-- The name under which the poll is noted. -/
  name : String
  /-- What the poll does. -/
  turn : Turn
  /-- Whether later polls get the same answer. -/
  repeats : Bool

/-- A call of a scripted source. -/
inductive SourceCall
  /-- It was connected. -/
  | connect
  /-- It was polled. -/
  | poll (name : String) (queued : Option Nat) (timeout : Duration)
  /-- It was closed. -/
  | close
  deriving DecidableEq, Repr

/-- A scripted source. -/
structure Script where
  /-- The result of connecting. -/
  connecting : Except FeedError Unit
  /-- The answers to the next polls. -/
  turns : List ScriptTurn
  /-- The calls so far. -/
  calls : Array SourceCall
  /-- Whether a repeated turn was reached. -/
  hanging : Bool

/-- The turn that does nothing but end in a given way. -/
def quietTurn (ending : PollEnd) : Turn := ⟨false, false, 0, ending, []⟩

/-- The answer of a source whose list is used up. -/
def lastTurn : ScriptTurn :=
  ⟨"end", { quietTurn (.returns (.ok none)) with cancels := true }, false⟩

/-- Notes a call. -/
def Script.note (script : Script) (call : SourceCall) : Script :=
  { script with calls := script.calls.push call }

/-- Answers a poll. -/
def Script.poll (script : Script) (context : PollContext) : Turn × Script :=
  match script.turns with
  | [] => (lastTurn.turn, script.note (.poll lastTurn.name context.queued context.timeout))
  | first :: rest =>
    let noted :=
      if script.hanging then script
      else script.note (.poll first.name context.queued context.timeout)
    (first.turn,
      if first.repeats then { noted with hanging := true } else { noted with turns := rest })

/-- Scripts as a kind of source. -/
def Script.source : Source Script where
  connect script _ := (⟨0, script.connecting, []⟩, script.note .connect)
  poll := Script.poll
  close script _ := (⟨0, (), []⟩, script.note .close)

end LiveBoard.Feed
