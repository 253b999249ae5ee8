import LiveBoard.Settings
import LiveBoard.Text.Similarity

/-!
# Arguments

The program takes one option, the address of the broker, and answers to the flags for help and
version. Arguments are read from left to right. A value given after `--broker` is settled only when
the next flag or the end is reached, and a fault found on the way ends the reading.

Everything that keeps the program from running is a `Refusal`, the two requests for information
among them.
-/

set_option autoImplicit false
set_option relaxedAutoImplicit false

namespace LiveBoard.CommandLine

open Broker

/-- The flags that the program knows. -/
inductive Flag
  | broker
  | help
  | version
  deriving DecidableEq, Repr

/-- All flags. -/
def Flag.all : List Flag := [.broker, .help, .version]

/-- The long name of a flag. -/
def Flag.name : Flag → String
  | .broker => "broker"
  | .help => "help"
  | .version => "version"

/-- The flag of a long name. -/
def Flag.named? (name : List Char) : Option Flag := Flag.all.find? fun flag ↦
  flag.name.toList == name

/-- Why the program does not run. -/
inductive Refusal
  /-- Help is asked for. -/
  | help
  /-- The version is asked for. -/
  | version
  /-- The value of `--broker` is missing. -/
  | missingValue
  /-- The value of `--broker` is no address. -/
  | invalidValue (value : List Char) (error : AddressError)
  /-- `--broker` is given more than once. -/
  | repeatedBroker
  /-- An argument is not known. A flag may be similar to it, and flags were used before. -/
  | unknown (argument : List Char) (similar : Option Flag) (used : List Flag)
  /-- A flag that takes no value is given one, after other flags. -/
  | unneededValue (flag : Flag) (value : List Char) (used : List Flag)
  deriving DecidableEq, Repr

/-! ### Reading -/

/-- What was read so far. -/
structure Reading where
  /-- The value of `--broker` that was settled. -/
  broker : Option (List Char)
  /-- Whether `--broker` is still to be settled, and the value it has got since. -/
  pending : Option (Option (List Char))
  /-- Whether `--` was read, after which nothing is a flag. -/
  trailing : Bool
  deriving DecidableEq, Repr

/-- Nothing was read. -/
def Reading.start : Reading := ⟨none, none, false⟩

/-- Settles a value of `--broker`, with the refusal that this leads to. A value is needed, there
must not be another, and it has to be an address, in this order; a repetition drops both. -/
def Reading.give (reading : Reading) : Option (List Char) → Option Refusal × Reading
  | none => (some .missingValue, reading)
  | some value =>
    if reading.broker.isSome then (some .repeatedBroker, { reading with broker := none })
    else
      let given := { reading with broker := some value }
      match Address.parse value with
      | .ok _ => (none, given)
      | .error error => (some (.invalidValue value error), given)

/-- Settles what is pending. -/
def Reading.settle (reading : Reading) : Option Refusal × Reading :=
  match reading.pending with
  | some value => { reading with pending := none }.give value
  | none => (none, reading)

/-- Settles what is pending, or else refuses. -/
def Reading.settled (reading : Reading) : Except Refusal Reading :=
  match reading.settle with
  | (some refusal, _) => .error refusal
  | (none, settled) => .ok settled

/-- The flags that were settled. -/
def Reading.used (reading : Reading) : List Flag :=
  if reading.broker.isSome then [.broker] else []

/-- The similarity that a flag needs to be suggested. -/
def similarEnough : Float := 0.7

/-- The flag that is most similar to a name, the last of several, if one is similar enough. -/
def similarFlag? (name : List Char) : Option Flag :=
  let likeness (flag : Flag) : Float := Text.similarity name flag.name.toList
  (Flag.all.filter fun flag ↦ similarEnough < likeness flag).foldl
    (fun best flag ↦
      if best.all fun other ↦ !decide (likeness flag < likeness other) then some flag else best)
    none

/-- The refusal of a long flag that is not known. A similar flag counts as used. -/
def Reading.unknownLong (reading : Reading) (name : List Char) : Refusal :=
  let used := reading.settle.2.used
  let similar := similarFlag? name
  .unknown ('-' :: '-' :: name) similar (used ++ similar.toList.filter (· ∉ used))

/-- What a flag without a value asks for. -/
def Flag.request : Flag → Refusal
  | .version => .version
  | _ => .help

/-- Reads a long flag. -/
def Reading.readLong (reading : Reading) (text : List Char) : Except Refusal Reading :=
  let name := text.takeWhile (· != '=')
  let attached := (text.dropWhile (· != '=')).tail?
  match Flag.named? name, attached with
  | none, _ => .error (reading.unknownLong name)
  | some .broker, none => do return { ← reading.settled with pending := some none }
  | some .broker, some value => do
    match (← reading.settled).give (some value) with
    | (some refusal, _) => throw refusal
    | (none, given) => return given
  | some flag, some value => .error (.unneededValue flag value reading.used)
  | some flag, none => do
    let _ ← reading.settled
    throw flag.request

/-- Reads short flags, of which the first one decides. -/
def Reading.readShort (reading : Reading) (first : Char) : Except Refusal Reading := do
  match first with
  | 'h' =>
    let _ ← reading.settled
    throw .help
  | 'V' =>
    let _ ← reading.settled
    throw .version
  | c => throw (.unknown ['-', c] none [])

/-- Reads an argument that is no flag: the value that `--broker` waits for. -/
def Reading.readPlain (reading : Reading) (argument : List Char) : Except Refusal Reading :=
  if !reading.trailing && reading.pending == some none then
    .ok { reading with pending := some (some argument) }
  else .error (.unknown argument none [])

/-- Reads an argument. -/
def Reading.read (reading : Reading) (argument : List Char) : Except Refusal Reading :=
  if reading.trailing then reading.readPlain argument
  else
    match argument with
    | ['-', '-'] => .ok { reading with trailing := true }
    | '-' :: '-' :: rest => reading.readLong rest
    | '-' :: first :: _ => reading.readShort first
    | _ => reading.readPlain argument

/-- The address that arguments give, the usual one where they give none. -/
def readArguments (arguments : List (List Char)) : Except Refusal Address := do
  let reading ← arguments.foldlM Reading.read .start
  match (← reading.settled).broker with
  | none => return .standard
  | some value => (Address.parse value).mapError (.invalidValue value)

/-- The settings that arguments give. -/
def readSettings (arguments : List (List Char)) : Except Refusal Settings :=
  (readArguments arguments).map fun broker ↦ { Settings.standard with broker := broker }

/-! ### Outcome -/

/-- Whether a refusal answers a request, and so is no error. -/
def Refusal.isAnswer : Refusal → Bool
  | .help => true
  | .version => true
  | _ => false

/-- The exit code of a refusal. -/
def Refusal.exitCode (refusal : Refusal) : Nat := if refusal.isAnswer then 0 else 2

end LiveBoard.CommandLine
