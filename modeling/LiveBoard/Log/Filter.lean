import LiveBoard.Log.Event
import LiveBoard.Log.Pattern
import LiveBoard.Text.Decimal
import LiveBoard.Text.Letters
import LiveBoard.Text.Slice
import LiveBoard.Text.WhiteSpace

/-!
# Log filters

A filter is a list of directives, separated by commas. A directive is a level, or a target with a
level, or a target alone, which stands for all levels; it may name a span in brackets and, in braces
within these, fields. It applies to the events whose target starts with its own and which carry the
fields it names, and the most specific directive that applies to an event decides whether it is let
through. An event that none applies to is not.

The events of this library belong to no span, so a directive that names one lets nothing through,
and neither does one that asks for the value of a field. Such a value has to be a number or a
pattern all the same: a filter with a part that cannot be read is none, and the usual one is used.
-/

set_option autoImplicit false
set_option relaxedAutoImplicit false

namespace LiveBoard.Log

/-- The least grave level that is let through, none where nothing is. -/
abbrev Threshold := Option Level

/-- Whether a level is let through. -/
def passes (threshold : Threshold) (level : Level) : Bool :=
  threshold.any fun least ↦ level.rank ≤ least.rank

/-- The thresholds with their names, in the order of their numbers. -/
def namedThresholds : List (String × Threshold) :=
  [ ("off", none)
  , ("error", some .error)
  , ("warn", some .warn)
  , ("info", some .info)
  , ("debug", some .debug)
  , ("trace", some .trace) ]

/-- Reads a threshold: its number, or its name in letters of either case. -/
def readThreshold? (text : List Char) : Option Threshold :=
  let numbered := (Text.unsigned? text).bind fun number ↦ namedThresholds[number]?
  let named := namedThresholds.find? fun (name, _) ↦ name.toList == text.map Char.toLower
  (numbered <|> named).map (·.2)

/-- Reads a threshold, where nothing stands for all levels. -/
def readThresholdD? (text : List Char) : Option Threshold :=
  if text.isEmpty then some (some .trace) else readThreshold? text

/-! ### Directives -/

/-- A field that a directive asks for. -/
structure FieldMatch where
  /-- Its name. -/
  name : List Char
  /-- Whether its value is asked for, too. -/
  asksValue : Bool
  deriving DecidableEq, Repr

/-- Whether a text is a value that can be asked for: a number with a plus sign in front, or a
pattern, as all other numbers are. -/
def isFieldValue : List Char → Bool
  | '+' :: rest => Text.isUnsignedReal rest
  | text => Pattern.isPattern text

/-- Reads a field. Its value is what stands between an equals sign and another one, or the end. -/
def FieldMatch.read? (text : List Char) : Option FieldMatch :=
  let name := text.takeWhile (· != '=')
  match text.dropWhile (· != '=') with
  | [] => some ⟨name, false⟩
  | _ :: rest => if isFieldValue (rest.takeWhile (· != '=')) then some ⟨name, true⟩ else none

/-- A directive. -/
structure Directive where
  /-- What the targets of events have to start with. -/
  target : Option (List Char)
  /-- Whether it names a span. -/
  namesSpan : Bool
  /-- The fields it asks for. -/
  fields : List FieldMatch
  /-- What it lets through. -/
  threshold : Threshold
  deriving DecidableEq, Repr

/-- The directive that lets every event through. -/
def Directive.all : Directive := ⟨none, false, [], some .trace⟩

/-- The part of a directive that is being read; parts that go on have a start. -/
inductive DirectivePart
  /-- Nothing was read. -/
  | start
  /-- A level or a target. -/
  | levelOrTarget (start : Nat)
  /-- The name of a span. -/
  | span (start : Nat)
  /-- A field. -/
  | field (start : Nat)
  /-- The end of the span, after its fields. -/
  | spanEnd
  /-- The level sign, after a span. -/
  | levelSign
  /-- A level. -/
  | level (start : Nat)
  deriving DecidableEq, Repr

/-- Why a filter cannot be read. -/
inductive FilterFault
  /-- It is none. -/
  | unreadable
  /-- A part of it was to be cut out within a character. -/
  | missedCut (cut : Text.MissedCut)
  deriving DecidableEq, Repr

/-- The part of a text between two places. -/
def part (text : List Char) (start stop : Nat) : Except FilterFault (List Char) :=
  (Text.slice text start stop).mapError .missedCut

/-- The part of a text from a place on. -/
def lastPart (text : List Char) (start : Nat) : Except FilterFault (List Char) :=
  (Text.suffix text start).mapError .missedCut

/-- What was read, if anything. -/
def readOr {α : Type} (read : Option α) : Except FilterFault α :=
  match read with
  | some value => .ok value
  | none => .error .unreadable

/-- Whether a directive may start with a character. -/
def startsDirective (c : Char) : Bool :=
  Text.isLetterOrNumber c || c == '-' || c == ':' || c == '_'

/-- Reads one character of a directive, at a place that is counted in bytes. -/
def Directive.readChar (text : List Char) (reading : DirectivePart) (directive : Directive)
    (place : Nat) (c : Char) : Except FilterFault (DirectivePart × Directive) := do
  match reading with
  | .start =>
    if c = '[' then return (.span (place + 1), directive)
    else if startsDirective c then return (.levelOrTarget place, directive)
    else throw .unreadable
  | .levelOrTarget start =>
    if c = '=' then
      return (.level (place + 1), { directive with target := some (← part text start place) })
    else if c = '[' then
      return (.span (place + 1), { directive with target := some (← part text start place) })
    else return (reading, directive)
  | .span start =>
    if c = ']' then
      let _ ← part text start place
      return (.levelSign, { directive with namesSpan := true })
    else if c = '\x7b' then
      let name ← part text start place
      return (.field (place + 1), { directive with namesSpan := !name.isEmpty })
    else return (reading, directive)
  | .field start =>
    if c = '\x7d' then
      let field ← part text start place
      if field.isEmpty then throw .unreadable
      else
        let asked ← readOr (FieldMatch.read? field)
        return (.spanEnd, { directive with fields := directive.fields ++ [asked] })
    else return (reading, directive)
  | .spanEnd => if c = ']' then return (.levelSign, directive) else throw .unreadable
  | .levelSign => if c = '=' then return (.level (place + 1), directive) else throw .unreadable
  | .level _ => return (reading, directive)

/-- Reads the characters of a directive from a place on. -/
def Directive.readChars (text : List Char) :
    List Char → Nat → DirectivePart → Directive → Except FilterFault (DirectivePart × Directive)
  | [], _, reading, directive => .ok (reading, directive)
  | c :: rest, place, reading, directive =>
    match directive.readChar text reading place c with
    | .ok (reading, directive) =>
      Directive.readChars text rest (place + c.utf8Size) reading directive
    | .error fault => .error fault

/-- Reads a directive. White space around it is skipped, but the parts are cut out of the text as
it stands, so white space in front moves them. -/
def Directive.read (text : List Char) : Except FilterFault Directive := do
  match ← Directive.readChars text (Text.trim text) 0 .start .all with
  | (.levelOrTarget start, directive) =>
    let last ← lastPart text start
    match readThreshold? last with
    | some threshold => return { directive with threshold := threshold }
    | none => return { directive with target := some last }
  | (.level start, directive) =>
    let threshold ← readOr (readThresholdD? (← lastPart text start))
    return { directive with threshold := threshold }
  | (.levelSign, directive) => return directive
  | _ => throw .unreadable

/-! ### Filters -/

/-- Whether a directive says anything about events outside of spans. -/
def Directive.isStatic (directive : Directive) : Bool :=
  !directive.namesSpan && directive.fields.all (!·.asksValue)

/-- The names of the fields that a directive asks for. -/
def Directive.fieldNames (directive : Directive) : List (List Char) :=
  directive.fields.map (·.name)

/-- The names of what an event carries: its message and its values. -/
def Event.fieldNames (event : Event) : List (List Char) :=
  "message".toList :: event.fields.map fun (name, _) ↦ name.toList

/-- Whether a directive applies to an event. -/
def Directive.appliesTo (directive : Directive) (event : Event) : Bool :=
  directive.isStatic && directive.target.all (·.isPrefixOf event.target.toList) &&
    directive.fieldNames.all (event.fieldNames.contains ·)

/-- The length of the target of a directive, less for none than for an empty one. -/
def Directive.targetRank (directive : Directive) : Nat :=
  match directive.target with
  | some target => target.length + 1
  | none => 0

/-- Whether a directive is at least as specific as another: it has the longer target, or else the
more fields, or else the later ones in the order of their names. -/
def Directive.refines (directive other : Directive) : Bool :=
  if directive.targetRank ≠ other.targetRank then other.targetRank < directive.targetRank
  else if directive.fields.length ≠ other.fields.length then
    other.fields.length < directive.fields.length
  else !decide (directive.fieldNames < other.fieldNames)

/-- The most specific directive of a list, the last of several that are equally so. -/
def mostSpecific? (directives : List Directive) : Option Directive :=
  directives.foldl
    (fun best directive ↦
      if best.all directive.refines then some directive else best)
    none

/-- What is logged. -/
structure Filter where
  /-- Its directives. -/
  directives : List Directive
  deriving DecidableEq, Repr

/-- The filter that a text stands for. The first directive that cannot be read decides why it is
none. -/
def Filter.read (text : List Char) : Except FilterFault Filter := do
  let parts := (text.splitOn ',').filter (!·.isEmpty)
  return ⟨← parts.mapM Directive.read⟩

/-- The filter that is used where none can be read: what happens in normal use. -/
def Filter.standard : Filter := ⟨[{ Directive.all with threshold := some .info }]⟩

/-- The filter of a text, if there is one: a text that is no filter counts as none. -/
def Filter.ofText (text : Option (List Char)) : Except Text.MissedCut Filter :=
  match text.map Filter.read with
  | some (.ok filter) => .ok filter
  | some (.error (.missedCut cut)) => .error cut
  | some (.error .unreadable) => .ok .standard
  | none => .ok .standard

/-- Whether an event is let through. -/
def Filter.enables (filter : Filter) (event : Event) : Bool :=
  (mostSpecific? (filter.directives.filter (·.appliesTo event))).any fun directive ↦
    passes directive.threshold event.level

end LiveBoard.Log
