import LiveBoard.CommandLine.Arguments
import LiveBoard.Text.ControlSequences

/-!
# Wording

What is said about the arguments. The texts are made for a terminal, with styles. `message` is such
a text without them, and `printed` is what is written of it to an output that is no terminal. An
argument that is quoted may hold control sequences of its own: they are dropped as well, and one
that is not finished lasts up to the next style.
-/

set_option autoImplicit false
set_option relaxedAutoImplicit false

namespace LiveBoard.CommandLine

/-! ### Styles -/

/-- What a part of a text is, as its style on a terminal tells. -/
inductive Emphasis
  /-- The sign of an error. -/
  | error
  /-- A heading. -/
  | heading
  /-- Something to be typed as it stands. -/
  | literal
  /-- Something that was refused. -/
  | refused
  /-- Something that is proposed. -/
  | proposed
  deriving DecidableEq, Repr

/-- What switches a style on. -/
def Emphasis.start : Emphasis → String
  | .error => "\x1b[1m\x1b[31m"
  | .heading => "\x1b[1m\x1b[4m"
  | .literal => "\x1b[1m"
  | .refused => "\x1b[33m"
  | .proposed => "\x1b[32m"

/-- What switches every style off. -/
def emphasisEnd : String := "\x1b[0m"

/-- A text in a style. -/
def Emphasis.around (emphasis : Emphasis) (text : String) : String :=
  emphasis.start ++ text ++ emphasisEnd

/-- A text in a style, in single quotes. -/
def Emphasis.quoted (emphasis : Emphasis) (text : String) : String :=
  "'" ++ emphasis.around text ++ "'"

/-! ### Names -/

/-- The name of the program. -/
def programName : String := "chessboard-live"

/-- The version of the program. -/
def programVersion : String := "0.1.0"

/-- The name under which the program was called: the last part of its path, if that names a file. -/
def calledName (path : Option (List Char)) : String :=
  let parts := ((path.getD []).splitOn '/').filter fun part ↦ !part.isEmpty && part != ['.']
  match parts.getLast? with
  | some part => if part = ['.', '.'] then programName else String.ofList part
  | none => programName

/-- A flag with two hyphens. -/
def Flag.long (flag : Flag) : String := "--" ++ flag.name

/-- A flag as usage lines show it, with its value. -/
def Flag.usage (flag : Flag) : String :=
  match flag with
  | .broker => Emphasis.literal.around flag.long ++ " <ADDRESS>"
  | _ => Emphasis.literal.around flag.long

/-- A flag that was given, as the usage of another one shows it. -/
def Flag.usageBeside (flag : Flag) : String := "<" ++ flag.usage ++ ">"

/-- A flag with its value, in single quotes. -/
def Flag.quoted : Flag → String
  | .broker => Emphasis.literal.quoted (Flag.long .broker ++ " <ADDRESS>")
  | flag => Emphasis.literal.quoted flag.long

/-! ### Texts -/

/-- A usage line with some parts, or with what stands for all flags. -/
def usageLine (name : String) (parts : List String) : String :=
  " ".intercalate
    (Emphasis.heading.around "Usage:" :: Emphasis.literal.around name ::
      if parts.isEmpty then ["[OPTIONS]"] else parts)

/-- A line of the help text for a flag, up to what it is for. -/
def flagLine (short : String) (flag : Flag) (value : String) (gap : Nat) : String :=
  "  " ++ short ++ Emphasis.literal.around flag.long ++ value ++
    String.ofList (List.replicate gap ' ')

/-- The help text. -/
def helpText (name : String) : String :=
  "Live terminal view of a chessboard streamed over MQTT\n\n" ++ usageLine name [] ++ "\n\n" ++
    Emphasis.heading.around "Options:" ++ "\n" ++
    flagLine "    " .broker " <ADDRESS>" 2 ++
    "MQTT broker address, `host` or `host:port` [default: localhost]\n" ++
    flagLine (Emphasis.literal.around "-h" ++ ", ") .help "" 14 ++ "Print help\n" ++
    flagLine (Emphasis.literal.around "-V" ++ ", ") .version "" 11 ++ "Print version\n"

/-- The text of an error, with some parts of a usage line or without one. -/
def errorText (fault : String) (usage : Option String) : String :=
  Emphasis.error.around "error:" ++ " " ++ fault ++
    (match usage with
      | some line => "\n\n" ++ line
      | none => "") ++
    "\n\nFor more information, try " ++ Emphasis.literal.quoted "--help" ++ ".\n"

/-- The hint at a similar flag. -/
def similarHint : Option Flag → String
  | some flag =>
    "\n\n  " ++ Emphasis.proposed.around "tip:" ++ " a similar argument exists: " ++
      Emphasis.proposed.quoted flag.long
  | none => ""

/-- The text of a refusal on a terminal, for a program called by a name. -/
def Refusal.terminalText (name : String) : Refusal → String
  | .help => helpText name
  | .version => s!"{programName} {programVersion}\n"
  | .missingValue =>
    errorText s!"a value is required for {Flag.broker.quoted} but none was supplied" none
  | .invalidValue value error =>
    let quotedValue := Emphasis.refused.quoted (String.ofList value)
    errorText s!"invalid value {quotedValue} for {Flag.broker.quoted}: {error.message}" none
  | .repeatedBroker =>
    errorText s!"the argument {Flag.broker.quoted} cannot be used multiple times"
      (some (usageLine name []))
  | .unknown argument similar used =>
    let quotedArgument := Emphasis.refused.quoted (String.ofList argument)
    errorText (s!"unexpected argument {quotedArgument} found" ++ similarHint similar)
      (some (usageLine name (used.map Flag.usage)))
  | .unneededValue flag value used =>
    let quotedValue := Emphasis.refused.quoted (String.ofList value)
    errorText
      s!"unexpected value {quotedValue} for {flag.quoted} found; no more were expected"
      (some (usageLine name (flag.usage :: used.map Flag.usageBeside)))

/-- The text of a refusal for a program called by a name. -/
def Refusal.message (name : String) (refusal : Refusal) : String :=
  String.ofList (Text.plain (refusal.terminalText name).toList)

/-- What is written about a refusal for a program called by a name. -/
def Refusal.printed (name : String) (refusal : Refusal) : String :=
  String.ofList (Text.plainOutput (refusal.terminalText name).toList)

end LiveBoard.CommandLine
