import LiveBoard.Text.Utf8

/-!
# Control sequences

A text for a terminal holds, beside what it says, control characters and the sequences that an
escape character starts. `plain` is the text that is left where nothing interprets them: it drops
them all, and keeps white space. `plainOutput` is what is left where the text is written to an
output that is no terminal. The two differ in white space within a sequence: it ends the sequence in
`plain`, and in `plainOutput` it only puts it off, so that a control character further on takes the
sequence up again.

A text may end within a sequence, and then what follows is read as a part of it: `plain` of a whole
text is not put together from `plain` of its parts.
-/

set_option autoImplicit false
set_option relaxedAutoImplicit false

namespace LiveBoard.Text

/-- The control sequence that is being read. -/
inductive ControlState
  /-- None: characters stand for themselves. -/
  | ground
  /-- Something that an escape character starts. -/
  | escape
  /-- An escape character with characters that lead to a final one. -/
  | escapeLead
  /-- A sequence with parameters, up to its final character. -/
  | parameters
  /-- A command to the operating system, up to a bell. -/
  | command
  /-- A device control string, before its first character. -/
  | deviceStart
  /-- The parameters of a device control string. -/
  | deviceParameters
  /-- The characters of a device control string that lead to its final one. -/
  | deviceLead
  /-- A string, up to its terminator. -/
  | controlString
  deriving DecidableEq, Repr

/-- The control characters that are kept: those that are white space. -/
def isSpacing (c : Char) : Bool := c == '\t' || c == '\n' || c == '\x0c' || c == '\r'

/-- Whether a character is a control character of ASCII. -/
def isControl (c : Char) : Bool := c.toNat < 0x20 || c.toNat = 0x7F

/-- Whether the code of a character lies in a range. -/
def liesIn (c : Char) (first last : Nat) : Bool := first ≤ c.toNat && c.toNat ≤ last

/-- Whether the encoding of a character holds the byte that ends a string, 9C. -/
def holdsTerminator (c : Char) : Bool := (encodeChar c).contains 0x9C

/-- The state after a character within a sequence that other control characters, white space among
them, do not belong to: white space ends it, and the others are passed over. -/
def ControlState.interrupted (state : ControlState) (c : Char) : ControlState :=
  if isSpacing c then .ground else state

/-- What a character after an escape character starts. -/
def ControlState.started (c : Char) : ControlState :=
  match c with
  | '[' => .parameters
  | ']' => .command
  | 'P' => .deviceStart
  | 'X' => .controlString
  | '^' => .controlString
  | '_' => .controlString
  | _ => if liesIn c 0x20 0x2F then .escapeLead else if liesIn c 0x30 0x7E then .ground else .escape

/-- The state after a character that neither starts a sequence nor breaks one off. -/
def ControlState.after (state : ControlState) (c : Char) : ControlState :=
  match state with
  | .ground => .ground
  | .escape => if isControl c then state.interrupted c else .started c
  | .escapeLead =>
    if isControl c then state.interrupted c else if liesIn c 0x30 0x7E then .ground else state
  | .parameters =>
    if isControl c then state.interrupted c else if liesIn c 0x40 0x7E then .ground else state
  | .command => if c = '\x07' then .ground else state
  | .deviceStart =>
    if liesIn c 0x20 0x2F then .deviceLead
    else if liesIn c 0x30 0x3F then .deviceParameters
    else if liesIn c 0x40 0x7E then .controlString
    else state
  | .deviceParameters =>
    if liesIn c 0x20 0x2F then .deviceLead
    else if liesIn c 0x3C 0x7E then .controlString
    else state
  | .deviceLead => if liesIn c 0x30 0x7E then .controlString else state
  | .controlString => if holdsTerminator c then .ground else state

/-- The state after a character. An escape character starts a sequence in every state, and CAN and
SUB break off every sequence. -/
def ControlState.next (state : ControlState) (c : Char) : ControlState :=
  if c = '\x1b' then .escape
  else if c = '\x18' || c = '\x1a' then .ground
  else state.after c

/-- Whether a character is a part of the plain text: where no sequence is being read, all but the
control characters that are no white space; and the white space that ends a sequence. -/
def ControlState.shows (state : ControlState) (c : Char) : Bool :=
  match state with
  | .ground => isSpacing c || !isControl c
  | .escape => isSpacing c
  | .escapeLead => isSpacing c
  | .parameters => isSpacing c
  | _ => false

/-- The plain text of a text that goes on from a state. -/
def plainFrom : ControlState → List Char → List Char
  | _, [] => []
  | state, c :: rest =>
    let tail := plainFrom (state.next c) rest
    if state.shows c then c :: tail else tail

/-- A text without its control sequences. -/
def plain (text : List Char) : List Char := plainFrom .ground text

/-! ### Outputs -/

/-- How far a text is written to an output. -/
structure OutputState where
  /-- The sequence that is being read or is put off. -/
  sequence : ControlState
  /-- Whether it is put off. Characters stand for themselves until it is taken up again. -/
  putsOff : Bool
  deriving DecidableEq, Repr

/-- Nothing is written. -/
def OutputState.start : OutputState := ⟨.ground, false⟩

/-- Whether a character starts a sequence or breaks one off, in every state. -/
def isSequenceBreak (c : Char) : Bool := c == '\x1b' || c == '\x18' || c == '\x1a'

/-- The state after a character. White space puts a sequence off, up to the next other control
character, which belongs to the sequence; a character outside of ASCII gives it up. -/
def OutputState.next (output : OutputState) (c : Char) : OutputState :=
  let sequence := output.sequence
  if output.putsOff && !isSequenceBreak c then
    if 128 ≤ c.toNat then .start else ⟨sequence, isSpacing c || !isControl c⟩
  else if sequence ≠ .ground && sequence.shows c then ⟨sequence, true⟩
  else ⟨sequence.next c, false⟩

/-- Whether a character comes to the output. -/
def OutputState.shows (output : OutputState) (c : Char) : Bool :=
  if output.putsOff then ControlState.ground.shows c else output.sequence.shows c

/-- What comes to an output of a text that goes on from a state. -/
def outputFrom : OutputState → List Char → List Char
  | _, [] => []
  | output, c :: rest =>
    let tail := outputFrom (output.next c) rest
    if output.shows c then c :: tail else tail

/-- What comes to an output of a text. -/
def plainOutput (text : List Char) : List Char := outputFrom .start text

end LiveBoard.Text
