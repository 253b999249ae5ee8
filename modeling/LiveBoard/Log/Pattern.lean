import LiveBoard.Text.Letters
import LiveBoard.Text.Numeral
import LiveBoard.Text.WhiteSpace

/-!
# Patterns

The value that a directive asks a field for may be a pattern, in the notation of regular
expressions: alternatives, groups with or without a name, classes, repetitions, flags and escapes.
`isPattern` decides whether a text is one. Events are never asked for a value, so what a pattern
matches plays no part.

There are no tables of Unicode properties behind the notation. Without them no character is matched
regardless of case, and there are no borders of words and no classes of digits, of white space or of
word characters. The flag `u` may be switched off, and then there are those of ASCII, but nothing
may match a part of a character. A class may still be put together from nothing but other classes
and the signs between them: no character has to be known for that.

Patterns are built up in levels: repetitions, groups, alternatives, sequences and classes each stand
one level above what they consist of, and a pattern has at most `heightLimit` levels.
-/

set_option autoImplicit false
set_option relaxedAutoImplicit false

namespace LiveBoard.Log.Pattern

/-! ### Flags -/

/-- The flags that tell how a pattern is read. -/
structure Flags where
  /-- Letters stand for both cases. -/
  foldsCase : Bool
  /-- The pattern speaks of the characters of Unicode. -/
  unicode : Bool
  /-- White space and comments are skipped. -/
  spaced : Bool
  deriving DecidableEq, Repr

/-- The flags at the start of a pattern. -/
def Flags.standard : Flags := ⟨false, true, false⟩

/-- Whether there is no table for the cases of letters. -/
def Flags.lacksCases (flags : Flags) : Bool := flags.foldsCase && flags.unicode

/-- The letters of the flags, and the sign after which flags are switched off. -/
def flagLetters : List Char := "imsUuRx-".toList

/-- The flags after a change. No letter stands twice, and the sign is not the last. -/
def Flags.change? (flags : Flags) (letters : List Char) : Option Flags :=
  let on := letters.takeWhile (· != '-')
  let off := letters.dropWhile (· != '-')
  let changed (letter : Char) (flag : Bool) : Bool :=
    on.contains letter || flag && !off.contains letter
  if letters.all (flagLetters.contains ·) && letters.eraseDups == letters &&
      letters.getLast? != some '-' then
    some ⟨changed 'i' flags.foldsCase, changed 'u' flags.unicode, changed 'x' flags.spaced⟩
  else none

/-- A text without the white space and the comments at its start, where it may start within a
comment. -/
def skipSpace : Bool → List Char → List Char
  | _, [] => []
  | true, c :: rest => skipSpace (c != '\n') rest
  | false, c :: rest =>
    if Text.isWhiteSpace c then skipSpace false rest
    else if c = '#' then skipSpace true rest
    else c :: rest

/-- A text without what the flags skip at its start. -/
def Flags.skip (flags : Flags) (text : List Char) : List Char :=
  if flags.spaced then skipSpace false text else text

/-- The next character of a text, past white space and the sign of a comment where the flags skip
these. What stands in the comment is not skipped. -/
def Flags.peek (flags : Flags) (text : List Char) : Option Char :=
  if flags.spaced then
    match text.dropWhile Text.isWhiteSpace with
    | '#' :: rest => (rest.dropWhile Text.isWhiteSpace).head?
    | rest => rest.head?
  else text.head?

/-- The number of hyphens at the start of a text, past what the flags skip, and the text after
them. The text may start within a comment. -/
def Flags.countHyphens (flags : Flags) : Bool → List Char → Nat × List Char
  | _, [] => (0, [])
  | true, c :: rest => flags.countHyphens (c != '\n') rest
  | false, c :: rest =>
    if c = '-' then
      let (count, rest) := flags.countHyphens false rest
      (count + 1, rest)
    else if flags.spaced && Text.isWhiteSpace c then flags.countHyphens false rest
    else if flags.spaced && c == '#' then flags.countHyphens true rest
    else (0, c :: rest)

/-! ### Characters and escapes -/

/-- What a character or an escape stands for. -/
inductive Atom
  /-- A character, perhaps given as a byte. -/
  | literal (c : Char) (ofByte : Bool)
  /-- The start or the end of the text. -/
  | textBorder
  /-- A border of a word, or a place that is none. -/
  | wordBorder
  /-- The digits, the white space or the word characters, or all others. -/
  | kind (negated : Bool)
  deriving DecidableEq, Repr

/-- Whether an atom may stand outside of classes. -/
def Atom.fits (flags : Flags) : Atom → Bool
  | .literal c ofByte => !flags.lacksCases && (flags.unicode || !ofByte || c.toNat < 128)
  | .textBorder => true
  | .wordBorder => !flags.unicode
  | .kind negated => !flags.unicode && !negated

/-- Whether an atom may stand in a class. -/
def Atom.fitsClass (flags : Flags) : Atom → Bool
  | .literal c _ => !flags.lacksCases && (flags.unicode || c.toNat < 128)
  | .kind negated => !flags.unicode && !negated
  | _ => false

/-- Reads some hexadecimal digits, onto the value of those before. -/
def readCode? (flags : Flags) : Nat → Nat → List Char → Option (Nat × List Char)
  | 0, value, text => some (value, text)
  | count + 1, value, text =>
    match flags.skip text with
    | c :: rest => do
      let digit ← Text.digitValue? c
      readCode? flags count (value * 16 + digit) rest
    | [] => none

/-- Reads the character of some hexadecimal digits. -/
def readCodedChar? (flags : Flags) (count : Nat) (text : List Char) :
    Option (Atom × List Char) := do
  let (code, rest) ← readCode? flags count 0 text
  if Nat.isValidChar code then return (.literal (Char.ofNat code) (count == 2), rest) else none

/-- The control characters that a letter stands for after a backslash. -/
def controlOf? (letter : Char) : Option Char :=
  match letter with
  | 'a' => some '\x07'
  | 'f' => some '\x0c'
  | 'n' => some '\n'
  | 'r' => some '\r'
  | 't' => some '\t'
  | 'v' => some '\x0b'
  | _ => none

/-- Reads an escape after its backslash. All characters of ASCII that are no letters and no digits
stand for themselves, but for the two that are kept for borders of words. -/
def readEscape? (flags : Flags) : List Char → Option (Atom × List Char)
  | [] => none
  | c :: rest =>
    if c = 'x' then readCodedChar? flags 2 rest
    else if c = 'u' then readCodedChar? flags 4 rest
    else if c = 'U' then readCodedChar? flags 8 rest
    else if ['d', 's', 'w'].contains c then some (.kind false, rest)
    else if ['D', 'S', 'W'].contains c then some (.kind true, rest)
    else if ['A', 'z'].contains c then some (.textBorder, rest)
    else if ['b', 'B', '<', '>'].contains c then some (.wordBorder, rest)
    else if c.toNat < 128 && !c.isAlphanum then some (.literal c false, rest)
    else (controlOf? c).map fun control ↦ (.literal control false, rest)

/-- Reads a character or an escape. -/
def readAtom? (flags : Flags) : List Char → Option (Atom × List Char)
  | [] => none
  | '\\' :: rest => readEscape? flags rest
  | c :: rest => some (.literal c false, rest)

/-! ### Levels -/

/-- The most levels that a pattern may have. -/
def heightLimit : Nat := 250

/-- The height of what consists of parts of some heights: nothing has none, a single part keeps its
own, and several stand one level below. -/
def joinedHeight : List Nat → Nat
  | [] => 0
  | [height] => height
  | heights => heights.foldl max 0 + 1

/-- What was read of a group, or of the pattern outside of groups. -/
structure Group where
  /-- The flags that hold. -/
  flags : Flags
  /-- The heights of the alternatives that are complete. -/
  alternatives : List Nat
  /-- The heights of the items of the alternative that is being read, the last one first. A change
  of flags is an item without a height. -/
  items : List (Option Nat)
  deriving DecidableEq, Repr

/-- The height of the alternative that is being read. -/
def Group.itemsHeight (group : Group) : Nat := joinedHeight (group.items.map (·.getD 0))

/-- The height of what was read. -/
def Group.height (group : Group) : Nat := joinedHeight (group.itemsHeight :: group.alternatives)

/-- A group after another item. -/
def Group.add (group : Group) (item : Option Nat) : Group :=
  { group with items := item :: group.items }

/-- A group at the start of another alternative. -/
def Group.split (group : Group) : Group :=
  { group with alternatives := group.itemsHeight :: group.alternatives, items := [] }

/-- What was read of a class. -/
structure Members where
  /-- The height of what stands in front of the last sign between two sets. -/
  left : Option Nat
  /-- The heights of the members after it. -/
  heights : List Nat
  deriving DecidableEq, Repr

/-- The height of what was read. -/
def Members.height (members : Members) : Nat :=
  let right := joinedHeight members.heights
  match members.left with
  | some left => max left right + 1
  | none => right

/-- Members after some more of a height. -/
def Members.add (members : Members) (count height : Nat) : Members :=
  { members with heights := List.replicate count height ++ members.heights }

/-- Members after a sign between two sets. -/
def Members.cross (members : Members) : Members := ⟨some members.height, []⟩

/-! ### Reading -/

/-- What was read so far. -/
structure Reading where
  /-- The innermost group that is open. -/
  group : Group
  /-- The groups around it, the innermost first. -/
  outer : List Group
  /-- The names of groups. -/
  names : List (List Char)
  /-- The classes that are open, the innermost first. -/
  classes : List Members
  deriving DecidableEq, Repr

/-- Nothing was read. -/
def Reading.start : Reading := ⟨⟨.standard, [], []⟩, [], [], []⟩

/-- The flags that hold. -/
def Reading.flags (reading : Reading) : Flags := reading.group.flags

/-- Whether everything that was opened is closed and the limit is kept. -/
def Reading.isComplete (reading : Reading) : Bool :=
  reading.outer.isEmpty && reading.classes.isEmpty && reading.group.height ≤ heightLimit

/-- A reading with the text that is left. -/
abbrev Step := Option (Reading × List Char)

/-- After another item of a height. -/
def Reading.add (reading : Reading) (height : Nat) : Reading :=
  { reading with group := reading.group.add (some height) }

/-- At the start of a group, in which some flags hold. -/
def Reading.openGroup (reading : Reading) (flags : Flags) : Reading :=
  { reading with group := ⟨flags, [], []⟩, outer := reading.group :: reading.outer }

/-- Whether a group may have a name. -/
def isGroupName : List Char → Bool
  | [] => false
  | c :: rest =>
    (c == '_' || Text.isLetter c) &&
      rest.all fun d ↦ ['_', '.', '[', ']'].contains d || Text.isLetterOrNumber d

/-- Reads the name at the start of a group, which no other group has. -/
def Reading.readName? (reading : Reading) (text : List Char) : Step :=
  let name := text.takeWhile (· != '>')
  match text.dropWhile (· != '>') with
  | [] => none
  | _ :: rest =>
    if isGroupName name && !reading.names.contains name then
      some ({ reading.openGroup reading.flags with names := name :: reading.names }, rest)
    else none

/-- Reads the flags at the start of a group: after a colon the group follows, and otherwise they
hold up to the end of the group around them. -/
def Reading.readFlags? (reading : Reading) (text : List Char) : Step := do
  let goesOn (c : Char) : Bool := c != ':' && c != ')'
  let letters := text.takeWhile goesOn
  let flags ← reading.flags.change? letters
  match text.dropWhile goesOn with
  | ':' :: rest => return (reading.openGroup flags, rest)
  | _ :: rest =>
    if letters.isEmpty then none
    else return ({ reading with group := { reading.group.add none with flags := flags } }, rest)
  | [] => none

/-- Reads the start of a group after its parenthesis. -/
def Reading.readGroup? (reading : Reading) (text : List Char) : Step :=
  match reading.flags.skip text with
  | '?' :: 'P' :: '<' :: rest => reading.readName? rest
  | '?' :: '<' :: rest => reading.readName? rest
  | '?' :: rest => reading.readFlags? rest
  | rest => some (reading.openGroup reading.flags, rest)

/-- The end of a group. -/
def Reading.closeGroup? (reading : Reading) : Option Reading :=
  match reading.outer with
  | group :: outer =>
    some { reading with group := group.add (some (reading.group.height + 1)), outer := outer }
  | [] => none

/-- Reads the start of a class after its bracket. Hyphens in front and a bracket that is the first
member stand for themselves. -/
def Reading.openClass? (reading : Reading) (text : List Char) : Step :=
  let flags := reading.flags
  let opened (count : Nat) : Reading :=
    { reading with classes := ⟨none, List.replicate count 0⟩ :: reading.classes }
  let members (text : List Char) : Step :=
    match flags.countHyphens false text with
    | (0, ']' :: rest) => if flags.lacksCases then none else some (opened 1, rest)
    | (0, rest) => some (opened 0, rest)
    | (count, rest) => if flags.lacksCases then none else some (opened count, rest)
  match flags.skip text with
  | '^' :: rest => if flags.unicode then members rest else none
  | rest => members rest

/-- The end of a class, which is a member of the class around it or an item. -/
def Reading.closeClass (reading : Reading) : Reading :=
  match reading.classes with
  | inner :: around :: outer =>
    { reading with classes := around.add 1 (inner.height + 1) :: outer }
  | [inner] => { reading.add (inner.height + 1) with classes := [] }
  | [] => reading

/-- The reading after a change of the innermost class. -/
def Reading.mapClass (reading : Reading) (change : Members → Members) : Reading :=
  match reading.classes with
  | inner :: outer => { reading with classes := change inner :: outer }
  | [] => reading

/-- After another member of the innermost class, a character or a range. -/
def Reading.addMember (reading : Reading) : Reading := reading.mapClass (·.add 1 0)

/-- The names of the classes of ASCII. -/
def classNames : List String :=
  ["alnum", "alpha", "ascii", "blank", "cntrl", "digit", "graph", "lower", "print", "punct",
    "space", "upper", "word", "xdigit"]

/-- Reads a class of ASCII after its bracket, and whether it stands for all other characters. -/
def readNamedClass? : List Char → Option (Bool × List Char)
  | ':' :: text =>
    let negated := text.head? == some '^'
    let text := if negated then text.tail else text
    match text.dropWhile (· != ':') with
    | ':' :: ']' :: rest =>
      if classNames.contains (String.ofList (text.takeWhile (· != ':'))) then some (negated, rest)
      else none
    | _ => none
  | _ => none

/-- Reads a member of a class or a range of members, which must not be empty. A hyphen before
another one or before the end of the class makes no range. -/
def Reading.readRange? (reading : Reading) (text : List Char) : Step := do
  let flags := reading.flags
  let (first, rest) ← readAtom? flags text
  let single : Step := if first.fitsClass flags then some (reading.addMember, rest) else none
  match flags.skip rest with
  | '-' :: rest =>
    let next := flags.peek rest
    if next == some ']' || next == some '-' then single
    else
      let (last, rest) ← readAtom? flags (flags.skip rest)
      match first, last with
      | .literal least _, .literal greatest _ =>
        if least ≤ greatest && first.fitsClass flags && last.fitsClass flags then
          return (reading.addMember, rest)
        else none
      | _, _ => none
  | _ => single

/-- Whether a class of ASCII may stand in a class. -/
def Flags.fitsNamedClass (flags : Flags) (negated : Bool) : Bool :=
  !flags.lacksCases && (flags.unicode || !negated)

/-- Reads on within a class. -/
def Reading.readInClass? (reading : Reading) : List Char → Step
  | '[' :: rest =>
    match readNamedClass? rest with
    | some (negated, rest) =>
      if reading.flags.fitsNamedClass negated then some (reading.addMember, rest) else none
    | none => reading.openClass? rest
  | ']' :: rest => some (reading.closeClass, rest)
  | '&' :: '&' :: rest => some (reading.mapClass Members.cross, rest)
  | '-' :: '-' :: rest => some (reading.mapClass Members.cross, rest)
  | '~' :: '~' :: rest => some (reading.mapClass Members.cross, rest)
  | text => reading.readRange? text

/-- Reads a sign of repetition, after which a question mark may follow. It stands for a level above
the item in front. -/
def Reading.repeat? (reading : Reading) (text : List Char) : Step :=
  match reading.group.items with
  | some height :: items =>
    let repeated :=
      { reading with group := { reading.group with items := some (height + 1) :: items } }
    match text with
    | '?' :: rest => some (repeated, rest)
    | _ => some (repeated, text)
  | _ => none

/-- Reads on outside of classes. A brace counts repetitions, but none is closed within a
directive. -/
def Reading.readOutside? (reading : Reading) : List Char → Step
  | '(' :: rest => reading.readGroup? rest
  | ')' :: rest => reading.closeGroup?.map (·, rest)
  | '|' :: rest => some ({ reading with group := reading.group.split }, rest)
  | '[' :: rest => reading.openClass? rest
  | '?' :: rest => reading.repeat? rest
  | '*' :: rest => reading.repeat? rest
  | '+' :: rest => reading.repeat? rest
  | '\x7b' :: _ => none
  | '^' :: rest => some (reading.add 0, rest)
  | '$' :: rest => some (reading.add 0, rest)
  | '.' :: rest => if reading.flags.unicode then some (reading.add 0, rest) else none
  | text => do
    let (atom, rest) ← readAtom? reading.flags text
    if atom.fits reading.flags then return (reading.add 0, rest) else none

/-- Reads on. -/
def Reading.read? (reading : Reading) (text : List Char) : Step :=
  if reading.classes.isEmpty then reading.readOutside? text else reading.readInClass? text

/-- Whether a text can be read to its end in a number of steps. -/
def Reading.completes : Nat → Reading → List Char → Bool
  | 0, _, _ => false
  | steps + 1, reading, text =>
    match reading.flags.skip text with
    | [] => reading.isComplete
    | rest =>
      match reading.read? rest with
      | some (reading, rest) => Reading.completes steps reading rest
      | none => false

/-- Whether a text is a pattern. Every step reads a character, so the length of the text bounds
their number. -/
def isPattern (text : List Char) : Bool := Reading.start.completes (text.length + 1) text

end LiveBoard.Log.Pattern
