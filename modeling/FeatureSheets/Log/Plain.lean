import FeatureSheets.Log.Note

/-!
# Plain log lines

A log line may quote a document, and a document may hold what a terminal takes for a command.
`plain` leaves out control characters, white space apart, and whole control sequences: an escape
with what belongs to it, up to the character that ends it.

White space inside a sequence is not part of it. Text that follows such white space is kept until
the next control character, at which the sequence goes on where it was left.

Beyond ASCII, sequences look at bytes. A string ends at the byte `0x9C`, wherever that byte stands
in the UTF-8 form of a character; the rest of that character is left out as well.
-/

namespace FeatureSheets.Log

/-- Where a reader stands in a control sequence. -/
inductive Sequence where
  /-- In none. -/
  | outside
  /-- After an escape. -/
  | escape
  /-- After an escape and intermediate characters. -/
  | intermediate
  /-- In a sequence with parameters, which a letter ends. -/
  | parameters
  /-- In a command to the operating system, which a bell ends. -/
  | command
  /-- Before the parameters of a string for a device. -/
  | device
  /-- In the parameters of a string for a device. -/
  | deviceParameters
  /-- After the parameters of a string for a device. -/
  | deviceIntermediate
  /-- In a string, which a terminator ends. -/
  | string
  deriving DecidableEq, Repr

/-- The escape character. -/
def escapeChar : Char := '\x1b'

/-- Whether a character breaks off any sequence. -/
def isCancel (c : Char) : Bool :=
  c == '\x18' || c == '\x1a'

/-- Whether a control character is white space. -/
def isSpacing (c : Char) : Bool :=
  c == '\t' || c == '\n' || c == '\x0c' || c == '\r'

/-- Whether a character is a control character. -/
def isControl (c : Char) : Bool :=
  c.toNat < 0x20 || c.toNat == 0x7F

/-- Where an ordinary character after an escape leads. -/
def afterEscape (c : Char) : Sequence :=
  if c = '[' then .parameters
  else if c = ']' then .command
  else if c = 'P' then .device
  else if ['X', '^', '_'].contains c then .string
  else if c.toNat < 0x30 then .intermediate
  else .outside

/-- Where an ordinary ASCII character within a sequence leads. -/
def advance (s : Sequence) (c : Char) : Sequence :=
  match s with
  | .outside => .outside
  | .escape => afterEscape c
  | .intermediate => if c.toNat < 0x30 then .intermediate else .outside
  | .parameters => if c.toNat < 0x40 then .parameters else .outside
  | .command => .command
  | .device =>
    if c.toNat < 0x30 then .deviceIntermediate
    else if c.toNat < 0x40 then .deviceParameters
    else .string
  | .deviceParameters =>
    if c.toNat < 0x30 then .deviceIntermediate
    else if c.toNat < 0x3C then .deviceParameters
    else .string
  | .deviceIntermediate => if c.toNat < 0x30 then .deviceIntermediate else .string
  | .string => .string

/-- Where a character beyond ASCII within a sequence leads. -/
def advanceBeyond (s : Sequence) (c : Char) : Sequence :=
  if s = .string ∧ (String.utf8EncodeChar c).contains 0x9C then .outside else s

/-- Whether white space counts within a sequence. -/
def seesSpacing : Sequence → Bool
  | .outside | .escape | .intermediate | .parameters => true
  | _ => false

/-- What is left of a text. `kept` tells whether the character before was kept. -/
def plainFrom (s : Sequence) (kept : Bool) : Text → Text
  | [] => []
  | c :: rest =>
    if c = escapeChar then plainFrom .escape false rest
    else if isCancel c then plainFrom .outside false rest
    else if isControl c then
      if isSpacing c && (kept || seesSpacing s) then c :: plainFrom s true rest
      else if c = '\x07' ∧ s = .command then plainFrom .outside false rest
      else plainFrom s false rest
    else if c.toNat < 0x80 then
      if kept || s = .outside then c :: plainFrom s true rest
      else plainFrom (advance s c) false rest
    else if kept || s = .outside then c :: plainFrom .outside true rest
    else plainFrom (advanceBeyond s c) false rest

/-- A text without control characters and control sequences. -/
def plain (s : Text) : Text :=
  plainFrom .outside false s

/-- The lines of a note as they are shown. -/
def shown (n : Note) : Text :=
  plain n.lines

end FeatureSheets.Log
