import LineLog.Bytes

/-!
# Terminal control in byte strings

A terminal reads a byte string as text with control sequences in between.  An
escape byte begins a sequence wherever it stands, and two other bytes break one
off.  How a sequence goes on depends on the byte behind the escape byte:

* a control sequence ends with its first letter or sign from `@` on;
* a command string ends with the bell;
* other strings end with the byte 9C, even inside a character;
* every other sequence ends with its first byte that is no intermediate.

`strip` leaves out the sequences and every control byte but the blank ones.
-/

namespace LineLog.Text

/-- Where in its text or in a sequence a terminal is. -/
inductive TerminalState where
  /-- Behind a byte of the text, so that the rest of a character may follow. -/
  | text
  /-- Outside of every sequence, but not behind a byte of the text. -/
  | ground
  /-- Behind the escape byte. -/
  | escape
  | escapeIntermediate
  | controlSequence
  /-- At the start of a device string. -/
  | deviceEntry
  | deviceParameters
  | deviceIntermediate
  /-- In a string that ends with the byte 9C. -/
  | string
  /-- In a command string. -/
  | command
  deriving DecidableEq, Repr

def escapeByte : Byte := 0x1b

/-- The bytes that break off every sequence. -/
def isCancel (byte : Byte) : Bool :=
  byte = 0x18 || byte = 0x1a

def isBlankControl (byte : Byte) : Bool :=
  byte = 0x09 || byte = 0x0a || byte = 0x0c || byte = 0x0d

/-- The bytes that may stand in front of the last byte of a sequence. -/
def isIntermediate (byte : Byte) : Bool :=
  0x20 ≤ byte && byte ≤ 0x2f

def isParameter (byte : Byte) : Bool :=
  0x30 ≤ byte && byte ≤ 0x3f

/-- The bytes that can end a control sequence. -/
def isFinal (byte : Byte) : Bool :=
  0x40 ≤ byte && byte ≤ 0x7e

namespace TerminalState

/-- The state behind the escape byte and the byte after it. -/
def ofIntroducer (byte : Byte) : TerminalState :=
  if byte = 0x5b then controlSequence
  else if byte = 0x5d then command
  else if byte = 0x50 then deviceEntry
  else if byte = 0x58 || byte = 0x5e || byte = 0x5f then string
  else ground

/-- The state after a byte that is neither shown nor breaks off a sequence. -/
def next (byte : Byte) : TerminalState → TerminalState
  | text | ground => ground
  | escape =>
      if isIntermediate byte then escapeIntermediate
      else if isParameter byte || isFinal byte then ofIntroducer byte
      else escape
  | escapeIntermediate =>
      if isParameter byte || isFinal byte then ground else escapeIntermediate
  | controlSequence => if isFinal byte then ground else controlSequence
  | deviceEntry =>
      if isIntermediate byte then deviceIntermediate
      else if isParameter byte then deviceParameters
      else if isFinal byte then string
      else deviceEntry
  | deviceParameters =>
      if isIntermediate byte then deviceIntermediate
      else if 0x3c ≤ byte && byte ≤ 0x7e then string
      else deviceParameters
  | deviceIntermediate =>
      if isParameter byte || isFinal byte then string else deviceIntermediate
  | string => if byte = 0x9c then ground else string
  | command => if byte = 0x07 then ground else command

/-- Whether a byte is shown.  Blank control bytes are, except inside a string,
and they end a sequence. -/
def shows (byte : Byte) : TerminalState → Bool
  | text =>
      isBlankControl byte || 0x20 ≤ byte && byte ≤ 0x7e ||
        0x80 ≤ byte && byte ≤ 0xbf || 0xc2 ≤ byte && byte ≤ 0xf4
  | ground =>
      isBlankControl byte || 0x20 ≤ byte && byte ≤ 0x7e || 0xc2 ≤ byte && byte ≤ 0xf4
  | escape | escapeIntermediate | controlSequence => isBlankControl byte
  | deviceEntry | deviceParameters | deviceIntermediate | string | command => false

end TerminalState

/-- The bytes that a terminal shows, from a state on. -/
def stripFrom (state : TerminalState) : Bytes → Bytes
  | [] => []
  | byte :: rest =>
      if byte = escapeByte then stripFrom .escape rest
      else if isCancel byte then stripFrom .ground rest
      else if state.shows byte then byte :: stripFrom .text rest
      else stripFrom (state.next byte) rest

/-- Leaves out control sequences and control bytes. -/
def strip (bytes : Bytes) : Bytes :=
  stripFrom .ground bytes

end LineLog.Text
