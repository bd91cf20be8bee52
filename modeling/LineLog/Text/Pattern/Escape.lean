import LineLog.Text.Letter

/-!
# Escapes of regular expressions

Behind a backslash a punctuation mark stands for itself, a letter for a control
character, a set of characters or a place in the text, and hexadecimal digits for
a character by its number.  What an escape may stand for depends on the mode:
sets and places that need a table of the characters of all scripts are not
available, and neither is a byte that is no character by itself.
-/

namespace LineLog.Text.Pattern

/-- How an expression is read from a place on. -/
structure Mode where
  /-- Characters are those of all scripts; otherwise they are bytes. -/
  unicode : Bool
  /-- A letter stands for both of its cases. -/
  anyCase : Bool
  /-- Blanks and comments do not count. -/
  spaced : Bool
  deriving DecidableEq, Repr

/-- What an escape stands for. -/
inductive Escaped where
  /-- A character, which may have been given as a byte. -/
  | literal (char : Char) (byte : Bool)
  /-- Digits, blanks or word characters, or all others. -/
  | set (negated : Bool)
  /-- The start or the end of a word, or a place that is neither. -/
  | wordEdge
  /-- The start or the end of the text. -/
  | textEdge
  deriving DecidableEq, Repr

namespace Mode

/-- How an expression is read from its start on. -/
def initial : Mode where
  unicode := true
  anyCase := false
  spaced := false

/-- Whether an escape may stand outside of brackets.  Letters of both cases and
sets need a table, except among bytes. -/
def allows (mode : Mode) : Escaped → Bool
  | .literal char byte =>
      if mode.unicode then !mode.anyCase else !byte || char.toNat < 128
  | .set negated => !mode.unicode && !negated
  | .wordEdge => !mode.unicode
  | .textEdge => true

/-- Whether an escape may stand in brackets: a set of bytes holds only those that
are characters by themselves. -/
def allowsInSet (mode : Mode) : Escaped → Bool
  | .literal char _ => if mode.unicode then !mode.anyCase else char.toNat < 128
  | .set negated => !mode.unicode && !negated
  | .wordEdge | .textEdge => false

/-- Passes over blanks and comments, from within a comment or from outside. -/
def skipBlanks : Bool → List Char → List Char
  | _, [] => []
  | true, char :: rest => skipBlanks (char ≠ '\n') rest
  | false, char :: rest =>
      if isSpace char then skipBlanks false rest
      else if char = '#' then skipBlanks true rest
      else char :: rest

/-- Passes over what does not count. -/
def skip (mode : Mode) (chars : List Char) : List Char :=
  if mode.spaced then skipBlanks false chars else chars

end Mode

/-- The marks that have a meaning of their own. -/
def isMeta (char : Char) : Bool :=
  "\\.+*?()|[]\x7b\x7d^$#&-~".toList.contains char

/-- Whether a character stands for itself behind a backslash. -/
def standsForItself (char : Char) : Bool :=
  isMeta char || char.toNat < 128 && !char.isAlphanum && char ≠ '<' && char ≠ '>'

def isHexDigit (char : Char) : Bool :=
  char.isDigit || 'a' ≤ char && char ≤ 'f' || 'A' ≤ char && char ≤ 'F'

def hexValue (char : Char) : Nat :=
  if char.isDigit then char.toNat - '0'.toNat else char.toUpper.toNat - 'A'.toNat + 10

/-- The control character that a letter names. -/
def controlOf? : Char → Option Char
  | 'a' => some '\x07'
  | 'f' => some '\x0c'
  | 't' => some '\t'
  | 'n' => some '\n'
  | 'r' => some '\r'
  | 'v' => some '\x0b'
  | _ => none

/-- How many hexadecimal digits follow a letter. -/
def hexLength? : Char → Option Nat
  | 'x' => some 2
  | 'u' => some 4
  | 'U' => some 8
  | _ => none

/-- Reads `count` hexadecimal digits behind those with the value `value`. -/
def readHex? (mode : Mode) : Nat → Nat → List Char → Option (Nat × List Char)
  | 0, value, chars => some (value, chars)
  | _ + 1, _, [] => none
  | count + 1, value, char :: rest =>
      if isHexDigit char then readHex? mode count (value * 16 + hexValue char) (mode.skip rest)
      else none

/-- Reads the escape behind a backslash. -/
def readEscape? (mode : Mode) : List Char → Option (Escaped × List Char)
  | [] => none
  | char :: rest =>
      match hexLength? char with
      | some count => do
          let (value, rest) ← readHex? mode count 0 (mode.skip rest)
          if Nat.isValidChar value then some (.literal (Char.ofNat value) (char = 'x'), rest)
          else none
      | none =>
          match controlOf? char with
          | some control => some (.literal control false, rest)
          | none =>
              if "dsw".toList.contains char then some (.set false, rest)
              else if "DSW".toList.contains char then some (.set true, rest)
              else if "bB<>".toList.contains char then some (.wordEdge, rest)
              else if "Az".toList.contains char then some (.textEdge, rest)
              else if standsForItself char then some (.literal char false, rest)
              else none

end LineLog.Text.Pattern
