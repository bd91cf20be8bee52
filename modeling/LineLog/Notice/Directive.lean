import LineLog.Bytes
import LineLog.Notice.Level
import LineLog.Text.Letter
import LineLog.Text.Pattern

/-!
# Directives for notices

A directive sets a threshold for some of the notices.  It is one word: the place
that the notices come from, a span in brackets with a field in braces, and behind
an equals sign the threshold.  Each part may be missing; a word that is the name
of a threshold stands for that threshold, and without a threshold everything
passes.

A blank at the start of a word is passed over, but the parts are then cut from
the word as it is, blank included.
-/

namespace LineLog

/-- A field that a notice has to have, perhaps with a value. -/
structure FieldPattern where
  name : String
  value : Option String
  deriving DecidableEq, Repr

structure Directive where
  threshold : Threshold
  /-- What the place of a notice begins with. -/
  origin : Option String
  span : Option String
  field : Option FieldPattern
  deriving DecidableEq, Repr

/-- Why a word is no directive. -/
inductive DirectiveError where
  /-- The word does not have the form of a directive. -/
  | malformed
  /-- A part of the word would begin or end inside of a character. -/
  | brokenCharacter
  deriving DecidableEq, Repr

namespace DirectiveError

def message : DirectiveError → String
  | malformed => "it is no directive"
  | brokenCharacter => "a part of it would break a character"

/-- What is found, or else the word is malformed. -/
def orMalformed {α : Type} : Option α → Except DirectiveError α
  | some found => .ok found
  | none => .error malformed

end DirectiveError

namespace FieldPattern

/-- Reads a name and, behind an equals sign, a value.  A second equals sign ends
the value. -/
def read? (text : String) : Option FieldPattern :=
  match text.splitOn "=" with
  | [] => none
  | [name] => if name = "" then none else some ⟨name, none⟩
  | name :: value :: _ => if Text.Pattern.isValid value then some ⟨name, some value⟩ else none

end FieldPattern

namespace Directive

/-- Everything passes. -/
def all : Directive where
  threshold := some .trace
  origin := none
  span := none
  field := none

/-- Where in a directive its reading is.  A position is where a part began. -/
inductive Part where
  | start
  | levelOrOrigin
  | span (start : Nat)
  | field (start : Nat)
  | fieldEnd
  | spanEnd
  | level (start : Nat)
  deriving DecidableEq, Repr

/-- Whether a position of a word lies between two characters, and not inside of
one. -/
def isBetween (word : Bytes) (position : Nat) : Bool :=
  match word[position]? with
  | some byte => !(0x80 ≤ byte && byte < 0xc0)
  | none => position = word.length

/-- The text of a word from one position up to another. -/
def cut (word : Bytes) (first last : Nat) : Except DirectiveError String :=
  if isBetween word first && isBetween word last then
    .ok (Bytes.lossy ((word.drop first).take (last - first)))
  else .error .brokenCharacter

/-- Whether a word can begin with a character. -/
def canStart (char : Char) : Bool :=
  char = '-' || char = ':' || char = '_' || Text.isAlphanumeric char

/-- Reads the character at a position of a word. -/
def readChar (word : Bytes) (position : Nat) (char : Char) :
    Part × Directive → Except DirectiveError (Part × Directive)
  | (.start, directive) =>
      if char = '[' then .ok (.span (position + 1), directive)
      else if canStart char then .ok (.levelOrOrigin, directive)
      else .error .malformed
  | (.levelOrOrigin, directive) => do
      if char = '=' then
        .ok (.level (position + 1), { directive with origin := some (← cut word 0 position) })
      else if char = '[' then
        .ok (.span (position + 1), { directive with origin := some (← cut word 0 position) })
      else .ok (.levelOrOrigin, directive)
  | (.span start, directive) => do
      if char = ']' then
        .ok (.spanEnd, { directive with span := some (← cut word start position) })
      else if char = '\x7b' then
        let name ← cut word start position
        .ok (.field (position + 1),
          { directive with span := if name = "" then none else some name })
      else .ok (.span start, directive)
  | (.field start, directive) => do
      if char = '\x7d' then
        let text ← cut word start position
        if text = "" then .error .malformed
        else
          let field ← DirectiveError.orMalformed (FieldPattern.read? text)
          .ok (.fieldEnd, { directive with field := some field })
      else .ok (.field start, directive)
  | (.fieldEnd, directive) =>
      if char = ']' then .ok (.spanEnd, directive) else .error .malformed
  | (.spanEnd, directive) =>
      if char = '=' then .ok (.level (position + 1), directive) else .error .malformed
  | (.level start, directive) => .ok (.level start, directive)

/-- Ends the reading of a word. -/
def finish (word : Bytes) : Part × Directive → Except DirectiveError Directive
  | (.levelOrOrigin, directive) => do
      let text ← cut word 0 word.length
      match Threshold.ofText? text with
      | some threshold => .ok { directive with threshold }
      | none => .ok { directive with origin := some text }
  | (.level start, directive) => do
      let text ← cut word start word.length
      if text = "" then .ok directive
      else
        let threshold ← DirectiveError.orMalformed (Threshold.ofText? text)
        .ok { directive with threshold }
  | (.spanEnd, directive) => .ok directive
  | (_, _) => .error .malformed

/-- Reads characters from a position on. -/
def readFrom (word : Bytes) (position : Nat) (state : Part × Directive) :
    List Char → Except DirectiveError (Part × Directive)
  | [] => .ok state
  | char :: rest => do
      readFrom word (position + char.utf8Size) (← readChar word position char state) rest

/-- Reads a word as a directive. -/
def read (word : String) : Except DirectiveError Directive := do
  let chars := word.toList.dropWhile Text.isSpace
  let chars := (chars.reverse.dropWhile Text.isSpace).reverse
  let bytes := Bytes.ofString word
  finish bytes (← readFrom bytes 0 (.start, all) chars)

/-- Whether the directive can be decided for a notice by itself: no span has to
be entered, and no value has to be compared. -/
def isStatic (directive : Directive) : Bool :=
  directive.span.isNone && directive.field.all (·.value.isNone)

end Directive

end LineLog
