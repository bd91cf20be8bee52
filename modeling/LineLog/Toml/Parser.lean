import LineLog.Toml.Value

/-!
# Reading text from the front

A parser takes what it recognizes from the front of the text and keeps count of
the bytes.  It has one way to fail.  Blanks are spaces and tabs; a line ends
with a line feed, with or without a carriage return in front; a comment runs to
the end of its line and holds no control characters but tabs.
-/

namespace LineLog.Toml

/-- The text that is left and the byte offset of its beginning. -/
structure Cursor where
  position : Nat
  rest : List Char

abbrev Parser := StateT Cursor Option

namespace Parser

variable {α β : Type}

def fail : Parser α := fun _ => none

/-- The next character, which stays where it is. -/
def peek? : Parser (Option Char) := fun cursor =>
  some (cursor.rest.head?, cursor)

def satisfy (accepts : Char → Bool) : Parser Char := fun cursor =>
  match cursor.rest with
  | char :: rest =>
      if accepts char then some (char, ⟨cursor.position + char.utf8Size, rest⟩) else none
  | [] => none

def char (wanted : Char) : Parser Unit := do
  let _ ← satisfy (· = wanted)

/-- The given characters, one after the other. -/
def text : List Char → Parser Unit
  | [] => pure ()
  | wanted :: rest => do
      char wanted
      text rest

def perhaps (parser : Parser α) : Parser (Option α) :=
  (some <$> parser) <|> pure none

/-- As many as there are, but at most one for each character of `bound`. -/
def manyWithin (parser : Parser α) (bound : List Char) : Parser (List α) :=
  match bound with
  | [] => pure []
  | _ :: bound =>
      (do
        let first ← parser
        let others ← manyWithin parser bound
        pure (first :: others)) <|> pure []

/-- As many as there are.  Each takes something from the text, so there are no
more than the text has characters. -/
def many (parser : Parser α) : Parser (List α) := fun cursor =>
  manyWithin parser cursor.rest cursor

def many1 (parser : Parser α) : Parser (List α) := do
  let first ← parser
  let others ← many parser
  pure (first :: others)

/-- Exactly `count` of them. -/
def exactly (parser : Parser α) : Nat → Parser (List α)
  | 0 => pure []
  | count + 1 => do
      let first ← parser
      let others ← exactly parser count
      pure (first :: others)

/-- At least one, with separators between them. -/
def separated1 (item : Parser α) (separator : Parser β) : Parser (List α) := do
  let first ← item
  let others ← many (separator *> item)
  pure (first :: others)

/-- Any number of them, with separators between them. -/
def separated (item : Parser α) (separator : Parser β) : Parser (List α) :=
  separated1 item separator <|> pure []

/-- A parser together with the range of the text that it takes. -/
def spanned (parser : Parser α) : Parser (α × Span) := fun cursor =>
  (parser cursor).map fun (result, after) =>
    ((result, ⟨cursor.position, after.position⟩), after)

def atEnd : Parser Unit := fun cursor =>
  if cursor.rest.isEmpty then some ((), cursor) else none

def ofOption : Option α → Parser α
  | some value => pure value
  | none => fail

end Parser

open LineLog.Toml.Parser

def isBlank (char : Char) : Bool :=
  char = ' ' || char = '\t'

/-- The characters that may stand in a comment, and in strings unless they have
a meaning there. -/
def isText (char : Char) : Bool :=
  char = '\t' || (' ' ≤ char && char ≠ '\x7f')

def blanks : Parser Unit := do
  let _ ← many (satisfy isBlank)

def lineBreak : Parser Unit :=
  text ['\n'] <|> text ['\r', '\n']

def comment : Parser Unit := do
  char '#'
  let _ ← many (satisfy isText)

/-- The end of a line: a line break or the end of the text. -/
def lineEnd : Parser Unit :=
  lineBreak <|> atEnd

/-- What may follow a statement on its line. -/
def lineRest : Parser Unit := do
  blanks
  let _ ← perhaps comment
  lineEnd

/-- Blanks, line breaks and comments, as between the items of an array. -/
def filler : Parser Unit := do
  let _ ← many ((do let _ ← many1 (satisfy isBlank)) <|> lineBreak <|>
    (do comment; lineBreak))

end LineLog.Toml
