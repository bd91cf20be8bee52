import LineLog.Toml.Reading

/-!
# Pointing into the text

A mismatch is shown with the line that it is on and carets below the value.
Lines and columns count from one, columns in characters.  The carets cover the
value as far as it is on that line, and there is at least one.
-/

namespace LineLog.Toml

/-- A place in a text: how many lines and characters are in front of it, and
the line that it is on. -/
structure Place where
  lines : Nat
  columns : Nat
  line : List Char
  deriving DecidableEq, Repr

/-- The place at a byte offset, the offset counted from the beginning of the
present line, of which `before` is what has been passed, the last first. -/
def placeFrom (lines : Nat) (before : List Char) (offset : Nat) : List Char → Place
  | [] => ⟨lines, before.length + offset, before.reverse⟩
  | char :: rest =>
      if offset = 0 then
        ⟨lines, before.length, before.reverse ++ (char :: rest).takeWhile (· ≠ '\n')⟩
      else if char = '\n' then placeFrom (lines + 1) [] (offset - 1) rest
      else placeFrom lines (char :: before) (offset - char.utf8Size) rest

def placeOf (text : String) (offset : Nat) : Place :=
  placeFrom 0 [] offset text.toList

def byteLength (chars : List Char) : Nat :=
  chars.foldr (fun char length => char.utf8Size + length) 0

/-- How many carets stand below a value that begins at `place`. -/
def caretCount (place : Place) (span : Span) : Nat :=
  max 1 (min (span.finish - span.start) (byteLength place.line - place.columns))

/-- The lines that show a span of a text. -/
def excerpt (text : String) (span : Span) : String :=
  let place := placeOf text span.start
  let number := toString (place.lines + 1)
  let margin := "".pushn ' ' (number.length + 1)
  s!"TOML parse error at line {number}, column {place.columns + 1}\n" ++
    margin ++ "|\n" ++
    number ++ " | " ++ String.ofList place.line ++ "\n" ++
    margin ++ "|" ++ "".pushn ' ' (place.columns + 1) ++
    "".pushn '^' (caretCount place span) ++ "\n"

/-- Everything that is said of a mismatch in a text. -/
def Mismatch.report (mismatch : Mismatch) (text : String) : String :=
  (mismatch.span.map (excerpt text)).getD "" ++ mismatch.message ++ "\n"

end LineLog.Toml
