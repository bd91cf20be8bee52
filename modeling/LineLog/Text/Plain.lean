import LineLog.Text.Escape

/-!
# Plain text

Text that repeats what a user typed is shown without terminal control, and a
message is cut at its first line break.
-/

namespace LineLog.Text

/-- The text without control sequences and control characters. -/
def plain (text : String) : String :=
  Bytes.lossy (strip (Bytes.ofString text))

/-- The text up to its first line break. -/
def firstLine (text : String) : String :=
  let line := text.toList.takeWhile (· ≠ '\n')
  if line.length < text.length && line.getLast? = some '\r' then String.ofList line.dropLast
  else String.ofList line

end LineLog.Text
