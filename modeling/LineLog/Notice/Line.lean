import LineLog.Notice.Basic
import LineLog.Timestamp.Basic

/-!
# The lines of the log

A notice takes one line: the moment, the level, the phrase and the details.  On
the standard output its parts have styles, unless colors are unwanted; in a log
file they have none.
-/

namespace LineLog

/-- How a part of a line looks. -/
inductive Style where
  | dimmed
  | italic
  | colored (code : Nat)
  deriving DecidableEq, Repr

namespace Style

def code : Style → Nat
  | dimmed => 2
  | italic => 3
  | colored code => code

/-- A text in a style. -/
def paint (style : Style) (text : String) : String :=
  s!"\x1b[{style.code}m" ++ text ++ "\x1b[0m"

end Style

/-- The color of the name of a level: from red over yellow, green and blue to
purple. -/
def Level.style : Level → Style
  | .error => .colored 31
  | .warn => .colored 33
  | .info => .colored 32
  | .debug => .colored 34
  | .trace => .colored 35

namespace Notice

/-- The moment of a line: date, time of day and microseconds in universal time. -/
def momentText (instant : Instant) : String :=
  let date := Calendar.dateOfDay (instant.seconds / Timestamp.day)
  let ofDay := (instant.seconds % Timestamp.day).toNat
  let places (width value : Nat) : String := String.ofList (Timestamp.padded width value)
  String.ofList (Timestamp.yearText date.year) ++
    s!"-{places 2 date.month}-{places 2 date.day}T{places 2 (ofDay / 3600)}:" ++
    s!"{places 2 (ofDay / 60 % 60)}:{places 2 (ofDay % 60)}.{places 6 (instant.nanos / 1000)}Z"

/-- The line of a notice, with its level flush right in five columns. -/
def line (styled : Bool) (instant : Instant) (notice : Notice) : String :=
  let paint (style : Style) (text : String) : String :=
    if styled then style.paint text else text
  let name := notice.level.name
  let level := String.ofList (List.replicate (5 - name.length) ' ') ++ name
  let details := notice.details.map fun (name, value) =>
    " " ++ paint .italic name ++ paint .dimmed "=" ++ value
  paint .dimmed (momentText instant) ++ " " ++ paint notice.level.style level ++ " " ++
    notice.phrase ++ String.join details

end Notice

end LineLog
