/-!
# Levels of notices

Notices have five levels.  A threshold lets the more important ones pass and is
given by the name or the number of the last level that passes.
-/

namespace LineLog

inductive Level where
  | error
  | warn
  | info
  | debug
  | trace
  deriving DecidableEq, Repr

namespace Level

def all : List Level := [error, warn, info, debug, trace]

def name : Level → String
  | error => "ERROR"
  | warn => "WARN"
  | info => "INFO"
  | debug => "DEBUG"
  | trace => "TRACE"

/-- How many levels are at least as important. -/
def rank (level : Level) : Nat :=
  all.idxOf level + 1

end Level

/-- The least important level that passes; nothing passes without it. -/
abbrev Threshold := Option Level

namespace Threshold

def passes (threshold : Threshold) (level : Level) : Bool :=
  threshold.any fun last => level.rank ≤ last.rank

/-- The threshold with a rank.  Nothing passes at rank zero. -/
def ofRank? (rank : Nat) : Option Threshold :=
  if rank = 0 then some none
  else (Level.all.find? fun level => level.rank = rank).map some

/-- The value of a decimal number, which may have a plus sign in front. -/
def number? (text : String) : Option Nat :=
  let digits :=
    match text.toList with
    | '+' :: digits => digits
    | digits => digits
  if digits ≠ [] && digits.all Char.isDigit then
    some (digits.foldl (fun value digit => value * 10 + (digit.toNat - '0'.toNat)) 0)
  else none

/-- The threshold with a name, in any case. -/
def ofName? (text : String) : Option Threshold :=
  let name := text.toUpper
  if name = "OFF" then some none
  else (Level.all.find? fun level => level.name = name).map some

def ofText? (text : String) : Option Threshold :=
  (number? text >>= ofRank?).orElse fun _ => ofName? text

end Threshold

end LineLog
