import LineLog.Host
import LineLog.Notice.Filter
import LineLog.Notice.Line

/-!
# What the program writes

Notices that the filter lets pass go to the log file, if there is one, and to
the standard output otherwise.  Complaints go to the standard error.  Once the
program is detached from its terminal, only the log file is left.
-/

namespace LineLog

/-- What the environment says about the notices. -/
structure Environment where
  /-- Directives that come before those of the settings. -/
  directives : Option Bytes
  /-- Whether lines have styles on the standard output. -/
  styled : Bool
  deriving DecidableEq, Repr

namespace Environment

/-- The filter that is in force, from the level in the settings, and the words
that were left out.  The environment counts only if it is text and every word of
it has the form of a directive. -/
def filter (level : String) (environment : Environment) :
    Except DirectiveError (Filter × List String) :=
  match (environment.directives >>= Bytes.text?).map Filter.ofEnvironment with
  | some (.ok filter) => .ok (filter, [])
  | some (.error .brokenCharacter) => .error .brokenCharacter
  | some (.error .malformed) | none => Filter.ofSettings level

end Environment

structure Journal where
  filter : Filter
  styled : Bool
  /-- The moment of the notices. -/
  moment : Instant
  /-- The log file that replaces the standard output. -/
  log : Option Handle
  /-- What has been written to the standard output. -/
  output : String
  /-- What has been written to the standard error. -/
  complaints : List String
  detached : Bool

namespace Journal

/-- Nothing has been written and no notice passes. -/
def silent (moment : Instant) : Journal where
  filter := ⟨[]⟩
  styled := false
  moment
  log := none
  output := ""
  complaints := []
  detached := false

def print (text : String) (journal : Journal) : Journal :=
  if journal.detached then journal else { journal with output := journal.output ++ text }

def complain (text : String) (journal : Journal) : Journal :=
  if journal.detached then journal
  else { journal with complaints := journal.complaints ++ [text] }

/-- Complains about words that were left out. -/
def complainOf (words : List String) (journal : Journal) : Journal :=
  words.foldl (fun journal word =>
    journal.complain s!"ignoring '{word}': {DirectiveError.malformed.message}") journal

/-- Writes a notice, if it passes.  A line that does not fit into the log file is
lost.  The log file may be one of the two standard streams, which it keeps when
the program is detached. -/
def say (notice : Notice) (journal : Journal) (host : Host) : Journal × Host :=
  if journal.filter.passes notice then
    match journal.log with
    | some handle =>
        let line := notice.line false journal.moment ++ "\n"
        match handle.opened with
        | .device .output => ({ journal with output := journal.output ++ line }, host)
        | .device .complaints =>
            ({ journal with complaints := journal.complaints ++ [line] }, host)
        | _ => (journal, (host.appendThrough handle (Bytes.ofString line)).1)
    | none => (journal.print (notice.line journal.styled journal.moment ++ "\n"), host)
  else (journal, host)

end Journal

end LineLog
