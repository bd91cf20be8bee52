import LineLog.Notice.Basic
import LineLog.Notice.Directive

/-!
# Which notices are written

A filter is a list of directives, given as words between commas.  For a notice
the most specific of those directives counts that concern it: the one with the
longest origin, then one with a field before one without.  A notice that no
directive concerns is not written.
-/

namespace LineLog

structure Filter where
  directives : List Directive
  deriving DecidableEq, Repr

/-- Whether a directive is about a notice from `origin` with `fields`. -/
def Directive.concerns (origin : String) (fields : List String) (directive : Directive) : Bool :=
  directive.origin.all (fun start => start.toList.isPrefixOf origin.toList) &&
    directive.field.all fun field => fields.contains field.name

/-- Whether a directive is at least as specific as another one that concerns the
same notice. -/
def Directive.covers (directive other : Directive) : Bool :=
  let length (directive : Directive) : Nat :=
    (directive.origin.map fun start => start.utf8ByteSize + 1).getD 0
  let field (directive : Directive) : String := (directive.field.map (·.name)).getD ""
  length other < length directive ||
    length other = length directive &&
      (directive.field.isSome && other.field.isNone ||
        directive.field.isSome = other.field.isSome && field other ≤ field directive)

namespace Filter

/-- A filter of directives, or with one threshold for everything if there are
none.  Directives that have to be decided while spans are entered let nothing
pass, since notices stand in no spans. -/
def ofDirectives (fallback : Threshold) (directives : List Directive) : Filter where
  directives :=
    if directives = [] then [{ Directive.all with threshold := fallback }]
    else directives.filter Directive.isStatic

def words (text : String) : List String :=
  (text.splitOn ",").filter (· ≠ "")

/-- Reads words and sets those apart that do not have the form of a directive. -/
def sift : List String → Except DirectiveError (List Directive × List String)
  | [] => .ok ([], [])
  | word :: rest =>
      match Directive.read word with
      | .ok directive =>
          (sift rest).map fun (directives, ignored) => (directive :: directives, ignored)
      | .error .malformed =>
          (sift rest).map fun (directives, ignored) => (directives, word :: ignored)
      | .error .brokenCharacter => .error .brokenCharacter

/-- The filter that the settings ask for, and the words that are left out because
they do not have the form of a directive.  Without a directive only errors pass. -/
def ofSettings (text : String) : Except DirectiveError (Filter × List String) :=
  (sift (words text)).map fun (directives, ignored) =>
    (ofDirectives (some .error) directives, ignored)

/-- The filter that the environment asks for, if every word is a directive;
without a directive nothing passes. -/
def ofEnvironment (text : String) : Except DirectiveError Filter :=
  ((words text).mapM Directive.read).map (ofDirectives none)

/-- The directive that counts for a notice from `origin` with `fields`: of equally
specific ones the last. -/
def governing? (origin : String) (fields : List String) (filter : Filter) : Option Directive :=
  (filter.directives.filter (·.concerns origin fields)).foldl (fun best directive =>
    match best with
    | none => some directive
    | some best => some (if directive.covers best then directive else best)) none

/-- Whether a notice is written. -/
def passes (notice : Notice) (filter : Filter) : Bool :=
  (filter.governing? notice.origin notice.fieldNames).any fun directive =>
    directive.threshold.passes notice.level

end Filter

end LineLog
