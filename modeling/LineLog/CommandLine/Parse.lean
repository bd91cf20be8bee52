import LineLog.CommandLine.Flag
import LineLog.Path
import LineLog.Text.Plain

/-!
# Reading the command line

Words are read from left to right.  A value is attached to its flag or is the
next word, which then must not look like a flag.  A value is examined when the
next flag is read, or at the end; a word that is no flag is reported at once,
whatever is wrong with the value before it.  A flag may be given only once, and
there are no arguments other than flags.
-/

namespace LineLog.CommandLine

/-- What the command line says. -/
structure Arguments where
  daemon : Bool
  config : Option Path
  listen : Option String
  dataFile : Option Path
  timestampInterval : Option Nat
  logLevel : Option String
  logFile : Option Path
  deriving DecidableEq, Repr

inductive NumberFault where
  | empty
  | notDigit
  | tooLarge
  deriving DecidableEq, Repr

inductive Misuse where
  | repeated (flag : Flag)
  | needlessValue (value : String) (kind : Switch)
  | unknown (text : String)
  | missingValue (kind : Parameter)
  | badNumber (value : String) (kind : Parameter) (fault : NumberFault)
  | notUtf8
  deriving DecidableEq, Repr

/-- Why the command line does not lead to a run of the service. -/
inductive Stop where
  | help
  | version
  | misuse (cause : Misuse)
  deriving DecidableEq, Repr

def NumberFault.message : NumberFault → String
  | empty => "cannot parse integer from empty string"
  | notDigit => "invalid digit found in string"
  | tooLarge => "number too large to fit in target type"

/-- What is said of a misuse.  A value that the user typed stands in a style of its
own; leaving the style ends a control sequence that the value began, so the value
is freed of terminal control for itself. -/
def Misuse.text : Misuse → String
  | repeated flag => s!"the argument '{flag.display}' cannot be used multiple times"
  | needlessValue value kind =>
      "unexpected value '" ++ Text.plain value ++ "' for '" ++ (Flag.switch kind).display ++
        "' found; no more were expected"
  | unknown text => "unexpected argument '" ++ Text.plain text ++ "' found"
  | missingValue kind =>
      "a value is required for '" ++ (Flag.parameter kind).display ++
        "' but none was supplied"
  | badNumber value kind fault =>
      "invalid value '" ++ Text.plain value ++ "' for '" ++ (Flag.parameter kind).display ++
        "': " ++ fault.message
  | notUtf8 => "invalid UTF-8 was detected in one or more arguments"

/-- The first line of what is said of a misuse. -/
def Misuse.message (misuse : Misuse) : String :=
  Text.firstLine ("error: " ++ misuse.text)

def Stop.message : Stop → String
  | help => helpText
  | version => versionText
  | misuse cause => cause.message

def Stop.exitCode : Stop → Nat
  | help => 0
  | version => 0
  | misuse _ => 2

/-- The first number that is too large for a parameter. -/
def numberBound : Nat := Nat.pow 2 64

/-- The value of decimal digits behind `value`.  A character that is no digit is
found before the number becomes too large at the same place. -/
def numberFrom (value : Nat) : List Char → Except NumberFault Nat
  | [] => .ok value
  | char :: rest =>
      if '0' ≤ char && char ≤ '9' then
        let next := value * 10 + (char.toNat - '0'.toNat)
        if numberBound ≤ next then .error .tooLarge else numberFrom next rest
      else .error .notDigit

/-- A decimal number that may have a plus sign in front. -/
def number? : List Char → Except NumberFault Nat
  | [] => .error .empty
  | ['+'] => .error .notDigit
  | '+' :: digits => numberFrom 0 digits
  | digits => numberFrom 0 digits

namespace Arguments

def none : Arguments where
  daemon := false
  config := .none
  listen := .none
  dataFile := .none
  timestampInterval := .none
  logLevel := .none
  logFile := .none

def has (arguments : Arguments) : Parameter → Bool
  | .config => arguments.config.isSome
  | .listen => arguments.listen.isSome
  | .dataFile => arguments.dataFile.isSome
  | .timestampInterval => arguments.timestampInterval.isSome
  | .logLevel => arguments.logLevel.isSome
  | .logFile => arguments.logFile.isSome

def pathValue (kind : Parameter) (value : Bytes) : Except Misuse Path :=
  if value = [] then .error (.missingValue kind) else .ok value

def textValue (value : Bytes) : Except Misuse String :=
  match value.text? with
  | some text => .ok text
  | Option.none => .error .notUtf8

def numberValue (kind : Parameter) (value : Bytes) : Except Misuse Nat := do
  let text ← textValue value
  (number? text.toList).mapError (.badNumber text kind)

/-- Takes the value of a parameter, which must not have one yet. -/
def set (kind : Parameter) (value : Bytes) (arguments : Arguments) :
    Except Misuse Arguments := do
  if arguments.has kind then .error (.repeated (.parameter kind))
  else
    match kind with
    | .config => .ok { arguments with config := some (← pathValue kind value) }
    | .listen => .ok { arguments with listen := some (← textValue value) }
    | .dataFile => .ok { arguments with dataFile := some (← pathValue kind value) }
    | .timestampInterval =>
        .ok { arguments with timestampInterval := some (← numberValue kind value) }
    | .logLevel => .ok { arguments with logLevel := some (← textValue value) }
    | .logFile => .ok { arguments with logFile := some (← pathValue kind value) }

end Arguments

/-- A parameter that waits for its value, or whose value waits to be examined. -/
structure Pending where
  kind : Parameter
  value : Option Bytes
  deriving DecidableEq, Repr

/-- The command line as far as it has been read. -/
structure Progress where
  arguments : Arguments
  pending : Option Pending
  deriving DecidableEq, Repr

namespace Progress

def start : Progress where
  arguments := .none
  pending := none

/-- Examines the value of the last parameter. -/
def settle (progress : Progress) : Except Stop Arguments :=
  match progress.pending with
  | none => .ok progress.arguments
  | some ⟨kind, none⟩ => .error (.misuse (.missingValue kind))
  | some ⟨kind, some value⟩ => (progress.arguments.set kind value).mapError .misuse

/-- A parameter whose value is attached. -/
def give (kind : Parameter) (value : Bytes) (progress : Progress) : Except Stop Progress := do
  let arguments ← progress.settle
  .ok ⟨← (arguments.set kind value).mapError .misuse, none⟩

/-- A parameter whose value is the next word. -/
def await (kind : Parameter) (progress : Progress) : Except Stop Progress := do
  .ok ⟨← progress.settle, some ⟨kind, none⟩⟩

def turnOn (kind : Switch) (progress : Progress) : Except Stop Progress := do
  let arguments ← progress.settle
  match kind with
  | .help => .error .help
  | .version => .error .version
  | .daemon =>
      if arguments.daemon then .error (.misuse (.repeated .daemon))
      else .ok ⟨{ arguments with daemon := true }, none⟩

def equalsSign : Byte := 61

def unknown (text : String) : Except Stop Progress :=
  .error (.misuse (.unknown text))

/-- The letters behind one hyphen.  The rest of the word behind the letter of a
parameter is its value, with or without an equals sign in between. -/
def letters (word : Bytes) (progress : Progress) : Except Stop Progress :=
  match word with
  | [] => .ok progress
  | byte :: rest =>
      match (Bytes.front byte rest).1 with
      | .illFormed => unknown ("-" ++ Bytes.lossy (byte :: rest))
      | .char letter =>
          match Flag.ofLetter? letter with
          | none => unknown ("-" ++ letter.toString)
          | some (.switch kind) => progress.turnOn kind >>= letters rest
          | some (.parameter kind) =>
              match rest with
              | [] => progress.await kind
              | first :: others =>
                  progress.give kind (if first = equalsSign then others else rest)
termination_by structural word

/-- The part of a word before the first equals sign, and the part behind it. -/
def splitAtEquals (word : Bytes) : Bytes × Option Bytes :=
  match word.dropWhile (· ≠ equalsSign) with
  | [] => (word, none)
  | _ :: value => (word.takeWhile (· ≠ equalsSign), some value)

/-- The long name behind two hyphens. -/
def longName (word : Bytes) (progress : Progress) : Except Stop Progress :=
  let (name, value) := splitAtEquals word
  match name.text? >>= Flag.ofName?, value with
  | none, _ => unknown ("--" ++ Bytes.lossy name)
  | some (.switch kind), none => progress.turnOn kind
  | some (.switch kind), some value =>
      .error (.misuse (.needlessValue (Bytes.lossy value) kind))
  | some (.parameter kind), none => progress.await kind
  | some (.parameter kind), some value => progress.give kind value

/-- A word that does not look like a flag is the value of the parameter before
it, if that waits for one. -/
def plainWord (word : Bytes) (progress : Progress) : Except Stop Progress :=
  match progress.pending with
  | some ⟨kind, none⟩ => .ok { progress with pending := some ⟨kind, some word⟩ }
  | _ => unknown (Bytes.lossy word)

/-- Reads the words one after the other.  Two hyphens alone end the flags, and
nothing may follow. -/
def words (progress : Progress) : List Bytes → Except Stop Progress
  | [] => .ok progress
  | word :: rest =>
      match word with
      | 45 :: 45 :: [] =>
          match rest with
          | [] => .ok progress
          | next :: _ => unknown (Bytes.lossy next)
      | 45 :: 45 :: name => do (← progress.longName name).words rest
      | 45 :: first :: others => do (← progress.letters (first :: others)).words rest
      | _ => do (← progress.plainWord word).words rest

end Progress

/-- Reads a whole command line, without the name of the program. -/
def parse (words : List Bytes) : Except Stop Arguments := do
  (← Progress.start.words words).settle

end LineLog.CommandLine
