import LineLog.Bytes

/-!
# The flags of the command line

A switch stands alone and a parameter takes one value.  Every flag has a long
name and most have a letter.  The help text is composed from the same table.
-/

namespace LineLog.CommandLine

inductive Switch where
  | daemon
  | help
  | version
  deriving DecidableEq, Repr

inductive Parameter where
  | config
  | listen
  | dataFile
  | timestampInterval
  | logLevel
  | logFile
  deriving DecidableEq, Repr

inductive Flag where
  | switch (kind : Switch)
  | parameter (kind : Parameter)
  deriving DecidableEq, Repr

namespace Flag

def daemon : Flag := switch .daemon

/-- The flags in the order in which the help text lists them. -/
def all : List Flag :=
  [switch .daemon, parameter .config, parameter .listen, parameter .dataFile,
    parameter .timestampInterval, parameter .logLevel, parameter .logFile,
    switch .help, switch .version]

def letter? : Flag → Option Char
  | switch .daemon => some 'd'
  | parameter .config => some 'c'
  | parameter .listen => some 'l'
  | parameter .dataFile => some 'f'
  | parameter .timestampInterval => some 't'
  | parameter .logLevel => none
  | parameter .logFile => none
  | switch .help => some 'h'
  | switch .version => some 'V'

def name : Flag → String
  | switch .daemon => "daemon"
  | parameter .config => "config"
  | parameter .listen => "listen"
  | parameter .dataFile => "data-file"
  | parameter .timestampInterval => "timestamp-interval"
  | parameter .logLevel => "log-level"
  | parameter .logFile => "log-file"
  | switch .help => "help"
  | switch .version => "version"

def purpose : Flag → String
  | switch .daemon => "Run detached from the controlling terminal"
  | parameter .config => "Path to TOML configuration file"
  | parameter .listen => "Address to bind to (e.g., 0.0.0.0:9000 or [::]:9000)"
  | parameter .dataFile => "Backing file for the shared log"
  | parameter .timestampInterval => "Seconds between timestamp records (0 = disabled)"
  | parameter .logLevel => "Log level (trace, debug, info, warn, error)"
  | parameter .logFile => "Append log output to this file instead of stdout"
  | switch .help => "Print help"
  | switch .version => "Print version"

/-- The name of a value: the long name of its flag in capitals. -/
def valueName (flag : Flag) : String :=
  String.ofList (flag.name.toList.map fun char => if char = '-' then '_' else char.toUpper)

/-- The flag as messages show it. -/
def display : Flag → String
  | switch kind => "--" ++ (switch kind).name
  | parameter kind => "--" ++ (parameter kind).name ++ " <" ++ (parameter kind).valueName ++ ">"

def ofName? (name : String) : Option Flag :=
  all.find? (·.name = name)

def ofLetter? (letter : Char) : Option Flag :=
  all.find? (·.letter? = some letter)

/-- The two lines of a flag in the help text. -/
def helpEntry (flag : Flag) : String :=
  let letter :=
    match flag.letter? with
    | some letter => "  -" ++ letter.toString ++ ", "
    | none => "      "
  letter ++ flag.display ++ "\n          " ++ flag.purpose ++ "\n"

end Flag

def programName : String := "aesd-socket"

def versionText : String :=
  programName ++ " 0.1.0\n"

def helpText : String :=
  "Appends client lines to a shared log and echoes the log back\n\n" ++
    "Usage: " ++ programName ++ " [OPTIONS]\n\nOptions:\n" ++
    String.join (Flag.all.map Flag.helpEntry)

end LineLog.CommandLine
