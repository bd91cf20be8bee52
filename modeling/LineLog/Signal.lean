/-!
# Termination signals

Two signals ask the service to stop.
-/

namespace LineLog

inductive Signal where
  | interrupt
  | terminate
  deriving DecidableEq, Repr

namespace Signal

def all : List Signal := [interrupt, terminate]

def number : Signal → Int
  | interrupt => 2
  | terminate => 15

def name : Signal → String
  | interrupt => "SIGINT"
  | terminate => "SIGTERM"

def ofNumber? (number : Int) : Option Signal :=
  all.find? (·.number = number)

def ofName? (name : String) : Option Signal :=
  all.find? (·.name = name)

/-- The name of any signal, as the log shows it. -/
def nameOf (number : Int) : String :=
  match ofNumber? number with
  | some signal => signal.name
  | none => "unknown"

/-- The name of the thread that waits for the signals. -/
def listenerName : String := "signal-listener"

end Signal

end LineLog
