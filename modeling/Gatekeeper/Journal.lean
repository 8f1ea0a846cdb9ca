/-! Records of what a run does, and where their lines go. A line goes to every open sink when its level
reaches the threshold; all records are kept whatever the threshold. -/

namespace Gatekeeper

inductive Level where
  | debug
  | info
  | warning
  | error
deriving DecidableEq, Repr

inductive Source where
  | gate
  | report
  | baseline
  | runner
deriving DecidableEq, Repr

structure Record where
  level : Level
  source : Source
  message : String
deriving DecidableEq, Repr

/-- Where lines go: the console, or an open file by its number. -/
inductive Sink where
  | console
  | file (id : Nat)
deriving DecidableEq, Repr

/-- The least severity of a line, and where lines go. -/
structure Logging where
  threshold : Nat
  sinks : List Sink
deriving DecidableEq, Repr

namespace Level

def name : Level → String
  | debug => "DEBUG"
  | info => "INFO"
  | warning => "WARNING"
  | error => "ERROR"

def severity : Level → Nat
  | debug => 10
  | info => 20
  | warning => 30
  | error => 40

end Level

namespace Source

def name : Source → String
  | gate => "covgate.gate"
  | report => "covgate.report"
  | baseline => "covgate.baseline"
  | runner => "covgate.runner"

end Source

def Record.line (record : Record) : String :=
  record.level.name ++ " " ++ record.source.name ++ " - " ++ record.message ++ "\n"

/-- The severities that have a name. The level that sets none leaves it to the usual one, warnings. -/
def severities : List (String × Nat) := [
  ("CRITICAL", 50), ("FATAL", 50), ("ERROR", 40), ("WARN", 30), ("WARNING", 30), ("INFO", 20),
  ("DEBUG", 10), ("NOTSET", 30)]

def Logging.silent : Logging := ⟨30, []⟩

end Gatekeeper
