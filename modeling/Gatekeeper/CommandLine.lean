import Gatekeeper.CommandLine.Complaints
import Gatekeeper.CommandLine.Options
import Gatekeeper.Gate

/-! The program as it is called: words in, an exit code out. A call that is refused has no effect but a
message, and one for help none but the lines that it prints; any other call opens its log, runs the gate once and
answers by the verdict. -/

namespace Gatekeeper.CommandLine

def refusedCode : Nat := 2

def complain (text : String) : Run Unit :=
  modify fun world => { world with console := world.console ++ text }

/-- All that is said about a command line that is refused. -/
def usageErrorText (cause : UsageError) : String :=
  String.join (usageLines.map (· ++ "\n")) ++ "covgate: error: " ++ cause.message ++ "\n"

/-- Directs the lines of the log: the level is set first, then the console, then the file if there is one. -/
def openLog (level : String) (logFile : Option String) : Run Unit := do
  match severities.lookup level with
  | none => throw (.unknownLevel level)
  | some threshold =>
    modify fun world => { world with logging := ⟨threshold, [.console]⟩ }
    match logFile with
    | none => pure ()
    | some name =>
      if !name.isEmpty then
        let path := Path.ofText name
        Run.files (Files.ensureDirectory path.parent)
        let id ← Run.files (Files.openAppend path)
        modify fun world =>
          { world with logging := { world.logging with sinks := world.logging.sinks ++ [.file id] } }

def runOptions [Coercions] (env : Environment) (options : Options) : Run Nat := do
  match Settings.make options.given env with
  | .error cause =>
    complain ("covgate: invalid configuration\n" ++ settingsErrorText options.given cause ++ "\n")
    pure refusedCode
  | .ok settings =>
    openLog settings.logLevel options.logFile
    let outcome ← (Gate.ofSettings settings).run
    pure outcome.exitCode

def call [Coercions] (env : Environment) (words : List String) : Run Nat := do
  match Request.ofWords words with
  | .error cause =>
    complain (usageErrorText cause)
    pure refusedCode
  | .ok .help =>
    helpLines.forM Run.print
    pure 0
  | .ok (.run options) => runOptions env options

end Gatekeeper.CommandLine
