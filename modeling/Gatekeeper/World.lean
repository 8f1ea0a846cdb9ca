import Gatekeeper.Baseline
import Gatekeeper.Journal
import Gatekeeper.Pipeline
import Gatekeeper.Policy
import Gatekeeper.Report

/-! The world in which a gate runs: the disk, the tools at hand, and all that can be seen of a run, printed
lines, records, tools looked up and commands. The tools answer by a script, so that a run is a function. -/

namespace Gatekeeper

open Text

/-- What is put at a path: nothing, a directory, or a file, which may say whether it can be executed. -/
inductive Content where
  | absent
  | directory
  | file (bytes : List UInt8) (executable : Option Bool)
deriving DecidableEq, Repr

/-- What one command does: it writes some files and ends with a code. -/
structure Response where
  code : Int
  writes : List (String × Content)
deriving DecidableEq, Repr

/-- The tools: which are missing, and what the commands do, one after the other. A command beyond the script
does nothing and succeeds. -/
structure Toolchain where
  missing : List String
  responses : List Response
deriving DecidableEq, Repr

/-- A command that was run: where, and its words. -/
structure Command where
  directory : Path
  argv : List String
deriving DecidableEq, Repr

inductive Phase where
  | start
  | buildAndTest
  | generateReport
  | parse
  | checkThreshold
  | checkRegression
  | updateBaseline
  | exit
deriving DecidableEq, Repr

def Phase.name : Phase → String
  | start => "start"
  | buildAndTest => "build_and_test"
  | generateReport => "generate_report"
  | parse => "parse"
  | checkThreshold => "check_threshold"
  | checkRegression => "check_regression"
  | updateBaseline => "update_baseline"
  | exit => "exit"

/-- The disk, the tools, and what has been seen of a run so far. -/
structure World where
  disk : Disk
  tools : Toolchain
  logging : Logging
  printed : List String
  records : List Record
  asked : List String
  commands : List Command
  phases : List Phase
  console : String

/-- Why a run ends without an outcome. -/
inductive Fault where
  | file (cause : FileError)
  | charset (cause : Markup.CharsetError)
  | longNumber
  | check (cause : CheckError)
  | outsideUnit (value : Numeral)
  | unknownLevel (name : String)
  | noCommand
deriving DecidableEq, Repr

/-- What is said about a fault; about files the fault itself says enough. -/
def Fault.message : Fault → String
  | file .nulInPath => "embedded null byte"
  | file .tooDeep => "maximum recursion depth exceeded"
  | file _ => ""
  | charset cause => cause.message
  | longNumber =>
    "Exceeds the limit (4300 digits) for integer string conversion; " ++
      "use sys.set_int_max_str_digits() to increase the limit"
  | check cause => cause.message
  | outsideUnit value => Baseline.outsideText value
  | unknownLevel name => "Unknown level: " ++ quoted name
  | noCommand => "list index out of range"

/-- Work in the world that may fail; what was done before stays done. -/
abbrev Run := EStateM Fault World

namespace World

/-- A world in which nothing has happened yet. -/
def fresh (disk : Disk) (tools : Toolchain) : World :=
  ⟨disk, tools, Logging.silent, [], [], [], [], [], ""⟩

/-- The world with a line in one sink. -/
def writeLine (line : String) (world : World) : Sink → World
  | .console => { world with console := world.console ++ line }
  | .file id => { world with disk := world.disk.append id (encodeUtf8 line) }

/-- The world with one more record, and its line in every sink if it is severe enough. -/
def record (world : World) (entry : Record) : World :=
  let world := { world with records := world.records ++ [entry] }
  if entry.level.severity < world.logging.threshold then world
  else world.logging.sinks.foldl (writeLine entry.line) world

end World

namespace Run

def log (level : Level) (source : Source) (message : String) : Run Unit :=
  modify (·.record ⟨level, source, message⟩)

def print (line : String) : Run Unit :=
  modify fun world => { world with printed := world.printed ++ [line] }

def enter (phase : Phase) : Run Unit := do
  modify fun world => { world with phases := world.phases ++ [phase] }
  log .debug .gate ("Gate state -> " ++ phase.name)

/-- Work on the files of the world. -/
def files (work : Files α) : Run α := do
  let world ← get
  match work.run world.disk with
  | .ok value disk =>
    set { world with disk := disk }
    pure value
  | .error cause disk =>
    set { world with disk := disk }
    throw (.file cause)

/-- Puts a content at a path; directories above it are made. -/
def place (name : String) (content : Content) : Files Unit := do
  let path := Path.ofText name
  match content with
  | .absent => Files.discard path
  | .directory => Files.ensureDirectory path
  | .file bytes executable =>
    Files.ensureDirectory path.parent
    Files.write path bytes
    match executable with
    | some executable => Files.setExecutable path executable
    | none => pure ()

def placeAll (writes : List (String × Content)) : Files Unit :=
  writes.forM fun (name, content) => place name content

def hasTool (tool : String) : Run Bool := do
  modify fun world => { world with asked := world.asked ++ [tool] }
  pure (!(← get).tools.missing.contains tool)

/-- Runs a command in a directory and answers its exit code. -/
def command (directory : Path) (argv : List String) : Run Int := do
  modify fun world => { world with commands := world.commands ++ [⟨directory, argv⟩] }
  match (← get).tools.responses with
  | [] => pure 0
  | response :: later =>
    modify fun world => { world with tools := { world.tools with responses := later } }
    files (placeAll response.writes)
    pure response.code

end Run

end Gatekeeper
