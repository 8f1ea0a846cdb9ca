import Gatekeeper.CommandLine

/-! The program. Files are read into the world before a call is answered, and written back after it; no
commands are run here, so that without `--report-only` every tool counts as missing. -/

namespace Gatekeeper.Program

open CommandLine

/-- The texts of the environment that settings may come from. -/
def environmentNames : List String := [
  "COVGATE_MIN_COVERAGE", "COVGATE_MAX_DROP", "COVGATE_ENGINE", "COVGATE_PROJECT_DIR",
  "COVGATE_OUTPUT_DIR", "COVGATE_REPORT_PATH", "COVGATE_BASELINE_PATH", "COVGATE_COVERAGE_TIMEOUT",
  "COVGATE_BASELINE_POLICY", "COVGATE_LOG_LEVEL"]

/-- The files that a call may touch. -/
def touched (env : Environment) (options : Options) : List Path :=
  match Settings.make options.given env with
  | .error _ => []
  | .ok settings =>
    let paths := settings.paths
    [paths.report, paths.baseline] ++ (options.logFile.map Path.ofText).toList

/-- A location and all above it, the uppermost first. -/
def chain (place : Location) : List Location :=
  (List.range (place.length + 1)).map fun count => place.take count

def locationText (place : Location) : String :=
  "/" ++ "/".intercalate place

/-- The disk with what really stands at a location. -/
def load (disk : Disk) (place : Location) : IO Disk := do
  let file := (← IO.currentDir) / locationText place
  if (disk.node? place).isSome then pure disk
  else if ← file.isDir then pure (disk.put place .directory)
  else if ← file.pathExists then
    let bytes ← IO.FS.readBinFile file
    pure (disk.create place false bytes.toList)
  else pure disk

/-- Writes back what a call has changed at a location. -/
def save (before after : Disk) (place : Location) : IO Unit := do
  let text := locationText place
  match before.node? place, after.node? place with
  | none, some .directory => IO.FS.createDirAll text
  | some (.file ..), none => IO.FS.removeFile text
  | _, some (.file _ _ bytes) =>
    if before.bytes? place ≠ some bytes then
      let written := text ++ ".new"
      IO.FS.writeBinFile written (ByteArray.mk bytes.toArray)
      IO.FS.rename written text
  | _, _ => pure ()

def readEnvironment : IO Environment := do
  let found ← environmentNames.mapM fun name => do
    pure ((← IO.getEnv name).map fun value => (name, value))
  pure (found.filterMap id)

/-- The options of a call that runs the gate; any other call touches no files. -/
def options? (words : List String) : Option Options :=
  match Request.ofWords words with
  | .ok (.run options) => some options
  | _ => none

def answer (env : Environment) (words : List String) : IO UInt32 := do
  let home := ((← IO.currentDir).toString.splitOn "/").filter (· ≠ "")
  let paths := ((options? words).map (touched env)).getD []
  let places := paths.flatMap fun path => chain (Files.nominal home path)
  let before ← places.foldlM load (Disk.empty home)
  let missing := ["cargo", "cargo-tarpaulin", "cargo-llvm-cov"]
  let (code, after) : UInt32 × World :=
    match (call env words).run (World.fresh before ⟨missing, []⟩) with
    | .ok code world => (code.toUInt32, world)
    | .error fault world => (1, { world with console := world.console ++ fault.message ++ "\n" })
  places.forM (save before after.disk)
  after.printed.forM IO.println
  IO.eprint after.console
  pure code

end Gatekeeper.Program

def main (words : List String) : IO UInt32 := do
  Gatekeeper.Program.answer (← Gatekeeper.Program.readEnvironment) words
