import Gatekeeper.Number.Digits
import Gatekeeper.Settings

/-! The commands that build a project, test it and measure its coverage. Steps of the build stage come before
those of the report stage, wherever they stand in the list; steps of other stages are never run. -/

namespace Gatekeeper

open Number

inductive Stage where
  | build
  | report
  | other (name : String)
deriving DecidableEq, Repr

/-- A command with the tool it needs and a hint how to get that tool. -/
structure Step where
  name : String
  argv : List String
  stage : Stage
  requires : Option String
  hint : Option String
deriving DecidableEq, Repr

namespace Stage

def ofName (name : String) : Stage :=
  if name = "build" then build else if name = "report" then report else other name

def name : Stage → String
  | build => "build"
  | report => "report"
  | other name => name

end Stage

namespace Pipeline

def buildStep (name : String) (argv : List String) : Step :=
  ⟨name, argv, .build, some "cargo", some "https://rustup.rs"⟩

/-- The steps that build and check the project, whatever measures its coverage. -/
def buildSteps : List Step := [
  buildStep "Build (workspace)" ["cargo", "build", "--workspace"],
  buildStep "Test (workspace)" ["cargo", "test", "--workspace"],
  buildStep "Format check" ["cargo", "fmt", "--all", "--", "--check"],
  buildStep "Clippy (workspace, all-targets, all-features, deny warnings)"
    ["cargo", "clippy", "--workspace", "--all-targets", "--all-features", "--", "-D", "warnings"]]

/-- The step that writes a report in markup into the output directory. -/
def tarpaulinSteps (settings : Settings) : List Step := [
  ⟨"Coverage (tarpaulin)",
    ["cargo", "tarpaulin", "--workspace", "--timeout", signedText settings.coverageTimeout,
      "--out", "xml", "--output-dir", settings.paths.outputDir.text],
    .report, some "cargo-tarpaulin", some "cargo install cargo-tarpaulin"⟩]

/-- A step that measures in three commands. -/
def llvmCovStep (name : String) (argv : List String) : Step :=
  ⟨name, "cargo" :: "llvm-cov" :: argv, .report, some "cargo-llvm-cov",
    some "cargo install cargo-llvm-cov"⟩

/-- The files that are kept out of the totals: sources of other projects, of the toolchain, and built ones. -/
def ignoredFiles : String := "([\\\\/]\\.cargo[\\\\/]registry[\\\\/]|[\\\\/]target[\\\\/]|[\\\\/]rustc[\\\\/])"

/-- The steps that write line records to the place of the report. -/
def llvmCovSteps (settings : Settings) : List Step := [
  llvmCovStep "Clean llvm-cov state" ["clean", "--workspace"],
  llvmCovStep "Coverage (llvm-cov)" ["--workspace", "--all-targets", "--no-report"],
  llvmCovStep "LCOV report"
    ["report", "--lcov", "--output-path", settings.paths.report.text,
      "--ignore-filename-regex", ignoredFiles]]

def steps (settings : Settings) : List Step :=
  match settings.engine with
  | .llvmCov => buildSteps ++ llvmCovSteps settings
  | .tarpaulin => buildSteps ++ tarpaulinSteps settings

/-- The tools that have been found to be needed, with one more step taken into account. -/
def addTool (tools : List (String × Option String)) (step : Step) : List (String × Option String) :=
  match step.requires with
  | none => tools
  | some tool =>
    if tool.isEmpty || (tools.lookup tool).isSome then tools else tools ++ [(tool, step.hint)]

/-- Every tool that some steps need, once, in the order of first need, with the hint given there. -/
def requiredTools (steps : List Step) : List (String × Option String) :=
  steps.foldl addTool []

end Pipeline

end Gatekeeper
