import Gatekeeper.Files.Path
import Gatekeeper.Settings.Checked
import Gatekeeper.Settings.Environment

/-! The settings of a gate and where its files lie. Each setting is given, or else comes from the
environment, or has a value of its own; only a given value is checked. -/

namespace Gatekeeper

open Number Text

/-- The tool that measures coverage. -/
inductive Engine where
  | tarpaulin
  | llvmCov
deriving DecidableEq, Repr

/-- When the stored ratio is replaced. -/
inductive BaselinePolicy where
  | always
  | passOnly
deriving DecidableEq, Repr

namespace Engine

def name : Engine → String
  | tarpaulin => "tarpaulin"
  | llvmCov => "llvm-cov"

def ofName? (name : String) : Option Engine :=
  if name = "tarpaulin" then some tarpaulin else if name = "llvm-cov" then some llvmCov else none

def reportName : Engine → String
  | tarpaulin => "cobertura.xml"
  | llvmCov => "lcov.info"

end Engine

namespace BaselinePolicy

def name : BaselinePolicy → String
  | always => "always"
  | passOnly => "pass-only"

def ofName? (name : String) : Option BaselinePolicy :=
  if name = "always" then some always else if name = "pass-only" then some passOnly else none

end BaselinePolicy

structure Settings where
  minCoverage : Int
  maxDrop : Binary64
  engine : Engine
  projectDir : String
  outputDir : String
  reportPath : Option String
  baselinePath : Option String
  coverageTimeout : Int
  baselinePolicy : BaselinePolicy
  skipPipeline : Bool
  logLevel : String
deriving DecidableEq, Repr

/-- Why settings cannot be checked at all: a number in the environment, or a value of a kind that has no
lower case. -/
inductive SettingsFailure where
  | environment (cause : EnvironmentError)
  | noLowerCase (kind : String)
deriving DecidableEq, Repr

def SettingsFailure.message : SettingsFailure → String
  | environment cause => cause.message
  | noLowerCase kind => quoted kind ++ " object has no attribute 'lower'"

inductive SettingsError where
  | invalid (problems : List Problem)
  | failed (cause : SettingsFailure)
deriving DecidableEq, Repr

/-- Values by the name of their setting. -/
abbrev GivenValues := List (String × Given)

namespace Settings

/-- The names of the log levels that may be given, in alphabetical order. -/
def logLevels : List String := ["CRITICAL", "DEBUG", "ERROR", "INFO", "WARNING"]

/-- A minimum is a percentage. -/
def checkMinimum (value : Int) : Except Complaint Int :=
  if 0 ≤ value && value ≤ 100 then .ok value
  else
    .error (.rejected ("COVGATE_MIN_COVERAGE must be between 0 and 100, got " ++ signedText value))

/-- A greatest drop is finite and not negative. -/
def checkMaxDrop (value : Binary64) : Except Complaint Binary64 :=
  if value.isFinite && !value.isBelowZero then .ok value
  else
    .error (.rejected
      ("COVGATE_MAX_DROP must be a finite, non-negative number, got " ++ value.text))

/-- A log level is known in any case of letters, and the empty text means the usual one. -/
def checkLogLevel (value : String) : Except Complaint String :=
  let level := upper (if value.isEmpty then "INFO" else value)
  if logLevels.contains level then .ok level
  else
    let choices := ", ".intercalate (logLevels.map quoted)
    .error (.rejected ("COVGATE_LOG_LEVEL must be one of [" ++ choices ++ "], got " ++ level))

abbrev Validated := Checked SettingsFailure

/-- A setting: its given value if there is one, else what the environment has. -/
def take (given : GivenValues) (setting : String) (fromGiven : Given → Except Complaint α)
    (otherwise : Except EnvironmentError α) : Validated α :=
  match given.lookup setting with
  | some value => Checked.ofCheck setting (fromGiven value)
  | none => Checked.ofExcept (otherwise.mapError .environment)

/-- A setting with a few choices, known in any case of letters. A value that counts as nothing is none of
them. -/
def takeChoice (given : GivenValues) (setting : String) (choices : List String)
    (ofName? : String → Option α) (otherwise : α) : Validated α :=
  let choose (name : String) : Validated α :=
    match ofName? name with
    | some choice => .accepted choice
    | none => .refused [⟨setting, .notChosen choices⟩]
  match given.lookup setting with
  | none => .accepted otherwise
  | some (.text name) => choose (String.ofList (name.toList.map Char.toLower))
  | some value => if value.isNothing then choose "" else .failed (.noLowerCase value.kind)

/-- The engine that the environment names; an unknown name means the usual one. -/
def environmentEngine (env : Environment) : Engine :=
  (Engine.ofName? (env.lower "COVGATE_ENGINE" "tarpaulin")).getD .tarpaulin

/-- The policy that the environment names; an unknown name means the usual one. -/
def environmentPolicy (env : Environment) : BaselinePolicy :=
  (BaselinePolicy.ofName? (env.lower "COVGATE_BASELINE_POLICY" "always")).getD .always

/-- All settings under validation, in the order in which they are checked. -/
def validate [Coercions] (given : GivenValues) (env : Environment) : Validated Settings :=
  Settings.mk
    <$> take given "min_coverage" (fun value => (Coercions.integer value).bind checkMinimum)
      (env.integer "COVGATE_MIN_COVERAGE" "20")
    <*> take given "max_drop" (fun value => (Coercions.number value).bind checkMaxDrop)
      (env.number "COVGATE_MAX_DROP" "10")
    <*> takeChoice given "engine" ["tarpaulin", "llvm-cov"] Engine.ofName? (environmentEngine env)
    <*> take given "project_dir" Given.toText (.ok (env.getOr "COVGATE_PROJECT_DIR" "."))
    <*> take given "output_dir" Given.toText (.ok (env.getOr "COVGATE_OUTPUT_DIR" "coverage"))
    <*> take given "report_path" Given.toOptionalText (.ok (env.lookup "COVGATE_REPORT_PATH"))
    <*> take given "baseline_path" Given.toOptionalText (.ok (env.lookup "COVGATE_BASELINE_PATH"))
    <*> take given "coverage_timeout" (fun value => (Coercions.integer value).map (max 1))
      (env.integer "COVGATE_COVERAGE_TIMEOUT" "300")
    <*> takeChoice given "baseline_policy" ["always", "pass-only"] BaselinePolicy.ofName?
      (environmentPolicy env)
    <*> take given "skip_pipeline" Coercions.truth (.ok false)
    <*> take given "log_level" (fun value => value.toText.bind checkLogLevel)
      (.ok (env.getOr "COVGATE_LOG_LEVEL" "INFO"))

def make [Coercions] (given : GivenValues) (env : Environment) : Except SettingsError Settings :=
  match validate given env with
  | .accepted settings => .ok settings
  | .refused problems => .error (.invalid problems)
  | .failed cause => .error (.failed cause)

/-- The settings of the environment alone, made once: those that are remembered stay as they are. -/
def ofMemory [Coercions] (remembered : Option Settings) (env : Environment) : Except SettingsError Settings :=
  match remembered with
  | some settings => .ok settings
  | none => make [] env

end Settings

/-- Where the files of a gate lie. -/
structure GatePaths where
  projectDir : Path
  outputDir : Path
  report : Path
  baseline : Path
deriving DecidableEq, Repr

namespace Settings

/-- A path that is given counts from the project; without one there is another. -/
def placed (project : Path) (text : Option String) (otherwise : Path) : Path :=
  match text with
  | some text => if text.isEmpty then otherwise else project.join (Path.ofText text)
  | none => otherwise

/-- Where the files lie. Relative paths count from the project; the report and the stored ratio lie in the
output directory unless their paths are given. -/
def paths (settings : Settings) : GatePaths :=
  let project := Path.ofText settings.projectDir
  let output := project.join (Path.ofText settings.outputDir)
  ⟨project, output,
    placed project settings.reportPath (output.child settings.engine.reportName),
    placed project settings.baselinePath (output.child "baseline.txt")⟩

end Settings

end Gatekeeper
