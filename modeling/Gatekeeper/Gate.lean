import Gatekeeper.Number.Binary64Text
import Gatekeeper.Verdict

/-! The gate. A run builds and measures the project, reads the report, checks the ratio against the minimum
and against the stored ratio, and stores it. A missing tool, a failing step or an unreadable report breaks
the run off and leaves the stored ratio alone; a ratio below the minimum is not compared any further, but
may still be stored. -/

namespace Gatekeeper

open Number Text

structure Gate where
  settings : Settings
  steps : List Step

def Gate.ofSettings (settings : Settings) : Gate :=
  ⟨settings, Pipeline.steps settings⟩

namespace Gate

/-- Work that may be broken off. -/
abbrev Attempt := ExceptT Abort Run

/-- The stored ratio; a file that holds none counts as missing. -/
def loadBaseline (path : Path) : Run (Option Decimal) := do
  match Baseline.load (← get).disk path with
  | .ok ratio => pure ratio
  | .error (.corrupt content) =>
    Run.log .warning .gate (Baseline.corruptText path content ++ "; treating as no baseline")
    pure none
  | .error (.file cause) => throw (.file cause)

/-- Looks up the tools one after the other; the first missing one breaks the run off. -/
def checkTools : List (String × Option String) → Attempt Unit
  | [] => pure ()
  | (tool, hint) :: rest => do
    if ← (Run.hasTool tool : Run Bool) then checkTools rest else throw (.toolMissing tool hint)

/-- Runs steps one after the other; the first failing one breaks the run off. -/
def runSteps (directory : Path) : List Step → Attempt Unit
  | [] => pure ()
  | step :: rest => do
    (Run.print ("==> " ++ step.name) : Run Unit)
    let code ← (Run.command directory step.argv : Run Int)
    if code = 0 then runSteps directory rest else throw (.stepFailed step.name code)

def runStage (gate : Gate) (stage : Stage) : Attempt Unit :=
  runSteps gate.settings.paths.projectDir (gate.steps.filter fun step => step.stage = stage)

/-- Removes an earlier report and makes room for the new one. -/
def clearReport (path : Path) : Run Unit := do
  if ← Run.files (Files.pathExists path) then
    Run.log .debug .gate ("Removing stale report " ++ path.text)
    Run.files (Files.remove path)
  Run.files (Files.ensureDirectory path.parent)

def recordReport (report : Report) : Run Unit := do
  report.ignored.forM fun text =>
    Run.log .debug .report
      ("Ignoring malformed secondary " ++ lineRate ++ "=" ++ quoted text ++ " in " ++ report.path.text)
  Run.log .debug .report
    ("Parsed " ++ report.format.name ++ " report " ++ report.path.text ++ ": " ++
      signedText report.ratios.length ++ " ratio(s)")

def fetchReport (path : Path) (asked : String) : Run (Except ReportError Report) := do
  let result := Report.read (← get).disk path asked
  match result with
  | .ok report => recordReport report
  | .error _ => pure ()
  pure result

/-- The ratio of the report. A report that is missing or unreadable breaks the run off. -/
def readReport (path : Path) : Attempt Decimal := do
  match ← (fetchReport path "" : Run (Except ReportError Report)) with
  | .ok report => pure report.total
  | .error .missing => throw (.reportMissing path)
  | .error (.unreadable defect) => throw (.reportUnparseable path defect)
  | .error (.charset cause) => (throw (Fault.charset cause) : Run Decimal)
  | .error .longNumber => (throw Fault.longNumber : Run Decimal)
  | .error (.file cause) => (throw (Fault.file cause) : Run Decimal)

/-- Builds the project and has its coverage measured, if all tools are at hand. -/
def runPipeline (gate : Gate) : Attempt Unit := do
  checkTools (Pipeline.requiredTools gate.steps)
  (Run.enter .buildAndTest : Run Unit)
  gate.runStage .build
  (Run.enter .generateReport : Run Unit)
  (clearReport gate.settings.paths.report : Run Unit)
  gate.runStage .report

/-- Comes past the stations of building and measuring and does nothing there. -/
def passPipeline : Attempt Unit := do
  (Run.enter .buildAndTest : Run Unit)
  (Run.enter .generateReport : Run Unit)

/-- The way to the report. In report-only mode the report is taken as it lies there. -/
def reachReport (gate : Gate) : Attempt Unit :=
  if gate.settings.skipPipeline then passPipeline else gate.runPipeline

/-- The ratio of the report that a run reaches. -/
def measure (gate : Gate) : Attempt Decimal := do
  gate.reachReport
  (Run.enter .parse : Run Unit)
  (Run.print "==> Coverage threshold check" : Run Unit)
  readReport gate.settings.paths.report

def breakOff (baseline : Option Decimal) (abort : Abort) : Run Outcome := do
  let name := abort.verdict.name
  Run.print abort.reason
  Run.log .error .gate ("Coverage gate aborted (" ++ name ++ "): " ++ abort.reason)
  Run.enter .exit
  Run.print ("Coverage gate FAILED [" ++ name ++ "]")
  pure ⟨abort.verdict, abort.reason, none, none, baseline, none, false, (← get).phases⟩

/-- The result of a check, or the failure to make it. -/
def checked (result : Except CheckError α) : Run α :=
  match result with
  | .ok value => pure value
  | .error cause => throw (.check cause)

def percentText (percent : Int) : Run String :=
  match wholeText? percent with
  | some text => pure (text ++ "%")
  | none => throw .longNumber

structure Judgement where
  verdict : Verdict
  reason : String
  drop : Option Binary64
deriving DecidableEq, Repr

/-- What is said of a percentage that is not below the minimum. -/
def meetsText (settings : Settings) (percent : Int) : Run String := do
  pure ("Coverage " ++ (← percentText percent) ++ " meets minimum " ++ (← percentText settings.minCoverage))

/-- The judgement on a ratio that is good enough, against the stored one. -/
def judgeRegression (settings : Settings) (ratio : Decimal) (percent : Int)
    (baseline : Option Decimal) : Run Judgement := do
  Run.print "Coverage meets minimum threshold"
  Run.enter .checkRegression
  let check ← checked
    (checkRegression (.finite ratio) (baseline.map Numeral.finite) settings.maxDrop)
  match check.comparison with
  | none =>
    Run.print "No baseline coverage found, setting current coverage as baseline"
    let meets ← meetsText settings percent
    pure ⟨.pass, meets ++ "; no baseline yet", none⟩
  | some comparison =>
    let earlier ← percentText comparison.baselinePercent
    let limit := settings.maxDrop.briefText
    Run.print ("Baseline coverage: " ++ earlier)
    Run.print
      ("Coverage drop: " ++ comparison.drop.signedTenths ++ " points (max " ++ limit ++ ")")
    if check.passed then
      let meets ← meetsText settings percent
      let reason := meets ++ " and is within " ++ limit ++ " points of baseline " ++ earlier
      Run.print "Coverage change is within acceptable range"
      pure ⟨.pass, reason, some comparison.drop⟩
    else
      let reason :=
        "Coverage dropped by " ++ comparison.drop.briefText ++ " points, more than " ++ limit ++
          " (from " ++ earlier ++ " to " ++ (← percentText percent) ++ ")"
      Run.print reason
      pure ⟨.regression, reason, some comparison.drop⟩

/-- The judgement on a ratio: first against the minimum, then against the stored one. -/
def judge (settings : Settings) (ratio : Decimal) (percent : Int) (baseline : Option Decimal) :
    Run Judgement := do
  let check ← checked (checkThreshold (.finite ratio) settings.minCoverage)
  if check.passed then judgeRegression settings ratio percent baseline
  else
    let reason :=
      "Coverage " ++ (← percentText check.percent) ++ " is below minimum threshold of " ++
        (← percentText check.minimum) ++ " (line-rate " ++ ratio.text ++ ")"
    Run.print reason
    pure ⟨.belowMinimum, reason, none⟩

/-- Stores a numeral, if it is a ratio in the unit interval. -/
def storeNumeral (path : Path) (value : Numeral) : Run Unit := do
  let (result, disk) := Baseline.save (← get).disk path value
  modify fun world => { world with disk := disk }
  match result with
  | .ok value =>
    Run.log .debug .baseline ("Stored baseline " ++ value.text ++ " in " ++ path.text)
  | .error (.outsideUnit value) => throw (.outsideUnit value)
  | .error (.file cause) => throw (.file cause)

/-- The text of the stored ratio, or the word for none. -/
def baselineText : Option Decimal → String
  | some ratio => ratio.text
  | none => "None"

/-- Stores the ratio, if the policy says so for this verdict. -/
def updateBaseline (settings : Settings) (verdict : Verdict) (ratio : Decimal)
    (baseline : Option Decimal) : Run Bool := do
  let path := settings.paths.baseline
  if settings.baselinePolicy = .always || verdict.passed then
    storeNumeral path (.finite ratio)
    Run.log .info .gate ("Baseline " ++ path.text ++ " updated to " ++ ratio.text)
    pure true
  else
    Run.log .info .gate
      ("Baseline left at " ++ baselineText baseline ++ " (policy " ++ settings.baselinePolicy.name ++ ")")
    pure false

/-- Tells the verdict and ends the run. -/
def close (ratio : Decimal) (percent : Int) (baseline : Option Decimal) (judgement : Judgement)
    (updated : Bool) : Run Outcome := do
  Run.enter .exit
  Run.print (if judgement.verdict.passed then "Coverage gate PASSED: " ++ judgement.reason
    else "Coverage gate FAILED [" ++ judgement.verdict.name ++ "]: " ++ judgement.reason)
  pure ⟨judgement.verdict, judgement.reason, some ratio, some percent, baseline, judgement.drop,
    updated, (← get).phases⟩

/-- Judges a ratio, stores it and ends the run. -/
def conclude (settings : Settings) (ratio : Decimal) (baseline : Option Decimal) : Run Outcome := do
  let percent ← checked (toPercent (.finite ratio))
  Run.print ("Current coverage: " ++ (← percentText percent))
  Run.enter .checkThreshold
  let judgement ← judge settings ratio percent baseline
  Run.enter .updateBaseline
  let updated ← updateBaseline settings judgement.verdict ratio baseline
  close ratio percent baseline judgement updated

def run (gate : Gate) : Run Outcome := do
  modify fun world => { world with phases := [] }
  Run.enter .start
  let baseline ← loadBaseline gate.settings.paths.baseline
  match ← gate.measure.run with
  | .ok ratio => conclude gate.settings ratio baseline
  | .error abort => breakOff baseline abort

end Gate

end Gatekeeper
