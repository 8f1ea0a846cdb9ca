import Gatekeeper.Proofs.Baseline.Content
import Gatekeeper.Proofs.Gate.Pipeline
import Gatekeeper.Proofs.Number.Binary64Value
import Gatekeeper.Proofs.Report.Range

/-! The verdict of a run. Each verdict has a cause that can be told from the gate, the disk and the script
before the run; the verdict of an outcome is the first one whose cause is there. Drops are compared with
their limit as numbers: where the rounding of a drop could matter, no outcome passes. -/

namespace Gatekeeper

open Work Files

namespace Gate

theorem load_of_known_eq_some {disk : Disk} {path : Path} {ratio : Decimal}
    (h : known disk path = some ratio) : Baseline.load disk path = .ok (some ratio) := by
  rw [known] at h
  split at h
  · rename_i hload
    rw [hload, h]
  · cases h

/-- Whether the cause of a verdict is there. -/
def Applies (gate : Gate) (disk : Disk) (tools : Toolchain) : Verdict → Prop
  | .toolMissing => gate.settings.skipPipeline = false ∧
      ∃ entry ∈ Pipeline.requiredTools gate.steps, entry.1 ∈ tools.missing
  | .stepFailed => gate.settings.skipPipeline = false ∧
      ∃ entry ∈ gate.plan.zip tools.responses, entry.2.code ≠ 0
  | .reportMissing => content? (gate.atParse disk tools) gate.settings.paths.report = none
  | .reportUnparseable => ∃ defect,
      Report.read (gate.atParse disk tools) gate.settings.paths.report "" = .error (.unreadable defect)
  | .belowMinimum => ∃ report percent,
      Report.read (gate.atParse disk tools) gate.settings.paths.report "" = .ok report ∧
      toPercent (.finite report.total) = .ok percent ∧ percent < gate.settings.minCoverage
  | .regression => ∃ report percent earlier earlierPercent,
      Report.read (gate.atParse disk tools) gate.settings.paths.report "" = .ok report ∧
      toPercent (.finite report.total) = .ok percent ∧
      Baseline.load disk gate.settings.paths.baseline = .ok (some earlier) ∧
      toPercent (.finite earlier) = .ok earlierPercent ∧
      ¬gate.settings.maxDrop.Allows (earlierPercent - percent)
  | .pass => True

/-- The verdicts in the order in which their causes count. -/
def precedence : List Verdict :=
  [.toolMissing, .stepFailed, .reportMissing, .reportUnparseable, .belowMinimum, .regression, .pass]

/-- Whether a verdict is the first one with a property. -/
def IsFirst (holds : Verdict → Prop) (verdict : Verdict) : Prop :=
  ∃ earlier later, precedence = earlier ++ verdict :: later ∧ holds verdict ∧
    ∀ other ∈ earlier, ¬holds other

theorem isFirst_of_forall {holds : Verdict → Prop} {verdict : Verdict} {later : List Verdict}
    (earlier : List Verdict) (hsplit : precedence = earlier ++ verdict :: later) (hholds : holds verdict)
    (hnone : earlier.Forall fun other => ¬holds other) : IsFirst holds verdict :=
  ⟨earlier, later, hsplit, hholds, List.forall_iff_forall_mem.mp hnone⟩

theorem IsFirst.holds {holds : Verdict → Prop} {verdict : Verdict} (h : IsFirst holds verdict) :
    holds verdict := by
  obtain ⟨_, _, -, hholds, -⟩ := h
  exact hholds

theorem failure?_eq_none_iff {steps : List Step} {responses : List Response} :
    failure? steps responses = none ↔ ¬∃ entry ∈ steps.zip responses, entry.2.code ≠ 0 := by
  simp [failure?]

theorem wayResult_eq_ok_iff {gate : Gate} {tools : Toolchain} (disk : Disk) :
    gate.wayResult tools = .ok () ↔
      ¬gate.Applies disk tools .toolMissing ∧ ¬gate.Applies disk tools .stepFailed := by
  rw [wayResult, Applies, Applies]
  cases gate.settings.skipPipeline with
  | true => simp
  | false =>
      simp only [Bool.false_eq_true, if_false, true_and]
      rw [← missingTool?_eq_none_iff, ← failure?_eq_none_iff, pipelineResult, stepsResult]
      cases missingTool? tools (Pipeline.requiredTools gate.steps) with
      | some entry => simp
      | none =>
          cases failure? gate.plan tools.responses with
          | some entry => simp
          | none => simp

/-- A run that is broken off on the way to the report has the first cause of the two. -/
theorem isFirst_of_wayResult_eq_error {gate : Gate} {tools : Toolchain} {abort : Abort} (disk : Disk)
    (h : gate.wayResult tools = .error abort) :
    IsFirst (gate.Applies disk tools) abort.verdict ∧
      ((∃ tool hint, missingTool? tools (Pipeline.requiredTools gate.steps) = some (tool, hint) ∧
          abort = .toolMissing tool hint) ∨
        ∃ step code, failure? gate.plan tools.responses = some (step, code) ∧
          abort = .stepFailed step.name code) := by
  rw [wayResult] at h
  split at h
  · cases h
  · rename_i hpipeline
    rw [Bool.not_eq_true] at hpipeline
    rw [pipelineResult] at h
    split at h
    · rename_i tool hint hmissing
      cases h
      have hcause : ∃ entry ∈ Pipeline.requiredTools gate.steps, entry.1 ∈ tools.missing := by
        by_contra hnone
        rw [missingTool?_eq_none_iff.mpr hnone] at hmissing
        cases hmissing
      refine ⟨?_, .inl ⟨tool, hint, hmissing, rfl⟩⟩
      exact isFirst_of_forall [] rfl ⟨hpipeline, hcause⟩ trivial
    · rename_i hmissing
      rw [stepsResult] at h
      split at h
      · rename_i step code hfailure
        cases h
        have hcause : ∃ entry ∈ gate.plan.zip tools.responses, entry.2.code ≠ 0 := by
          by_contra hnone
          rw [failure?_eq_none_iff.mpr hnone] at hfailure
          cases hfailure
        have hfound : ¬gate.Applies disk tools .toolMissing :=
          fun happlies => missingTool?_eq_none_iff.mp hmissing happlies.2
        refine ⟨?_, .inr ⟨step, code, hfailure, rfl⟩⟩
        exact isFirst_of_forall [.toolMissing] rfl ⟨hpipeline, hcause⟩ hfound
      · cases h

theorem content?_eq_none_iff_of_readResult {disk : Disk} {path : Path} {result : Except Abort Decimal}
    (h : readResult disk path = some result) :
    content? disk path = none ↔ result = .error (.reportMissing path) := by
  rw [readResult] at h
  constructor
  · intro hnone
    rcases Report.read_of_content?_eq_none hnone "" with hread | ⟨cause, hread⟩
    · rw [hread] at h
      cases h
      rfl
    · rw [hread] at h
      cases h
  · intro hresult
    split at h <;> cases h <;> cases hresult
    rename_i hread
    exact Report.content?_of_read_eq_missing hread

/-- A drop that was compared after rounding is within its limit as a number when the ratio passes, and not
within it when the ratio does not pass. A ratio that passes is one that can be stored, so that both
percentages are small and the drop is exact. -/
theorem allows_of_passed {settings : Settings} {ratio earlier : Decimal} {percent earlierPercent : Int}
    {drop : Binary64} (hratio : ratio.inUnit = true) (hearlier : earlier.inUnit = true)
    (hpercent : toPercent (.finite ratio) = .ok percent)
    (hearlierPercent : toPercent (.finite earlier) = .ok earlierPercent)
    (hdrop : Binary64.ofInt? (earlierPercent - percent) = some drop)
    (hle : drop.le settings.maxDrop = true) : settings.maxDrop.Allows (earlierPercent - percent) := by
  obtain ⟨hlow, hhigh⟩ := toPercent_bounds hratio hpercent
  obtain ⟨hlow', hhigh'⟩ := toPercent_bounds hearlier hearlierPercent
  exact (Binary64.le_iff_allows hdrop (by omega)).mp hle

/-- The verdict of a ratio that is good enough tells whether there is a regression. -/
theorem regression_iff_of_judge {gate : Gate} {disk : Disk} {tools : Toolchain} {report : Report}
    {percent : Int} {check : RegressionCheck}
    (hread : Report.read (gate.atParse disk tools) gate.settings.paths.report "" = .ok report)
    (hpercent : toPercent (.finite report.total) = .ok percent)
    (hcheck : checkRegression (.finite report.total)
      ((known disk gate.settings.paths.baseline).map Numeral.finite) gate.settings.maxDrop = .ok check)
    (hunit : check.passed = true → report.total.inUnit = true) :
    gate.Applies disk tools .regression ↔ check.passed = false := by
  rcases of_checkRegression_eq_ok hpercent hcheck with
    ⟨hnone, -, hpassed⟩ | ⟨numeral, earlierPercent, drop, hsome, hearlierPercent, hdrop, -, hpassed⟩
  · rw [hpassed]
    constructor
    · rintro ⟨_, _, earlier, _, -, -, hload, -⟩
      rw [known, hload] at hnone
      cases hnone
    · intro hfalse
      cases hfalse
  · obtain ⟨earlier, hknown, rfl⟩ := Option.map_eq_some_iff.mp hsome
    have hload := load_of_known_eq_some hknown
    have hearlier := Baseline.inUnit_of_load_eq_some hload
    rw [hpassed] at hunit ⊢
    constructor
    · rintro ⟨other, otherPercent, loaded, loadedPercent, hother, hotherPercent, hloaded,
        hloadedPercent, hdrops⟩
      rw [hread] at hother
      cases hother
      rw [hpercent] at hotherPercent
      cases hotherPercent
      rw [hload] at hloaded
      cases hloaded
      rw [hearlierPercent] at hloadedPercent
      cases hloadedPercent
      by_contra hle
      rw [Bool.not_eq_false] at hle
      exact hdrops (allows_of_passed (hunit hle) hearlier hpercent hearlierPercent hdrop hle)
    · intro hle
      refine ⟨report, percent, earlier, earlierPercent, hread, hpercent, hload, hearlierPercent, ?_⟩
      intro hallows
      rw [Binary64.le_of_allows hdrop hallows] at hle
      cases hle

theorem not_applies_of_read_eq_ok {gate : Gate} {disk : Disk} {tools : Toolchain} {report : Report}
    (hread : Report.read (gate.atParse disk tools) gate.settings.paths.report "" = .ok report) :
    ¬gate.Applies disk tools .reportMissing ∧ ¬gate.Applies disk tools .reportUnparseable := by
  constructor
  · obtain ⟨bytes, hcontent, -⟩ := Report.of_read_eq_ok hread
    rw [Applies, hcontent]
    exact Option.some_ne_none bytes
  · rintro ⟨defect, hdefect⟩
    rw [hread] at hdefect
    cases hdefect

theorem belowMinimum_iff {gate : Gate} {disk : Disk} {tools : Toolchain} {report : Report} {percent : Int}
    (hread : Report.read (gate.atParse disk tools) gate.settings.paths.report "" = .ok report)
    (hpercent : toPercent (.finite report.total) = .ok percent) :
    gate.Applies disk tools .belowMinimum ↔ percent < gate.settings.minCoverage := by
  constructor
  · rintro ⟨other, otherPercent, hother, hotherPercent, hless⟩
    rw [hread] at hother
    cases hother
    rw [hpercent] at hotherPercent
    cases hotherPercent
    exact hless
  · exact fun hless => ⟨report, percent, hread, hpercent, hless⟩

/-- The verdict of a run that has come to a conclusion is the first of the last three whose cause is there. -/
theorem isFirst_of_conclude_eq_ok {gate : Gate} {disk : Disk} {tools : Toolchain} {report : Report}
    {outcome : Outcome} {world after : World} (hlog : world.LogsNoFile)
    (hway : ¬gate.Applies disk tools .toolMissing ∧ ¬gate.Applies disk tools .stepFailed)
    (hread : Report.read (gate.atParse disk tools) gate.settings.paths.report "" = .ok report)
    (h : (conclude gate.settings report.total (known disk gate.settings.paths.baseline)).run world =
      .ok outcome after) :
    IsFirst (gate.Applies disk tools) outcome.verdict := by
  obtain ⟨percent, judgement, judging, judged, hpercent, hjudged, houtcome, hupdates⟩ :=
    of_conclude_eq_ok h
  obtain ⟨hmissing, hunparseable⟩ := not_applies_of_read_eq_ok hread
  have hminimum := belowMinimum_iff hread hpercent
  have hverdict : outcome.verdict = judgement.verdict := by rw [houtcome]
  rw [hverdict]
  rcases of_judge_eq_ok hpercent hjudged with ⟨hlow, hjudgement⟩ | ⟨hgood, check, hcheck, hjudgement⟩
  · rw [hjudgement]
    exact isFirst_of_forall [.toolMissing, .stepFailed, .reportMissing, .reportUnparseable] rfl
      (hminimum.mpr hlow) ⟨hway.1, hway.2, hmissing, hunparseable⟩
  · have hbelow : ¬gate.Applies disk tools .belowMinimum := mt hminimum.mp (not_lt.mpr hgood)
    have hunit : check.passed = true → report.total.inUnit = true := by
      intro hpassed
      rw [hpassed, if_pos rfl] at hjudgement
      have hstores : Stores gate.settings judgement.verdict := .inr hjudgement
      rw [decide_eq_true hstores] at hupdates
      exact (hupdates hlog).2.1
    have hregression : gate.Applies disk tools .regression ↔ check.passed = false :=
      regression_iff_of_judge hread hpercent hcheck hunit
    cases hpassed : check.passed with
    | false =>
        rw [hpassed, if_neg Bool.false_ne_true] at hjudgement
        rw [hjudgement]
        exact isFirst_of_forall
          [.toolMissing, .stepFailed, .reportMissing, .reportUnparseable, .belowMinimum] rfl
          (hregression.mpr hpassed) ⟨hway.1, hway.2, hmissing, hunparseable, hbelow⟩
    | true =>
        rw [hpassed, if_pos rfl] at hjudgement
        rw [hjudgement]
        have hnone : ¬gate.Applies disk tools .regression := by
          rw [hregression, hpassed]
          exact Bool.false_ne_true.symm
        exact isFirst_of_forall
          [.toolMissing, .stepFailed, .reportMissing, .reportUnparseable, .belowMinimum, .regression] rfl
          trivial ⟨hway.1, hway.2, hmissing, hunparseable, hbelow, hnone⟩

theorem isFirst_of_readResult_eq_error {gate : Gate} {disk : Disk} {tools : Toolchain} {abort : Abort}
    (hway : ¬gate.Applies disk tools .toolMissing ∧ ¬gate.Applies disk tools .stepFailed)
    (h : readResult (gate.atParse disk tools) gate.settings.paths.report = some (.error abort)) :
    IsFirst (gate.Applies disk tools) abort.verdict := by
  have hmissing := content?_eq_none_iff_of_readResult h
  rw [readResult] at h
  split at h
  · cases h
  · cases h
    exact isFirst_of_forall [.toolMissing, .stepFailed] rfl (hmissing.mpr rfl) hway
  · rename_i defect hread
    cases h
    have hfound : ¬gate.Applies disk tools .reportMissing := by
      intro hnone
      cases hmissing.mp hnone
    exact isFirst_of_forall [.toolMissing, .stepFailed, .reportMissing] rfl ⟨defect, hread⟩
      ⟨hway.1, hway.2, hfound⟩
  · cases h

/-- The verdict of an outcome is the first one whose cause is there. A missing tool that is told of is the
first missing one, a failing step the first failing one, and the exit code is zero exactly for a pass. -/
theorem run_verdict_isFirst {gate : Gate} {outcome : Outcome} {world after : World}
    (hlog : world.LogsNoFile) (h : gate.run.run world = .ok outcome after) :
    IsFirst (gate.Applies world.disk world.tools) outcome.verdict ∧
      (outcome.verdict = .toolMissing → ∃ tool hint,
        missingTool? world.tools (Pipeline.requiredTools gate.steps) = some (tool, hint) ∧
        outcome.reason = (Abort.toolMissing tool hint).reason) ∧
      (outcome.verdict = .stepFailed → ∃ step code,
        failure? gate.plan world.tools.responses = some (step, code) ∧
        outcome.reason = (Abort.stepFailed step.name code).reason) ∧
      (outcome.exitCode = 0 ↔ outcome.verdict = .pass) := by
  have hexit : outcome.exitCode = 0 ↔ outcome.verdict = .pass := by
    rw [Outcome.exitCode, Verdict.passed]
    by_cases hpass : outcome.verdict = .pass <;> simp [hpass]
  obtain ⟨ready, measured, reached, hready, hmeasured, h⟩ := of_run_eq_ok hlog h
  obtain ⟨hlogReady, hdisk, htools⟩ := hready hlog
  have hmeasure := of_measure_eq_ok hlogReady hmeasured
  rw [hdisk, htools] at hmeasure
  cases hway : gate.wayResult world.tools with
  | error abort =>
      rw [hway] at hmeasure
      obtain rfl : measured = .error abort := hmeasure
      have houtcome := of_breakOff_eq_ok h
      obtain ⟨hfirst, hcause⟩ := isFirst_of_wayResult_eq_error world.disk hway
      have hverdict : outcome.verdict = abort.verdict := by rw [houtcome]
      have hreason : outcome.reason = abort.reason := by rw [houtcome]
      rw [hverdict] at hexit ⊢
      rw [hreason]
      rcases hcause with ⟨tool, hint, hmissing, rfl⟩ | ⟨step, code, hfailure, rfl⟩
      · refine ⟨hfirst, fun _ => ⟨tool, hint, hmissing, rfl⟩, fun hother => ?_, hexit⟩
        cases hother
      · refine ⟨hfirst, fun hother => ?_, fun _ => ⟨step, code, hfailure, rfl⟩, hexit⟩
        cases hother
  | ok _ =>
      rw [hway] at hmeasure
      obtain ⟨hlogReached, hresult⟩ := hmeasure
      have hclear := (wayResult_eq_ok_iff world.disk).mp hway
      have hfirst : IsFirst (gate.Applies world.disk world.tools) outcome.verdict := by
        cases measured with
        | error abort =>
            have hverdict : outcome.verdict = abort.verdict := by rw [of_breakOff_eq_ok h]
            rw [hverdict]
            exact isFirst_of_readResult_eq_error hclear hresult
        | ok ratio =>
            obtain ⟨report, hread, rfl⟩ := of_readResult_eq_ok hresult
            exact isFirst_of_conclude_eq_ok hlogReached hclear hread h
      have happlies := hfirst.holds
      refine ⟨hfirst, fun hmissing => ?_, fun hfailed => ?_, hexit⟩
      · rw [hmissing] at happlies
        exact absurd happlies hclear.1
      · rw [hfailed] at happlies
        exact absurd happlies hclear.2

set_option maxRecDepth 10000 in
theorem run_verdict_isFirst_of_missing_tool :
    let gate : Gate :=
      ⟨⟨50, .zero, .tarpaulin, "work", "coverage", none, none, 300, .always, false, "INFO"⟩,
        [⟨"Build", ["cargo", "build"], .build, some "cargo", none⟩]⟩
    let world := World.fresh (Disk.empty ["home"]) ⟨["cargo"], [⟨1, []⟩]⟩
    ∃ outcome after, gate.run.run world = .ok outcome after ∧ outcome.verdict = .toolMissing ∧
      IsFirst (gate.Applies world.disk world.tools) outcome.verdict ∧
      (outcome.verdict = .toolMissing → ∃ tool hint,
        missingTool? world.tools (Pipeline.requiredTools gate.steps) = some (tool, hint) ∧
        outcome.reason = (Abort.toolMissing tool hint).reason) ∧
      (outcome.verdict = .stepFailed → ∃ step code,
        failure? gate.plan world.tools.responses = some (step, code) ∧
        outcome.reason = (Abort.stepFailed step.name code).reason) ∧
      (outcome.exitCode = 0 ↔ outcome.verdict = .pass) := by
  intro gate world
  have hverdict : (gate.run.run' world).map Outcome.verdict = some .toolMissing := by
    subst gate world
    cbv
  rw [EStateM.run'] at hverdict
  cases hrun : gate.run.run world with
  | error fault after =>
      rw [hrun] at hverdict
      cases hverdict
  | ok outcome after =>
      rw [hrun] at hverdict
      exact ⟨outcome, after, rfl, Option.some.inj hverdict,
        run_verdict_isFirst (World.logsNoFile_fresh _ _) hrun⟩

end Gate

end Gatekeeper
