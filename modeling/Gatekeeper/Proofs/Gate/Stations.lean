import Gatekeeper.Proofs.Gate.Activity

/-! The stations of a run that comes to an outcome. They follow from its verdict, and so does which parts of the
outcome are there: the ratio once the stored one may be replaced, the drop once there was one to compare with. This
holds from every world, whatever was left behind by an earlier run. -/

namespace Gatekeeper

open Work World

/-- All stations, in the order in which a run comes to them. -/
def Phase.all : List Phase :=
  [.start, .buildAndTest, .generateReport, .parse, .checkThreshold, .checkRegression, .updateBaseline, .exit]

namespace Verdict

/-- The stations after the first one and before the last one. A step that fails ends a run at the station of its
stage. -/
def between (stage : Stage) : Verdict → List Phase
  | toolMissing => []
  | stepFailed => if stage = .report then [.buildAndTest, .generateReport] else [.buildAndTest]
  | reportMissing | reportUnparseable => [.buildAndTest, .generateReport, .parse]
  | belowMinimum => [.buildAndTest, .generateReport, .parse, .checkThreshold, .updateBaseline]
  | regression | pass =>
    [.buildAndTest, .generateReport, .parse, .checkThreshold, .checkRegression, .updateBaseline]

/-- The stations of a run that ends with a verdict. -/
def stations (stage : Stage) (verdict : Verdict) : List Phase :=
  .start :: verdict.between stage ++ [.exit]

theorem updateBaseline_mem_stations_iff (stage : Stage) (verdict : Verdict) :
    .updateBaseline ∈ verdict.stations stage ↔
      verdict = belowMinimum ∨ verdict = regression ∨ verdict = pass := by
  by_cases hstage : stage = .report <;> cases verdict <;> simp [stations, between, hstage]

theorem checkRegression_mem_stations_iff (stage : Stage) (verdict : Verdict) :
    .checkRegression ∈ verdict.stations stage ↔ verdict = regression ∨ verdict = pass := by
  by_cases hstage : stage = .report <;> cases verdict <;> simp [stations, between, hstage]

theorem stations_sublist (stage : Stage) (verdict : Verdict) :
    (verdict.stations stage).Sublist Phase.all := by
  by_cases hstage : stage = .report <;> cases verdict <;> simp [stations, between, Phase.all, hstage]

theorem nodup_stations (stage : Stage) (verdict : Verdict) : (verdict.stations stage).Nodup :=
  (stations_sublist stage verdict).nodup (by decide)

end Verdict

namespace Run

theorem samePhases_print (line : String) : Keeps SamePhases (print line) :=
  Keeps.modify fun _ => rfl

theorem samePhases_command (directory : Path) (argv : List String) : Keeps SamePhases (command directory argv) := by
  intro world
  rw [finish_command]
  rfl

end Run

namespace Gate

theorem samePhases_runSteps (directory : Path) (steps : List Step) :
    Keeps SamePhases (runSteps directory steps).run := by
  induction steps with
  | nil => exact Keeps.pure _
  | cons step rest ih =>
      refine Keeps.attemptBind (Keeps.lift (Run.samePhases_print _)) fun _ => ?_
      refine Keeps.attemptBind (Keeps.lift (Run.samePhases_command _ _)) fun code => ?_
      by_cases hcode : code = 0
      · simp only [if_pos hcode]
        exact ih
      · simp only [if_neg hcode]
        exact Keeps.pure _

/-- Work visits stations when it comes to these, in this order, whenever it has a result. -/
def Visits {α : Type} (phases : List Phase) (work : Run α) : Prop :=
  ∀ world value after, work.run world = .ok value after → after.phases = world.phases ++ phases

namespace Visits

variable {α β : Type} {phases later : List Phase}

theorem ofKeeps {work : Run α} (h : Keeps SamePhases work) : Visits [] work := by
  intro world value after hrun
  rw [List.append_nil]
  exact h.ofOk hrun

theorem enter (phase : Phase) : Visits [phase] (Run.enter phase) :=
  fun _ _ _ hrun => Run.phases_of_enter_eq_ok hrun

theorem bind {first : Run α} {next : α → Run β} (hfirst : Visits phases first)
    (hnext : ∀ value, Visits later (next value)) : Visits (phases ++ later) (first >>= next) := by
  intro world value after hrun
  obtain ⟨given, middle, hgiven, hrest⟩ := of_bind_eq_ok hrun
  rw [hnext given middle value after hrest, hfirst world given middle hgiven, List.append_assoc]

end Visits

theorem visits_judgeRegression (settings : Settings) (ratio : Decimal) (percent : Int)
    (baseline : Option Decimal) : Visits [.checkRegression] (judgeRegression settings ratio percent baseline) := by
  have hprint : ∀ line, Visits [] (Run.print line) := fun line => .ofKeeps (Run.samePhases_print line)
  have hpercent : ∀ percent, Visits [] (percentText percent) := fun percent => .ofKeeps (told_percentText percent)
  have hmeets : Visits [] (meetsText settings percent) := .ofKeeps (told_meetsText settings percent)
  refine (hprint _).bind fun _ => ?_
  change Visits ([.checkRegression] ++ []) _
  refine (Visits.enter _).bind fun _ => ?_
  refine Visits.bind (.ofKeeps (told_checked _)) fun check => ?_
  split
  · refine (hprint _).bind fun _ => ?_
    exact hmeets.bind fun _ => .ofKeeps (Keeps.pure _)
  · refine (hpercent _).bind fun earlier => ?_
    refine (hprint _).bind fun _ => ?_
    refine (hprint _).bind fun _ => ?_
    split
    · refine hmeets.bind fun _ => ?_
      exact (hprint _).bind fun _ => .ofKeeps (Keeps.pure _)
    · refine (hpercent _).bind fun _ => ?_
      exact (hprint _).bind fun _ => .ofKeeps (Keeps.pure _)

/-- The station of the comparison is visited unless the ratio is below the minimum, and the drop is there just when
there was a ratio to compare with. -/
theorem phases_of_judge_eq_ok {settings : Settings} {ratio : Decimal} {percent shown : Int}
    {baseline : Option Decimal} {judgement : Judgement} {world after : World}
    (hpercent : toPercent (.finite ratio) = .ok percent)
    (h : (judge settings ratio shown baseline).run world = .ok judgement after) :
    (judgement.verdict = .belowMinimum ∧ judgement.drop = none ∧ after.phases = world.phases) ∨
      ((judgement.verdict = .pass ∨ judgement.verdict = .regression) ∧
        judgement.drop.isSome = baseline.isSome ∧ after.phases = world.phases ++ [.checkRegression]) := by
  obtain ⟨threshold, judging, hthreshold, hrest⟩ := of_bind_eq_ok h
  obtain ⟨-, rfl⟩ := of_checked_eq_ok hthreshold
  split at hrest
  · obtain ⟨check, hcheck, hverdict, hdrop⟩ := of_judgeRegression_eq_ok hpercent hrest
    refine .inr ⟨?_, ?_, visits_judgeRegression _ _ _ _ _ _ _ hrest⟩
    · rw [hverdict]
      cases check.passed <;> simp
    · rw [hdrop]
      rcases of_checkRegression_eq_ok hpercent hcheck with ⟨hnone, hmissing, -⟩ | ⟨_, _, _, hsome, -, -, hthere, -⟩
      · rw [hmissing, Option.map_eq_none_iff.mp hnone]
        rfl
      · obtain ⟨earlier, hearlier, -⟩ := Option.map_eq_some_iff.mp hsome
        rw [hthere, hearlier]
        rfl
  · obtain ⟨_, first, hfirst, hrest⟩ := of_bind_eq_ok hrest
    obtain ⟨_, second, hsecond, hrest⟩ := of_bind_eq_ok hrest
    obtain ⟨_, third, hthird, hrest⟩ := of_bind_eq_ok hrest
    cases hrest
    have hsame : SamePhases judging after := calc
      SamePhases judging first := (told_percentText _).ofOk hfirst
      SamePhases _ second := (told_percentText _).ofOk hsecond
      SamePhases _ after := (Run.samePhases_print _).ofOk hthird
    exact .inl ⟨rfl, rfl, hsame⟩

/-- Whether the last printed line says that the gate was passed just when a verdict does. -/
def Announces (printed : List String) (verdict : Verdict) : Prop :=
  ∃ line, printed.getLast? = some line ∧
    ("Coverage gate PASSED".toList <+: line.toList ↔ verdict = .pass)

theorem announces_passed (printed : List String) (reason : String) :
    Announces (printed ++ ["Coverage gate PASSED: " ++ reason]) .pass := by
  refine ⟨_, List.getLast?_concat, iff_of_true ?_ rfl⟩
  rw [String.toList_append]
  exact List.IsPrefix.trans (by decide) (List.prefix_append _ _)

theorem announces_failed (printed : List String) {verdict : Verdict} (h : verdict ≠ .pass) (rest : String) :
    Announces (printed ++ ["Coverage gate FAILED [" ++ rest]) verdict := by
  refine ⟨_, List.getLast?_concat, iff_of_false (fun hprefix => ?_) h⟩
  rw [String.toList_append] at hprefix
  have hfailed : "Coverage gate PASSED".toList <+: "Coverage gate FAILED [".toList :=
    List.prefix_of_prefix_length_le hprefix (List.prefix_append _ _) (by decide)
  exact absurd hfailed (by decide)

theorem announces_of_breakOff_eq_ok {baseline : Option Decimal} {abort : Abort} {outcome : Outcome}
    {world after : World} (h : (breakOff baseline abort).run world = .ok outcome after) :
    outcome.phases = world.phases ++ [.exit] ∧ Announces after.printed outcome.verdict := by
  obtain ⟨_, first, hfirst, h⟩ := of_bind_eq_ok h
  obtain ⟨_, second, hsecond, h⟩ := of_bind_eq_ok h
  obtain ⟨_, third, hthird, h⟩ := of_bind_eq_ok h
  obtain ⟨_, fourth, hfourth, h⟩ := of_bind_eq_ok h
  have hsame : SamePhases world second := calc
    SamePhases world first := (Run.samePhases_print _).ofOk hfirst
    SamePhases _ second := (Run.outward_log _ _ _).ofOk hsecond
  have hphases : fourth.phases = world.phases ++ [.exit] := by
    rw [(Run.samePhases_print _).ofOk hfourth, Run.phases_of_enter_eq_ok hthird, hsame]
  have hfailed : abort.verdict ≠ .pass := by cases abort <;> simp [Abort.verdict]
  cases hfourth
  cases h
  refine ⟨hphases, ?_⟩
  have hannounces := announces_failed third.printed hfailed (abort.verdict.name ++ "]")
  rwa [← String.append_assoc] at hannounces

theorem announces_of_close_eq_ok {ratio : Decimal} {percent : Int} {baseline : Option Decimal}
    {judgement : Judgement} {updated : Bool} {outcome : Outcome} {world after : World}
    (h : (close ratio percent baseline judgement updated).run world = .ok outcome after) :
    outcome.phases = world.phases ++ [.exit] ∧ Announces after.printed outcome.verdict := by
  obtain ⟨_, first, hfirst, h⟩ := of_bind_eq_ok h
  obtain ⟨_, second, hsecond, h⟩ := of_bind_eq_ok h
  have hphases : second.phases = world.phases ++ [.exit] := by
    rw [(Run.samePhases_print _).ofOk hsecond, Run.phases_of_enter_eq_ok hfirst]
  cases hsecond
  cases h
  refine ⟨hphases, ?_⟩
  simp only
  split
  · rename_i hpassed
    rw [Verdict.passed, decide_eq_true_eq] at hpassed
    rw [hpassed]
    exact announces_passed _ _
  · rename_i hpassed
    rw [Verdict.passed, decide_eq_true_eq] at hpassed
    have hannounces := announces_failed first.printed hpassed (judgement.verdict.name ++ "]: " ++ judgement.reason)
    rwa [← String.append_assoc, ← String.append_assoc] at hannounces

/-- The stage at whose station a run is broken off is that of the failing step. -/
def BreaksOff (gate : Gate) (tools : Toolchain) (stage : Stage) (abort : Abort) : Prop :=
  abort.verdict = .stepFailed → (stage = .build ∨ stage = .report) ∧ ∃ index step,
    FailsAt gate.plan tools index step ∧ step.stage = stage ∧ abort = .stepFailed step.name (tools.code index)

/-- An attempt that succeeds comes to some stations, one that is broken off to those of its verdict. -/
def ComesTo {α : Type} (gate : Gate) (phases : List Phase) (before after : World) : Except Abort α → Prop
  | .ok _ => after.phases = before.phases ++ phases
  | .error abort => ∃ stage, after.phases = before.phases ++ abort.verdict.between stage ∧
      gate.BreaksOff before.tools stage abort

/-- A stage leaves the stations alone. It has used up its part of the script when it has succeeded, and else one of its
steps is the first to fail. -/
theorem of_runStage_eq_ok {gate : Gate} {stage : Stage} {result : Except Abort Unit} {world after : World}
    (h : (gate.runStage stage).run.run world = .ok result after) :
    SamePhases world after ∧
      match result with
      | .ok _ => after.tools = world.tools.after (gate.stageSteps stage).length ∧
          ∀ index < (gate.stageSteps stage).length, world.tools.code index = 0
      | .error abort => ∃ index step, FailsAt (gate.stageSteps stage) world.tools index step ∧
          step.stage = stage ∧ abort = .stepFailed step.name (world.tools.code index) := by
  refine ⟨(samePhases_runSteps _ _).ofOk h, ?_⟩
  obtain ⟨count, -, hperforms, -, hends⟩ :=
    plays_runSteps gate.settings.paths.projectDir (gate.stageSteps stage) world
  have hended := hends result after h
  have hafter : finish (runSteps gate.settings.paths.projectDir (gate.stageSteps stage)).run world = after :=
    finish_of_ok h
  rw [hafter] at hperforms
  cases result with
  | ok _ =>
      obtain ⟨rfl, hzero⟩ := hended
      have htools := hperforms.tools_eq
      rw [List.take_length] at htools
      exact ⟨htools, hzero⟩
  | error abort =>
      obtain ⟨index, step, -, hfails, habort⟩ := hended
      have hmem := List.mem_of_getElem? hfails.1
      exact ⟨index, step, hfails, of_decide_eq_true (List.mem_filter.mp hmem).2, habort⟩

theorem comesTo_of_execute_eq_ok {gate : Gate} {result : Except Abort Unit} {world after : World}
    (h : gate.execute.run.run world = .ok result after) :
    gate.ComesTo [.buildAndTest, .generateReport] world after result := by
  obtain ⟨_, building, hbuilding, h⟩ := of_lift_bind_eq_ok h
  have hfirst := Run.phases_of_enter_eq_ok hbuilding
  have htools : SameTools world building := (Run.outward_enter (fun _ _ => rfl) _).ofOk hbuilding
  rcases of_attempt_bind_eq_ok h with ⟨abort, hbuilt, rfl⟩ | ⟨_, built, hbuilt, h⟩
  · obtain ⟨hsame, index, step, hfails, hstage, habort⟩ := of_runStage_eq_ok hbuilt
    rw [htools] at hfails habort
    rw [ComesTo, habort]
    exact ⟨.build, hsame.trans hfirst, fun _ => ⟨.inl rfl, index, step, hfails.append_left _, hstage, rfl⟩⟩
  obtain ⟨hsame, hrest, hzero⟩ := of_runStage_eq_ok hbuilt
  rw [htools] at hrest hzero
  obtain ⟨_, generating, hgenerating, h⟩ := of_lift_bind_eq_ok h
  have hsecond := Run.phases_of_enter_eq_ok hgenerating
  obtain ⟨_, cleared, hcleared, h⟩ := of_lift_bind_eq_ok h
  have hphases : cleared.phases = world.phases ++ [.buildAndTest, .generateReport] := by
    have hclear : SamePhases generating cleared := (outward_clearReport _).ofOk hcleared
    rw [hclear, hsecond, hsame, hfirst, List.append_assoc]
    rfl
  have hlater : SameTools built cleared := calc
    SameTools built generating := (Run.outward_enter (fun _ _ => rfl) _).ofOk hgenerating
    SameTools _ cleared := (outward_clearReport _).ofOk hcleared
  obtain ⟨hreported, hended⟩ := of_runStage_eq_ok h
  cases result with
  | ok _ => exact hreported.trans hphases
  | error abort =>
      obtain ⟨index, step, hfails, hstage, habort⟩ := hended
      rw [hlater, hrest] at hfails habort
      rw [Toolchain.code_after] at habort
      rw [ComesTo, habort]
      exact ⟨.report, hreported.trans hphases,
        fun _ => ⟨.inr rfl, _, step, hfails.append_right hzero, hstage, rfl⟩⟩

theorem phases_of_parse_eq_ok {gate : Gate} {result : Except Abort Decimal} {world after : World}
    (h : gate.parse.run.run world = .ok result after) :
    after.phases = world.phases ++ [.parse] ∧
      ∀ abort, result = .error abort → abort.verdict = .reportMissing ∨ abort.verdict = .reportUnparseable := by
  obtain ⟨_, parsing, hparsing, h⟩ := of_lift_bind_eq_ok h
  obtain ⟨_, printed, hprinted, h⟩ := of_lift_bind_eq_ok h
  have hsame : SamePhases parsing after := calc
    SamePhases parsing printed := (Run.samePhases_print _).ofOk hprinted
    SamePhases _ after := (told_readReport _).ofOk h
  refine ⟨hsame.trans (Run.phases_of_enter_eq_ok hparsing), ?_⟩
  rintro abort rfl
  have hread := of_readReport_eq_ok h
  rw [readResult] at hread
  split at hread <;> cases hread
  · exact .inl rfl
  · exact .inr rfl

theorem comesTo_of_reachReport_eq_ok {gate : Gate} {result : Except Abort Unit} {world after : World}
    (h : gate.reachReport.run.run world = .ok result after) :
    gate.ComesTo [.buildAndTest, .generateReport] world after result := by
  rw [reachReport] at h
  split at h
  · obtain ⟨_, building, hbuilding, h⟩ := of_lift_bind_eq_ok h
    obtain ⟨_, hgenerating, rfl⟩ := of_lift_eq_ok h
    rw [ComesTo, Run.phases_of_enter_eq_ok hgenerating, Run.phases_of_enter_eq_ok hbuilding, List.append_assoc]
    rfl
  · have hchecked := run_checkTools (Pipeline.requiredTools gate.steps) world
    rw [runPipeline_eq_execute] at h
    rcases of_attempt_bind_eq_ok h with ⟨abort, hmissing, rfl⟩ | ⟨_, looked, hfound, h⟩
    · rw [hchecked] at hmissing
      split at hmissing
      · cases hmissing
        refine ⟨.build, (List.append_nil _).symm, fun hfailed => ?_⟩
        cases hfailed
      · cases hmissing
    · rw [hchecked] at hfound
      injection hfound with _ hlooked
      rw [← hlooked] at h
      have hexecuted := comesTo_of_execute_eq_ok h
      cases result with
      | ok _ => exact hexecuted
      | error abort => exact hexecuted

theorem comesTo_of_measure_eq_ok {gate : Gate} {result : Except Abort Decimal} {world after : World}
    (h : gate.measure.run.run world = .ok result after) :
    gate.ComesTo [.buildAndTest, .generateReport, .parse] world after result := by
  rw [measure_eq] at h
  rcases of_attempt_bind_eq_ok h with ⟨abort, hbroken, rfl⟩ | ⟨_, reached, hreached, h⟩
  · exact comesTo_of_reachReport_eq_ok hbroken
  · have hway : reached.phases = world.phases ++ [.buildAndTest, .generateReport] :=
      comesTo_of_reachReport_eq_ok hreached
    obtain ⟨hphases, hverdict⟩ := phases_of_parse_eq_ok h
    rw [hway, List.append_assoc] at hphases
    cases result with
    | ok _ => exact hphases
    | error abort =>
        have hbetween : abort.verdict.between .report = [.buildAndTest, .generateReport, .parse] ∧
            abort.verdict ≠ .stepFailed := by
          rcases hverdict abort rfl with hmissing | hunparseable
          · rw [hmissing]
            exact ⟨rfl, by decide⟩
          · rw [hunparseable]
            exact ⟨rfl, by decide⟩
        refine ⟨.report, ?_, fun hfailed => absurd hfailed hbetween.2⟩
        rw [hphases, hbetween.1]
        rfl

theorem told_of_conclude_eq_ok {settings : Settings} {ratio : Decimal} {baseline : Option Decimal}
    {outcome : Outcome} {world after : World}
    (h : (conclude settings ratio baseline).run world = .ok outcome after) :
    ∃ percent, toPercent (.finite ratio) = .ok percent ∧ outcome.ratio = some ratio ∧
      outcome.percent = some percent ∧ outcome.baseline = baseline ∧ Announces after.printed outcome.verdict ∧
      ((outcome.verdict = .belowMinimum ∧ outcome.drop = none ∧
          outcome.phases = world.phases ++ [.checkThreshold, .updateBaseline, .exit]) ∨
        ((outcome.verdict = .pass ∨ outcome.verdict = .regression) ∧
          outcome.drop.isSome = baseline.isSome ∧
          outcome.phases = world.phases ++ [.checkThreshold, .checkRegression, .updateBaseline, .exit])) := by
  obtain ⟨percent, first, hpercent, h⟩ := of_bind_eq_ok h
  obtain ⟨_, second, hshown, h⟩ := of_bind_eq_ok h
  obtain ⟨_, third, hprinted, h⟩ := of_bind_eq_ok h
  obtain ⟨_, judging, hentered, h⟩ := of_bind_eq_ok h
  obtain ⟨judgement, judged, hjudged, h⟩ := of_bind_eq_ok h
  obtain ⟨_, storing, hstation, h⟩ := of_bind_eq_ok h
  obtain ⟨updated, stored, hupdated, hclosed⟩ := of_bind_eq_ok h
  obtain ⟨hratio, rfl⟩ := of_checked_eq_ok hpercent
  have hfirst : SamePhases first third := calc
    SamePhases first second := (told_percentText _).ofOk hshown
    SamePhases _ third := (Run.samePhases_print _).ofOk hprinted
  have hupdate : SamePhases storing stored := (told_updateBaseline (outward_storeNumeral _ _) _ _).ofOk hupdated
  obtain ⟨hphases, hannounces⟩ := announces_of_close_eq_ok hclosed
  rw [hupdate, Run.phases_of_enter_eq_ok hstation] at hphases
  have houtcome := of_close_eq_ok hclosed
  refine ⟨percent, hratio, ?_, ?_, ?_, hannounces, ?_⟩
  · rw [houtcome]
  · rw [houtcome]
  · rw [houtcome]
  have hverdict : outcome.verdict = judgement.verdict := by rw [houtcome]
  have hdrop : outcome.drop = judgement.drop := by rw [houtcome]
  rw [hverdict, hdrop, hphases]
  rcases phases_of_judge_eq_ok hratio hjudged with ⟨hlow, hnone, hsame⟩ | ⟨hhigh, hsome, hmore⟩
  · refine .inl ⟨hlow, hnone, ?_⟩
    rw [hsame, Run.phases_of_enter_eq_ok hentered, hfirst]
    simp
  · refine .inr ⟨hhigh, hsome, ?_⟩
    rw [hmore, Run.phases_of_enter_eq_ok hentered, hfirst]
    simp

end Gate

/-- What an outcome says of a run is consistent. Its stations are those of its verdict, each at most once and in their
order; the ratio with its percentage is there once the stored one may be replaced, and the drop once there was a ratio
to compare with; and the last line says that the gate was passed just when it was. -/
structure Outcome.Consistent (gate : Gate) (tools : Toolchain) (printed : List String) (outcome : Outcome) :
    Prop where
  stations : ∃ stage, outcome.phases = outcome.verdict.stations stage ∧
    (outcome.verdict = .stepFailed → (stage = .build ∨ stage = .report) ∧ ∃ index step,
      Gate.FailsAt gate.plan tools index step ∧ step.stage = stage ∧
      outcome.reason = (Abort.stepFailed step.name (tools.code index)).reason)
  ordered : outcome.phases.Sublist Phase.all
  once : outcome.phases.Nodup
  ratio : outcome.ratio.isSome = true ↔ .updateBaseline ∈ outcome.phases
  percent : outcome.percent.isSome = true ↔ .updateBaseline ∈ outcome.phases
  rounded : ∀ ratio percent, outcome.ratio = some ratio → outcome.percent = some percent →
    toPercent (.finite ratio) = .ok percent
  drop : outcome.drop.isSome = true ↔ .checkRegression ∈ outcome.phases ∧ outcome.baseline.isSome = true
  announced : Gate.Announces printed outcome.verdict

namespace Gate

section

variable {gate : Gate} {tools : Toolchain} {outcome : Outcome} {baseline : Option Decimal} {reached after : World}

theorem consistent_of_breakOff {abort : Abort} {stage : Stage}
    (hphases : reached.phases = .start :: abort.verdict.between stage) (hbreaks : gate.BreaksOff tools stage abort)
    (h : (breakOff baseline abort).run reached = .ok outcome after) :
    outcome.Consistent gate tools after.printed := by
  obtain ⟨hended, hannounces⟩ := announces_of_breakOff_eq_ok h
  have houtcome := of_breakOff_eq_ok h
  have hverdict : outcome.verdict = abort.verdict := by rw [houtcome]
  have hratio : outcome.ratio = none := by rw [houtcome]
  have hpercent : outcome.percent = none := by rw [houtcome]
  have hdrop : outcome.drop = none := by rw [houtcome]
  have hstations : outcome.phases = outcome.verdict.stations stage := by
    rw [hended, hphases, hverdict]
    rfl
  have hupdate : .updateBaseline ∉ outcome.phases := by
    rw [hstations, Verdict.updateBaseline_mem_stations_iff, hverdict]
    cases abort <;> simp [Abort.verdict]
  have hregression : .checkRegression ∉ outcome.phases := by
    rw [hstations, Verdict.checkRegression_mem_stations_iff, hverdict]
    cases abort <;> simp [Abort.verdict]
  refine ⟨⟨stage, hstations, fun hfailed => ?_⟩, hstations ▸ Verdict.stations_sublist _ _,
    hstations ▸ Verdict.nodup_stations _ _, ?_, ?_, ?_, ?_, hannounces⟩
  · rw [hverdict] at hfailed
    obtain ⟨hstage, index, step, hfails, hsame, habort⟩ := hbreaks hfailed
    refine ⟨hstage, index, step, hfails, hsame, ?_⟩
    rw [houtcome, habort]
  · simp [hratio, hupdate]
  · simp [hpercent, hupdate]
  · simp [hratio]
  · simp [hdrop, hregression]

theorem consistent_of_conclude {settings : Settings} {ratio : Decimal}
    (hphases : reached.phases = [.start, .buildAndTest, .generateReport, .parse])
    (h : (conclude settings ratio baseline).run reached = .ok outcome after) :
    outcome.Consistent gate tools after.printed := by
  obtain ⟨percent, hrounded, hratio, hpercent, hbaseline, hannounces, hcases⟩ := told_of_conclude_eq_ok h
  rw [hphases] at hcases
  obtain ⟨hstations, hfailed, hupdate, hdrop⟩ : outcome.phases = outcome.verdict.stations .report ∧
      outcome.verdict ≠ .stepFailed ∧ .updateBaseline ∈ outcome.phases ∧
      (outcome.drop.isSome = true ↔ .checkRegression ∈ outcome.phases ∧ outcome.baseline.isSome = true) := by
    rcases hcases with ⟨hlow, hdrop, hvisited⟩ | ⟨hpass | hregression, hdrop, hvisited⟩
    · simp [hlow, hdrop, hvisited, Verdict.stations, Verdict.between]
    · simp [hpass, hdrop, hvisited, hbaseline, Verdict.stations, Verdict.between]
    · simp [hregression, hdrop, hvisited, hbaseline, Verdict.stations, Verdict.between]
  refine ⟨⟨.report, hstations, fun hother => absurd hother hfailed⟩, hstations ▸ Verdict.stations_sublist _ _,
    hstations ▸ Verdict.nodup_stations _ _, ?_, ?_, ?_, hdrop, hannounces⟩
  · simp [hratio, hupdate]
  · simp [hpercent, hupdate]
  · intro given shown hgiven hshown
    rw [hratio] at hgiven
    rw [hpercent] at hshown
    cases hgiven
    cases hshown
    exact hrounded

end

/-- Every outcome is consistent, from whatever world the run has started. -/
theorem run_outcome_consistent {gate : Gate} {outcome : Outcome} {world after : World}
    (h : gate.run.run world = .ok outcome after) : outcome.Consistent gate world.tools after.printed := by
  obtain ⟨started, hsilent, -, hstarted, hrun⟩ := exists_started gate world
  rw [hrun] at h
  obtain ⟨baseline, ready, hloaded, h⟩ := of_bind_eq_ok h
  obtain ⟨measured, reached, hmeasured, h⟩ := of_bind_eq_ok h
  have hphases : ready.phases = [.start] := by
    have hsame : SamePhases started ready := (told_loadBaseline _).ofOk hloaded
    rw [hsame, hstarted]
  have htools : ready.tools = world.tools := by
    have hsame : SameTools started ready := (told_loadBaseline _).ofOk hloaded
    rw [hsame, hsilent.tools]
  have hcomes := comesTo_of_measure_eq_ok hmeasured
  cases measured with
  | error abort =>
      obtain ⟨stage, hbroken, hbreaks⟩ := hcomes
      rw [hphases] at hbroken
      rw [htools] at hbreaks
      exact consistent_of_breakOff hbroken hbreaks h
  | ok ratio =>
      have hway : reached.phases = ready.phases ++ [.buildAndTest, .generateReport, .parse] := hcomes
      rw [hphases] at hway
      exact consistent_of_conclude hway h

set_option maxRecDepth 10000 in
theorem run_outcome_consistent_of_failing_step :
    let gate : Gate :=
      ⟨⟨50, .zero, .tarpaulin, "work", "coverage", none, none, 300, .always, false, "INFO"⟩,
        [⟨"Report", ["cargo", "tarpaulin"], .report, none, none⟩, ⟨"Build", ["cargo", "build"], .build, none, none⟩]⟩
    let world := { World.fresh (Disk.empty ["home"]) ⟨[], [⟨0, []⟩, ⟨3, []⟩]⟩ with phases := [.start, .parse] }
    ∃ outcome after, gate.run.run world = .ok outcome after ∧ outcome.verdict = .stepFailed ∧
      outcome.phases = [.start, .buildAndTest, .generateReport, .exit] ∧
      outcome.Consistent gate world.tools after.printed := by
  intro gate world
  have htold : (gate.run.run' world).map (fun outcome => (outcome.verdict, outcome.phases)) =
      some (.stepFailed, [.start, .buildAndTest, .generateReport, .exit]) := by
    subst gate world
    cbv
  rw [EStateM.run'] at htold
  cases hrun : gate.run.run world with
  | error fault after =>
      rw [hrun] at htold
      cases htold
  | ok outcome after =>
      rw [hrun] at htold
      injection htold with hpair
      injection hpair with hverdict hphases
      exact ⟨outcome, after, rfl, hverdict, hphases, run_outcome_consistent hrun⟩

end Gate

end Gatekeeper
