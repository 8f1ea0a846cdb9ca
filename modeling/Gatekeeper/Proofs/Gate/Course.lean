import Gatekeeper.Proofs.Gate.Frame
import Gatekeeper.Proofs.Policy

/-! The course of a run that has an outcome. It loads the stored ratio and measures; then it is broken off,
or it judges the ratio, stores it if the policy says so, and tells the verdict. Between these parts the run
only tells what happens. -/

namespace Gatekeeper.Gate

open Work Files

theorem of_checked_eq_ok {α : Type} {result : Except CheckError α} {value : α} {world after : World}
    (h : (checked result).run world = .ok value after) : result = .ok value ∧ after = world := by
  cases result with
  | ok given =>
      cases h
      exact ⟨rfl, rfl⟩
  | error cause => cases h

/-- A judgement against the stored ratio says whether the check was passed, and tells of its drop. -/
theorem of_judgeRegression_eq_ok {settings : Settings} {ratio : Decimal} {percent shown : Int}
    {baseline : Option Decimal} {judgement : Judgement} {world after : World}
    (hpercent : toPercent (.finite ratio) = .ok percent)
    (h : (judgeRegression settings ratio shown baseline).run world = .ok judgement after) :
    ∃ check, checkRegression (.finite ratio) (baseline.map Numeral.finite) settings.maxDrop = .ok check ∧
      judgement.verdict = (if check.passed then .pass else .regression) ∧
      judgement.drop = check.comparison.map Comparison.drop := by
  obtain ⟨_, _, -, h⟩ := of_bind_eq_ok h
  obtain ⟨_, _, -, h⟩ := of_bind_eq_ok h
  obtain ⟨check, _, hcheck, h⟩ := of_bind_eq_ok h
  obtain ⟨hcheck, -⟩ := of_checked_eq_ok hcheck
  refine ⟨check, hcheck, ?_⟩
  split at h
  · rename_i hnone
    have hpassed : check.passed = true := by
      rcases of_checkRegression_eq_ok hpercent hcheck with
        ⟨-, -, hpassed⟩ | ⟨_, _, _, -, -, -, hsome, -⟩
      · exact hpassed
      · rw [hnone] at hsome
        cases hsome
    obtain ⟨_, _, -, h⟩ := of_bind_eq_ok h
    obtain ⟨_, _, -, h⟩ := of_bind_eq_ok h
    cases h
    rw [hpassed, if_pos rfl, hnone]
    exact ⟨rfl, rfl⟩
  · rename_i comparison hsome
    obtain ⟨_, _, -, h⟩ := of_bind_eq_ok h
    obtain ⟨_, _, -, h⟩ := of_bind_eq_ok h
    obtain ⟨_, _, -, h⟩ := of_bind_eq_ok h
    split at h
    · rename_i hpassed
      obtain ⟨_, _, -, h⟩ := of_bind_eq_ok h
      obtain ⟨_, _, -, h⟩ := of_bind_eq_ok h
      cases h
      rw [hpassed, if_pos rfl, hsome]
      exact ⟨rfl, rfl⟩
    · rename_i hpassed
      obtain ⟨_, _, -, h⟩ := of_bind_eq_ok h
      obtain ⟨_, _, -, h⟩ := of_bind_eq_ok h
      cases h
      rw [if_neg hpassed, hsome]
      exact ⟨rfl, rfl⟩

/-- A ratio that is good enough is judged against the stored one. -/
theorem judge_of_le {settings : Settings} {ratio : Decimal} {percent : Int}
    (hpercent : toPercent (.finite ratio) = .ok percent)
    (hgood : settings.minCoverage ≤ percent) (shown : Int) (baseline : Option Decimal) :
    judge settings ratio shown baseline = judgeRegression settings ratio shown baseline := by
  rw [judge, checkThreshold_of_toPercent hpercent, checked, pure_bind]
  exact if_pos (decide_eq_true hgood)

/-- A ratio is judged against the minimum first, and against the stored ratio only when it is good enough. -/
theorem of_judge_eq_ok {settings : Settings} {ratio : Decimal} {percent shown : Int}
    {baseline : Option Decimal} {judgement : Judgement} {world after : World}
    (hpercent : toPercent (.finite ratio) = .ok percent)
    (h : (judge settings ratio shown baseline).run world = .ok judgement after) :
    (percent < settings.minCoverage ∧ judgement.verdict = .belowMinimum) ∨
      (settings.minCoverage ≤ percent ∧ ∃ check,
        checkRegression (.finite ratio) (baseline.map Numeral.finite) settings.maxDrop = .ok check ∧
        judgement.verdict = if check.passed then .pass else .regression) := by
  obtain ⟨threshold, _, hthreshold, h⟩ := of_bind_eq_ok h
  obtain ⟨hthreshold, -⟩ := of_checked_eq_ok hthreshold
  have hpassed := of_checkThreshold_eq_ok hpercent hthreshold
  split at h
  · rename_i hgood
    rw [hpassed, decide_eq_true_eq] at hgood
    obtain ⟨check, hcheck, hverdict, -⟩ := of_judgeRegression_eq_ok hpercent h
    exact .inr ⟨hgood, check, hcheck, hverdict⟩
  · rename_i hbad
    rw [hpassed, decide_eq_true_eq] at hbad
    obtain ⟨_, _, -, h⟩ := of_bind_eq_ok h
    obtain ⟨_, _, -, h⟩ := of_bind_eq_ok h
    obtain ⟨_, _, -, h⟩ := of_bind_eq_ok h
    cases h
    exact .inl ⟨Int.not_le.mp hbad, rfl⟩

/-- The ratio is stored when the policy is to store it always, or when the verdict is a pass. -/
def Stores (settings : Settings) (verdict : Verdict) : Prop :=
  settings.baselinePolicy = .always ∨ verdict = .pass

instance (settings : Settings) (verdict : Verdict) : Decidable (Stores settings verdict) :=
  inferInstanceAs (Decidable (_ ∨ _))

/-- What the storing of a ratio leads to, or the leaving of the stored one. -/
def Updates (settings : Settings) (ratio : Decimal) (updated : Bool) (before after : World) : Prop :=
  if updated then
    before.LogsNoFile → after.disk.home = before.disk.home ∧ Stored settings.paths.baseline ratio after
  else World.Rests before after

theorem stored_of_rests {path : Path} {ratio : Decimal} {before after : World}
    (h : Stored path ratio before) (hrests : World.Rests before after) :
    after.disk.home = before.disk.home ∧ Stored path ratio after := by
  obtain ⟨hin, hlog, hholds⟩ := h
  obtain ⟨hlater, hdisk, -⟩ := hrests hlog
  rw [Stored, hdisk]
  exact ⟨rfl, hin, hlater, hholds⟩

/-- What is told before and after makes no difference. -/
theorem updates_of_rests {settings : Settings} {ratio : Decimal} {updated : Bool}
    {first before after last : World} (hfirst : World.Rests first before)
    (h : Updates settings ratio updated before after) (hlast : World.Rests after last) :
    Updates settings ratio updated first last := by
  cases updated with
  | false =>
      have hafter : World.Rests first after := IsTrans.trans _ _ _ hfirst h
      have hall : World.Rests first last := IsTrans.trans _ _ _ hafter hlast
      exact hall
  | true =>
      intro hlog
      obtain ⟨hbefore, hdisk, -⟩ := hfirst hlog
      obtain ⟨hhome, hstored⟩ := h hbefore
      obtain ⟨hlater, hstored⟩ := stored_of_rests hstored hlast
      refine ⟨?_, hstored⟩
      rw [hlater, hhome, hdisk]

theorem of_updateBaseline_eq_ok {settings : Settings} {verdict : Verdict} {ratio : Decimal}
    {baseline : Option Decimal} {updated : Bool} {world after : World}
    (h : (updateBaseline settings verdict ratio baseline).run world = .ok updated after) :
    updated = decide (Stores settings verdict) ∧ Updates settings ratio updated world after := by
  rw [updateBaseline] at h
  split at h
  · rename_i hstores
    obtain ⟨_, stored, hstored, h⟩ := of_bind_eq_ok h
    obtain ⟨_, _, hlogged, h⟩ := of_bind_eq_ok h
    have hrests := (Run.rests_log _ _ _).ofOk hlogged
    cases h
    have hupdates : Updates settings ratio true world stored :=
      fun hlog => of_storeNumeral_eq_ok hlog hstored
    have hdecided : Stores settings verdict := by
      simpa [Stores, Verdict.passed] using hstores
    refine ⟨?_, updates_of_rests (Std.Refl.refl world) hupdates hrests⟩
    rw [decide_eq_true hdecided]
  · rename_i hstores
    obtain ⟨_, _, hlogged, h⟩ := of_bind_eq_ok h
    cases h
    have hdecided : ¬Stores settings verdict := by
      simpa [Stores, Verdict.passed] using hstores
    refine ⟨?_, (Run.rests_log _ _ _).ofOk hlogged⟩
    rw [decide_eq_false hdecided]

/-- The stored ratio as a run knows it: a file that holds none counts as missing. -/
def known (disk : Disk) (path : Path) : Option Decimal :=
  match Baseline.load disk path with
  | .ok baseline => baseline
  | .error _ => none

theorem of_loadBaseline_eq_ok {path : Path} {baseline : Option Decimal} {world after : World}
    (h : (loadBaseline path).run world = .ok baseline after) : baseline = known world.disk path := by
  rw [loadBaseline, EStateM.run_bind, EStateM.run_get] at h
  simp only at h
  rw [known]
  cases hload : Baseline.load world.disk path with
  | ok loaded =>
      rw [hload] at h
      cases h
      rfl
  | error cause =>
      rw [hload] at h
      cases cause with
      | corrupt content =>
          obtain ⟨_, _, -, h⟩ := of_bind_eq_ok h
          cases h
          rfl
      | file cause => cases h

theorem of_close_eq_ok {ratio : Decimal} {percent : Int} {baseline : Option Decimal}
    {judgement : Judgement} {updated : Bool} {outcome : Outcome} {world after : World}
    (h : (close ratio percent baseline judgement updated).run world = .ok outcome after) :
    outcome = ⟨judgement.verdict, judgement.reason, some ratio, some percent, baseline, judgement.drop,
      updated, outcome.phases⟩ := by
  obtain ⟨_, _, -, h⟩ := of_bind_eq_ok h
  obtain ⟨_, _, -, h⟩ := of_bind_eq_ok h
  cases h
  rfl

/-- A run that is broken off has no ratio, and nothing is stored. -/
theorem of_breakOff_eq_ok {baseline : Option Decimal} {abort : Abort} {outcome : Outcome}
    {world after : World} (h : (breakOff baseline abort).run world = .ok outcome after) :
    outcome = ⟨abort.verdict, abort.reason, none, none, baseline, none, false, outcome.phases⟩ := by
  obtain ⟨_, _, -, h⟩ := of_bind_eq_ok h
  obtain ⟨_, _, -, h⟩ := of_bind_eq_ok h
  obtain ⟨_, _, -, h⟩ := of_bind_eq_ok h
  obtain ⟨_, _, -, h⟩ := of_bind_eq_ok h
  cases h
  rfl

theorem of_percentText_eq_ok {percent : Int} {shown : String} {world after : World}
    (h : (percentText percent).run world = .ok shown after) : (Number.wholeText? percent).isSome = true := by
  unfold percentText at h
  cases htext : Number.wholeText? percent with
  | none =>
      rw [htext] at h
      cases h
  | some text => rfl

/-- The course of a conclusion: the percentage is told, the ratio is judged, it is stored or the stored one is left,
and the verdict is told. -/
theorem course_of_conclude_eq_ok {settings : Settings} {ratio : Decimal} {baseline : Option Decimal}
    {outcome : Outcome} {world after : World}
    (h : (conclude settings ratio baseline).run world = .ok outcome after) :
    ∃ percent judgement judging judged storing updated stored,
      toPercent (.finite ratio) = .ok percent ∧ (Number.wholeText? percent).isSome = true ∧
      (judge settings ratio percent baseline).run judging = .ok judgement judged ∧
      World.Rests world storing ∧
      (updateBaseline settings judgement.verdict ratio baseline).run storing = .ok updated stored ∧
      (close ratio percent baseline judgement updated).run stored = .ok outcome after := by
  obtain ⟨percent, first, hpercent, h⟩ := of_bind_eq_ok h
  obtain ⟨shown, second, hshown, h⟩ := of_bind_eq_ok h
  obtain ⟨_, third, hprinted, h⟩ := of_bind_eq_ok h
  obtain ⟨_, judging, hentered, h⟩ := of_bind_eq_ok h
  obtain ⟨judgement, judged, hjudged, h⟩ := of_bind_eq_ok h
  obtain ⟨_, storing, hstation, h⟩ := of_bind_eq_ok h
  obtain ⟨updated, stored, hupdated, h⟩ := of_bind_eq_ok h
  have hrests : World.Rests world storing := calc
    World.Rests world first := (told_checked _).ofOk hpercent
    World.Rests _ second := (told_percentText _).ofOk hshown
    World.Rests _ third := (Run.rests_print _).ofOk hprinted
    World.Rests _ judging := (Run.rests_enter _).ofOk hentered
    World.Rests _ judged := (told_judge _ _ _ _).ofOk hjudged
    World.Rests _ storing := (Run.rests_enter _).ofOk hstation
  exact ⟨percent, judgement, judging, judged, storing, updated, stored, (of_checked_eq_ok hpercent).1,
    of_percentText_eq_ok hshown, hjudged, hrests, hupdated, h⟩

/-- A ratio that is told of was judged, and after the judgement it was stored or the stored one was left. -/
theorem of_conclude_eq_ok {settings : Settings} {ratio : Decimal} {baseline : Option Decimal}
    {outcome : Outcome} {world after : World}
    (h : (conclude settings ratio baseline).run world = .ok outcome after) :
    ∃ percent judgement judging judged,
      toPercent (.finite ratio) = .ok percent ∧
      (judge settings ratio percent baseline).run judging = .ok judgement judged ∧
      outcome = ⟨judgement.verdict, judgement.reason, some ratio, some percent, baseline, judgement.drop,
        decide (Stores settings judgement.verdict), outcome.phases⟩ ∧
      Updates settings ratio (decide (Stores settings judgement.verdict)) world after := by
  obtain ⟨percent, judgement, judging, judged, storing, updated, stored, hpercent, -, hjudged, hrests, hupdated,
    hclosed⟩ := course_of_conclude_eq_ok h
  obtain ⟨rfl, hupdates⟩ := of_updateBaseline_eq_ok hupdated
  refine ⟨percent, judgement, judging, judged, hpercent, hjudged, of_close_eq_ok hclosed, ?_⟩
  exact updates_of_rests hrests hupdates ((told_close _ _ _ _ _).ofOk hclosed)

/-- A run with an outcome has measured, and then it was broken off or it came to a conclusion. -/
theorem of_run_eq_ok {gate : Gate} {outcome : Outcome} {world after : World} (hlog : world.LogsNoFile)
    (h : gate.run.run world = .ok outcome after) :
    ∃ ready measured reached, World.Rests world ready ∧
      gate.measure.run.run ready = .ok measured reached ∧
      match measured with
      | .ok ratio =>
        (conclude gate.settings ratio (known world.disk gate.settings.paths.baseline)).run reached =
          .ok outcome after
      | .error abort =>
        (breakOff (known world.disk gate.settings.paths.baseline) abort).run reached = .ok outcome after := by
  obtain ⟨_, reset, hreset, h⟩ := of_bind_eq_ok h
  obtain ⟨_, started, hstarted, h⟩ := of_bind_eq_ok h
  obtain ⟨baseline, ready, hloaded, h⟩ := of_bind_eq_ok h
  obtain ⟨measured, reached, hmeasured, h⟩ := of_bind_eq_ok h
  have hforgotten : World.Rests world reset := by
    cases hreset
    exact fun hlog => ⟨hlog, rfl, rfl⟩
  have hstart : World.Rests world started := calc
    World.Rests world reset := hforgotten
    World.Rests _ started := (Run.rests_enter _).ofOk hstarted
  have hready : World.Rests world ready := calc
    World.Rests world started := hstart
    World.Rests _ ready := (told_loadBaseline _).ofOk hloaded
  obtain rfl : baseline = known world.disk gate.settings.paths.baseline := by
    rw [of_loadBaseline_eq_ok hloaded, (hstart hlog).2.1]
  refine ⟨ready, measured, reached, hready, hmeasured, ?_⟩
  cases measured with
  | ok ratio => exact h
  | error abort => exact h

/-- An outcome tells of the ratio that was stored before. A ratio that it has itself is stored as the policy
says, and a pass always has one. -/
theorem outcome_of_run_eq_ok {gate : Gate} {outcome : Outcome} {world after : World}
    (hlog : world.LogsNoFile) (h : gate.run.run world = .ok outcome after) :
    outcome.baseline = known world.disk gate.settings.paths.baseline ∧
      outcome.baselineUpdated = (outcome.ratio.isSome && decide (Stores gate.settings outcome.verdict)) ∧
      (outcome.verdict = .pass → outcome.ratio.isSome = true) := by
  obtain ⟨ready, measured, reached, -, -, h⟩ := of_run_eq_ok hlog h
  cases measured with
  | error abort =>
      rw [of_breakOff_eq_ok h]
      refine ⟨rfl, rfl, ?_⟩
      intro hpass
      cases abort <;> cases hpass
  | ok ratio =>
      obtain ⟨percent, judgement, _, _, -, -, houtcome, -⟩ := of_conclude_eq_ok h
      rw [houtcome]
      exact ⟨rfl, rfl, fun _ => rfl⟩

end Gatekeeper.Gate
