import Gatekeeper.Proofs.Gate.Certificate

/-! Better measurements. Percentages keep the order of ratios, whatever number of digits these have, and so a higher
ratio, a lower minimum, a wider limit on drops and a lower ratio to compare with never turn a pass into a failure. -/

namespace Gatekeeper

open Work Files

/-- Whether a stored ratio, if there is one, is at most the one that another run compares with. -/
def Eases (before after : Option Decimal) : Prop :=
  ∀ later, after = some later → ∃ earlier, before = some earlier ∧ later.value ≤ earlier.value

namespace Gate

variable {gate gate' : Gate} {world world' after : World} {ratio ratio' : Decimal} {outcome : Outcome}
  {percent percent' : Int}

/-- Whether a gate with settings in range is to be run in report-only mode in a world, on a report with this ratio. -/
structure Measures (gate : Gate) (world : World) (ratio : Decimal) : Prop where
  logsNoFile : world.LogsNoFile
  inRange : gate.settings.InRange
  reportOnly : gate.settings.skipPipeline = true
  report : ∃ report, Report.read world.disk gate.settings.paths.report "" = .ok report ∧ report.total = ratio
  inUnit : ratio.inUnit = true

/-- Whether a run in a world has no lower ratio, no higher minimum, no narrower limit on drops and no higher ratio to
compare with than another one. -/
structure Improves (gate : Gate) (world : World) (ratio : Decimal) (gate' : Gate) (world' : World)
    (ratio' : Decimal) : Prop where
  ratio : ratio.value ≤ ratio'.value
  minimum : gate'.settings.minCoverage ≤ gate.settings.minCoverage
  limit : gate.settings.maxDrop.value ≤ gate'.settings.maxDrop.value
  baseline : Eases (known world.disk gate.settings.paths.baseline) (known world'.disk gate'.settings.paths.baseline)

/-- A run on a report comes to an outcome where the ratio can be stored. -/
theorem Measures.exists_run (h : gate.Measures world ratio)
    (hplace : Baseline.HasPlace world.disk gate.settings.paths.baseline)
    (hroom : Baseline.HasRoom world.disk gate.settings.paths.baseline) :
    ∃ outcome after, gate.run.run world = .ok outcome after := by
  obtain ⟨report, hread, rfl⟩ := h.report
  obtain ⟨bytes, hcontent, -⟩ := Report.of_read_eq_ok hread
  obtain ⟨percent, hpercent⟩ := exists_toPercent h.inUnit
  obtain ⟨hleast, hmost⟩ := toPercent_bounds h.inUnit hpercent
  rw [exists_run_iff h.logsNoFile h.inRange h.reportOnly hcontent hplace]
  exact .inr ⟨report, percent, hread, hpercent, Number.isSome_wholeText? (by omega), fun _ => ⟨h.inUnit, hroom⟩⟩

/-- The verdict of a run on a report is a pass when the percentage passes, and below the minimum when that is. -/
theorem Measures.verdict_iff (h : gate.Measures world ratio) (hpercent : toPercent (.finite ratio) = .ok percent)
    (hrun : gate.run.run world = .ok outcome after) :
    (outcome.verdict = .pass ↔
        Passes gate.settings (known world.disk gate.settings.paths.baseline) percent) ∧
      (outcome.verdict = .belowMinimum ↔ percent < gate.settings.minCoverage) := by
  obtain ⟨report, hread, rfl⟩ := h.report
  have hway : gate.wayResult world.tools = .ok () := by rw [wayResult, if_pos h.reportOnly]
  have hparse : gate.atParse world.disk world.tools = world.disk := by rw [atParse, if_pos h.reportOnly]
  rw [← hparse] at hread
  have hbaseline := (outcome_of_run_eq_ok h.logsNoFile hrun).1
  obtain ⟨-, hpass⟩ := verdict_eq_pass_iff_of_read h.logsNoFile h.inRange hway hread hpercent hrun
  obtain ⟨-, judgement, judging, judged, hverdict, hjudged⟩ :=
    judged_of_run_eq_ok h.logsNoFile hway hread hpercent hrun
  rw [hbaseline] at hpass
  refine ⟨hpass, ?_⟩
  rw [hverdict]
  rcases of_judge_eq_ok hpercent hjudged with ⟨hlow, hjudgement⟩ | ⟨hgood, check, -, hjudgement⟩
  · exact iff_of_true hjudgement hlow
  · apply iff_of_false _ (Int.not_lt.mpr hgood)
    rw [hjudgement]
    split <;> simp

/-- A percentage that passes goes on to pass when everything gets better. -/
theorem Improves.passes (h : gate.Improves world ratio gate' world' ratio') (hrange : gate.settings.InRange)
    (hrange' : gate'.settings.InRange) (hle : percent ≤ percent')
    (hpasses : Passes gate.settings (known world.disk gate.settings.paths.baseline) percent) :
    Passes gate'.settings (known world'.disk gate'.settings.paths.baseline) percent' := by
  obtain ⟨hminimum, hdrop⟩ := hpasses
  refine ⟨h.minimum.trans (hminimum.trans hle), ?_⟩
  intro later laterPercent hlater hlaterPercent
  obtain ⟨earlier, hearlier, hvalue⟩ := h.baseline later hlater
  have hunit : earlier.inUnit = true := inUnit_of_known_eq_some hearlier
  obtain ⟨earlierPercent, hearlierPercent⟩ := exists_toPercent hunit
  have hpoints := toPercent_mono (inUnit_of_known_eq_some hlater) hunit hvalue hlaterPercent hearlierPercent
  have hallows := hdrop earlier earlierPercent hearlier hearlierPercent
  rw [Binary64.allows_iff_of_isFinite hrange.maxDrop.1] at hallows
  rw [Binary64.allows_iff_of_isFinite hrange'.maxDrop.1]
  have hless : ((laterPercent - percent' : Int) : ℚ) ≤ ((earlierPercent - percent : Int) : ℚ) := by
    exact_mod_cast Int.sub_le_sub hpoints hle
  exact hless.trans (hallows.trans h.limit)

/-- Better measurements never hurt: where a run passes, so does one that improves on it, and where a run is not below
the minimum, neither is the other one. That one comes to an outcome wherever its ratio can be stored. -/
theorem verdict_mono (hmeasures : gate.Measures world ratio) (hmeasures' : gate'.Measures world' ratio')
    (himproves : gate.Improves world ratio gate' world' ratio') (h : gate.run.run world = .ok outcome after) :
    (∀ outcome' after', gate'.run.run world' = .ok outcome' after' →
        (outcome.verdict = .pass → outcome'.verdict = .pass) ∧
        (outcome.verdict ≠ .belowMinimum → outcome'.verdict ≠ .belowMinimum)) ∧
      (Baseline.HasPlace world'.disk gate'.settings.paths.baseline →
        Baseline.HasRoom world'.disk gate'.settings.paths.baseline →
        ∃ outcome' after', gate'.run.run world' = .ok outcome' after') := by
  refine ⟨?_, hmeasures'.exists_run⟩
  intro outcome' after' h'
  obtain ⟨percent, hpercent⟩ := exists_toPercent hmeasures.inUnit
  obtain ⟨percent', hpercent'⟩ := exists_toPercent hmeasures'.inUnit
  have hle := toPercent_mono hmeasures.inUnit hmeasures'.inUnit himproves.ratio hpercent hpercent'
  obtain ⟨hpass, hbelow⟩ := hmeasures.verdict_iff hpercent h
  obtain ⟨hpass', hbelow'⟩ := hmeasures'.verdict_iff hpercent' h'
  constructor
  · intro hverdict
    rw [hpass']
    exact himproves.passes hmeasures.inRange hmeasures'.inRange hle (hpass.mp hverdict)
  · intro hverdict hlow
    have hminimum := himproves.minimum
    have hless := hbelow'.mp hlow
    exact hverdict (hbelow.mpr (by omega))

/-- Three lines of four pass a minimum of seventy points, and so seven of eight pass one of sixty. -/
theorem verdict_mono_of_more_lines :
    let gate (minimum : Int) := Gate.ofSettings
      ⟨minimum, .zero, .llvmCov, ".", "coverage", some "r.info", some "b.txt", 300, .always, true, "INFO"⟩
    let world (bytes : List UInt8) :=
      World.fresh ((Disk.empty ["home"]).create ["home", "r.info"] false bytes) ⟨[], []⟩
    let first := world (Text.encodeUtf8 "LF:4\nLH:3\n")
    let second := world (Text.encodeUtf8 "LF:8\nLH:7\n")
    ∃ outcome after outcome' after', (gate 70).run.run first = .ok outcome after ∧
      (gate 60).run.run second = .ok outcome' after' ∧ outcome.verdict = .pass ∧ outcome'.verdict = .pass := by
  intro gate world first second
  have hmeasures (minimum : Int) (bytes : List UInt8) (total : Decimal) (hminimum : 0 ≤ minimum ∧ minimum ≤ 100)
      (hread : Lcov.read bytes = .ok total) (hunit : total.inUnit = true) :
      (gate minimum).Measures (world bytes) total := by
    refine ⟨World.logsNoFile_fresh _ _, ⟨hminimum, ⟨rfl, rfl⟩, by show (1 : Int) ≤ 300; decide⟩, rfl, ?_, hunit⟩
    have hcontent : content? (world bytes).disk (gate minimum).settings.paths.report = some bytes := by cbv
    have hformat : ReportFormat.resolve (gate minimum).settings.paths.report "" = .lcov := by cbv
    rw [Report.read_of_content?_eq_some hcontent, hformat, Report.ofBytes, Report.ofRecords, hread]
    exact ⟨_, rfl, rfl⟩
  have hplace (minimum : Int) (bytes : List UInt8) :
      locate (world bytes).disk (gate minimum).settings.paths.baseline = .ok ["home", "b.txt"] := by cbv
  have hnone (minimum : Int) (bytes : List UInt8) :
      known (world bytes).disk (gate minimum).settings.paths.baseline = none := by
    rw [known, Baseline.load_of_locate (hplace minimum bytes)]
    rfl
  have hstores (minimum : Int) (bytes : List UInt8) :
      Baseline.HasPlace (world bytes).disk (gate minimum).settings.paths.baseline ∧
        Baseline.HasRoom (world bytes).disk (gate minimum).settings.paths.baseline := by
    have htree : (world bytes).disk.IsTree ["home"] := by
      refine (Disk.isTree_empty ["home"]).create ?_ ?_ false bytes <;> decide
    have hpath : (gate minimum).settings.paths.baseline = ⟨.relative, ["b.txt"]⟩ := by cbv
    have hnode : (world bytes).disk.node? ["home", "b.txt"] = none := rfl
    have hcount : (world bytes).disk.entries.length = 3 := rfl
    refine Baseline.hasPlace_and_hasRoom_of_isTree htree (hplace minimum bytes) (by simp [hnode]) (by decide)
      (by simp [hcount]) ?_
    rw [hpath]
    decide +kernel
  have hfirst : (gate 70).Measures first ⟨false, 75, -2⟩ :=
    hmeasures 70 _ _ (by decide) (by decide +kernel) (by decide +kernel)
  have hsecond : (gate 60).Measures second ⟨false, 875, -3⟩ :=
    hmeasures 60 _ _ (by decide) (by decide +kernel) (by decide +kernel)
  have himproves : (gate 70).Improves first ⟨false, 75, -2⟩ (gate 60) second ⟨false, 875, -3⟩ := by
    refine ⟨by norm_num [Decimal.value, Decimal.size], by decide, le_rfl, ?_⟩
    intro later hlater
    rw [hnone 60] at hlater
    cases hlater
  obtain ⟨outcome, after, hrun⟩ := hfirst.exists_run (hstores 70 _).1 (hstores 70 _).2
  obtain ⟨hmono, hends⟩ := verdict_mono hfirst hsecond himproves hrun
  obtain ⟨outcome', after', hrun'⟩ := hends (hstores 60 _).1 (hstores 60 _).2
  have hpercent : toPercent (.finite ⟨false, 75, -2⟩) = .ok 75 := by
    rw [toPercent_eq_ok_iff]
    decide +kernel
  have hpass : outcome.verdict = .pass := by
    rw [(hfirst.verdict_iff hpercent hrun).1, hnone 70]
    exact ⟨by decide, by simp⟩
  exact ⟨outcome, after, outcome', after', hrun, hrun', hpass, (hmono outcome' after' hrun').1 hpass⟩

end Gate

end Gatekeeper
