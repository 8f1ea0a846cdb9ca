import Gatekeeper.Proofs.Gate.Ending
import Gatekeeper.Proofs.Percentage

/-! What a pass says of the exact ratios. Percentages are whole parts, so that less than one point of a drop can
be hidden. A ratio with more digits than are kept may be carried up to a percentage before the rest is cut off, so
that a pass certifies the minimum up to that little; a drop is not hidden by it, because the higher of the two
ratios would be carried up as well. -/

namespace Gatekeeper

open Work Files

namespace Gate

variable {gate : Gate} {world after : World} {outcome : Outcome}

/-- A pass is one of a ratio that was read and stored. -/
theorem of_run_eq_pass (hlog : world.LogsNoFile) (h : gate.run.run world = .ok outcome after)
    (hpass : outcome.verdict = .pass) :
    gate.wayResult world.tools = .ok () ∧ ∃ report,
      Report.read (gate.atParse world.disk world.tools) gate.settings.paths.report "" = .ok report ∧
        report.total.inUnit = true := by
  obtain ⟨ready, measured, reached, hready, hmeasured, h⟩ := of_run_eq_ok hlog h
  have hmeasure := of_measure_eq_ok (hready hlog).1 hmeasured
  cases measured with
  | error abort =>
      rw [of_breakOff_eq_ok h] at hpass
      cases abort <;> cases hpass
  | ok ratio =>
      rw [(hready hlog).2.1, (hready hlog).2.2] at hmeasure
      split at hmeasure
      · cases hmeasure
      · rename_i hway
        obtain ⟨hlater, hresult⟩ := hmeasure
        obtain ⟨report, hread, rfl⟩ := of_readResult_eq_ok hresult
        obtain ⟨percent, judgement, judging, judged, -, -, houtcome, hupdates⟩ := of_conclude_eq_ok h
        have hstores : Stores gate.settings judgement.verdict := by
          rw [houtcome] at hpass
          exact .inr hpass
        rw [decide_eq_true hstores] at hupdates
        exact ⟨hway, report, hread, (hupdates hlater).2.1⟩

/-- A report that was read is judged by its percentage against the ratio that was stored before. -/
theorem judged_of_run_eq_ok {report : Report} {percent : Int} (hlog : world.LogsNoFile)
    (hway : gate.wayResult world.tools = .ok ())
    (hread : Report.read (gate.atParse world.disk world.tools) gate.settings.paths.report "" = .ok report)
    (hpercent : toPercent (.finite report.total) = .ok percent)
    (h : gate.run.run world = .ok outcome after) :
    outcome.ratio = some report.total ∧ ∃ judgement judging judged, outcome.verdict = judgement.verdict ∧
      (judge gate.settings report.total percent outcome.baseline).run judging = .ok judgement judged := by
  obtain ⟨ready, measured, reached, hready, hmeasured, h⟩ := of_run_eq_ok hlog h
  have hmeasure := of_measure_eq_ok (hready hlog).1 hmeasured
  rw [(hready hlog).2.1, (hready hlog).2.2, hway] at hmeasure
  have hresult := hmeasure.2
  rw [readResult, hread] at hresult
  cases hresult
  obtain ⟨other, judgement, judging, judged, hother, hjudged, houtcome, -⟩ := of_conclude_eq_ok h
  rw [hpercent] at hother
  cases hother
  rw [houtcome]
  exact ⟨rfl, judgement, judging, judged, rfl, hjudged⟩

/-- The verdict on a report that was read is a pass just when its percentage passes. -/
theorem verdict_eq_pass_iff_of_read {report : Report} {percent : Int} (hlog : world.LogsNoFile)
    (hrange : gate.settings.InRange) (hway : gate.wayResult world.tools = .ok ())
    (hread : Report.read (gate.atParse world.disk world.tools) gate.settings.paths.report "" = .ok report)
    (hpercent : toPercent (.finite report.total) = .ok percent)
    (h : gate.run.run world = .ok outcome after) :
    outcome.ratio = some report.total ∧
      (outcome.verdict = .pass ↔ Passes gate.settings outcome.baseline percent) := by
  obtain ⟨hratio, judgement, judging, judged, hverdict, hjudged⟩ := judged_of_run_eq_ok hlog hway hread hpercent h
  rw [(outcome_of_run_eq_ok hlog h).1] at hjudged ⊢
  rw [hverdict]
  exact ⟨hratio, verdict_eq_pass_iff hrange (Report.exceedsOne_total hread)
    (fun _ => inUnit_of_known_eq_some) hpercent hjudged⟩

/-- A pass certifies that the exact ratio is at least the minimum, but for the slack of a ratio with more digits
than are kept, and that it is less than one point more than the limit below the ratio that was stored before. -/
theorem pass_certifies (hlog : world.LogsNoFile) (hrange : gate.settings.InRange)
    (h : gate.run.run world = .ok outcome after) (hpass : outcome.verdict = .pass) :
    ∃ ratio, outcome.ratio = some ratio ∧
      (gate.settings.minCoverage : ℚ) ≤ 100 * ratio.value + ratio.slack gate.settings.minCoverage.toNat ∧
      ∀ earlier, outcome.baseline = some earlier →
        100 * (earlier.value - ratio.value) < gate.settings.maxDrop.value + 1 := by
  obtain ⟨hway, report, hread, hunit⟩ := of_run_eq_pass hlog h hpass
  have hpercent := toPercent_eq_ok_iff.mpr (Decimal.percent_eq_floor hunit)
  obtain ⟨hratio, hverdict⟩ := verdict_eq_pass_iff_of_read hlog hrange hway hread hpercent h
  obtain ⟨hminimum, hdrop⟩ := hverdict.mp hpass
  refine ⟨report.total, hratio, ?_, fun earlier hearlier => ?_⟩
  · obtain ⟨hleast, hmost⟩ := hrange.minCoverage
    obtain ⟨minimum, hwhole⟩ := Int.eq_ofNat_of_zero_le hleast
    rw [hwhole] at hmost hminimum ⊢
    exact_mod_cast (le_toPercent_iff hunit hpercent (by omega)).mp hminimum
  · have hbaseline : earlier.inUnit = true := by
      rw [(outcome_of_run_eq_ok hlog h).1] at hearlier
      exact inUnit_of_known_eq_some hearlier
    have hearlierPercent := toPercent_eq_ok_iff.mpr (Decimal.percent_eq_floor hbaseline)
    have hallows := hdrop earlier _ hearlier hearlierPercent
    rw [Binary64.allows_iff_of_isFinite hrange.maxDrop.1] at hallows
    have hless := drop_lt hbaseline hunit hearlierPercent hpercent
    have hmost := max_le hallows (Binary64.value_nonneg hrange.maxDrop.2)
    linarith

/-- A ratio below one half passes with fifty percent: its thirty-two digits are rounded up. -/
theorem pass_certifies_of_long_ratio :
    let gate := Gate.ofSettings
      ⟨50, .zero, .tarpaulin, ".", "coverage", none, none, 300, .always, true, "INFO"⟩
    let bytes := Text.encodeUtf8 "<a line-rate='0.49999999999999999999999999999999'/>"
    let disk := ((Disk.empty ["home"]).put ["home", "coverage"] .directory).create
      ["home", "coverage", "cobertura.xml"] false bytes
    let world := World.fresh disk ⟨[], []⟩
    ∃ outcome after ratio, gate.run.run world = .ok outcome after ∧ outcome.verdict = .pass ∧
      outcome.ratio = some ratio ∧ 100 * ratio.value < gate.settings.minCoverage ∧
      (gate.settings.minCoverage : ℚ) ≤
        100 * ratio.value + ratio.slack gate.settings.minCoverage.toNat := by
  intro gate bytes disk world
  let total : Decimal := ⟨false, 49999999999999999999999999999999, -32⟩
  have hlog : world.LogsNoFile := World.logsNoFile_fresh disk ⟨[], []⟩
  have hrange : gate.settings.InRange := by decide
  have hcontent : content? disk gate.settings.paths.report = some bytes := by
    clear_value bytes
    cbv
  have hread : ∃ report, Report.read disk gate.settings.paths.report "" = .ok report ∧ report.total = total :=
    Report.exists_read_of_marker "0.49999999999999999999999999999999" hcontent (by decide) (by decide +kernel)
      (by decide +kernel)
  obtain ⟨report, hread, htotal⟩ := hread
  have hpercent : toPercent (.finite report.total) = .ok 50 := by
    rw [htotal, toPercent_eq_ok_iff]
    decide +kernel
  have hlocate : locate disk gate.settings.paths.baseline = .ok ["home", "coverage", "baseline.txt"] := by
    clear_value bytes
    cbv
  have htree : disk.IsTree ["home"] := by
    refine ((Disk.isTree_empty ["home"]).put ?_ ?_ .directory).create ?_ ?_ false bytes <;> decide
  obtain ⟨hplace, hroom⟩ := Baseline.hasPlace_and_hasRoom_of_isTree htree hlocate (by decide) (by decide) (by decide)
    (by decide +kernel)
  have hunit : report.total.inUnit = true := by
    rw [htotal]
    decide +kernel
  have hsettles : gate.Settles disk :=
    .inr ⟨report, 50, hread, hpercent, Number.isSome_wholeText? (by decide), fun _ => ⟨hunit, hroom⟩⟩
  obtain ⟨outcome, after, hrun⟩ := (exists_run_iff hlog hrange rfl hcontent hplace).mpr hsettles
  obtain ⟨hratio, hverdict⟩ := verdict_eq_pass_iff_of_read hlog hrange rfl hread hpercent hrun
  have hpass : outcome.verdict = .pass := by
    have hbaseline : outcome.baseline = none := by
      rw [(outcome_of_run_eq_ok hlog hrun).1]
      change known disk gate.settings.paths.baseline = none
      rw [known, Baseline.load_of_locate hlocate]
      rfl
    rw [hverdict, hbaseline]
    exact ⟨le_rfl, by simp⟩
  obtain ⟨ratio, hcertified, hminimum, -⟩ := pass_certifies hlog hrange hrun hpass
  refine ⟨outcome, after, ratio, hrun, hpass, hcertified, ?_, hminimum⟩
  rw [hratio, htotal] at hcertified
  cases hcertified
  norm_num [Decimal.value, Decimal.size, total, gate, Gate.ofSettings]

end Gate

end Gatekeeper
