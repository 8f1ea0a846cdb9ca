import Gatekeeper.Proofs.Baseline.Content
import Gatekeeper.Proofs.Baseline.Room
import Gatekeeper.Proofs.Gate.Judgement
import Gatekeeper.Proofs.Gate.Pipeline
import Gatekeeper.Proofs.Report.Bounds

/-! When a run in report-only mode comes to an outcome. What it reads and what it stores decide: a report with a
defect is told of, and a ratio that was read leads to a verdict, unless its percentage cannot be written or it is
to be stored and cannot be. A charset without a meaning and totals that cannot be written are not told of. -/

namespace Gatekeeper

open Work Files Number

namespace Gate

variable {settings : Settings} {ratio : Decimal} {baseline : Option Decimal} {world : World}

theorem ends_breakOff (baseline : Option Decimal) (abort : Abort) : Ends (breakOff baseline abort) := by
  refine Ends.bind (ends_print _) fun _ => Ends.bind (ends_log _ _ _) fun _ => ?_
  refine Ends.bind (ends_enter _) fun _ => Ends.bind (ends_print _) fun _ => ?_
  exact Ends.getBind fun _ => Ends.pure _

theorem ends_close (ratio : Decimal) (percent : Int) (baseline : Option Decimal) (judgement : Judgement)
    (updated : Bool) : Ends (close ratio percent baseline judgement updated) := by
  refine Ends.bind (ends_enter _) fun _ => Ends.bind (ends_print _) fun _ => ?_
  exact Ends.getBind fun _ => Ends.pure _

theorem ends_fetchReport (path : Path) (asked : String) : Ends (fetchReport path asked) := by
  refine Ends.getBind fun world => ?_
  cases Report.read world.disk path asked with
  | ok report =>
      refine Ends.bind (Ends.bind (Ends.forM (fun _ => ends_log _ _ _) _) fun _ => ends_log _ _ _) fun _ => ?_
      exact Ends.pure _
  | error cause => exact Ends.bind (Ends.pure _) fun _ => Ends.pure _

/-- What comes of the reading of a report is what a run goes on with. -/
theorem exists_readReport {path : Path} {result : Except Abort Decimal}
    (h : readResult world.disk path = some result) :
    ∃ after, (readReport path).run.run world = .ok result after := by
  obtain ⟨found, fetched, hfetched⟩ := ends_fetchReport path "" world
  refine ⟨fetched, ?_⟩
  rw [readReport, run_lift_bind_of_ok hfetched]
  rw [readResult, ← of_fetchReport_eq_ok hfetched] at h
  cases found with
  | ok report =>
      cases h
      rfl
  | error cause =>
      cases cause <;> cases h
      · rfl
      · rfl

/-- A run that has come to the report reads it. -/
theorem exists_measure_of_reachReport {gate : Gate} {result : Except Abort Decimal} {reached : World}
    (hlog : reached.LogsNoFile) (hreached : gate.reachReport.run.run world = .ok (.ok ()) reached)
    (h : readResult reached.disk gate.settings.paths.report = some result) :
    ∃ after, gate.measure.run.run world = .ok result after := by
  obtain ⟨_, parsing, hparsing⟩ := ends_enter .parse reached
  obtain ⟨_, printed, hprinted⟩ := ends_print "==> Coverage threshold check" parsing
  have hquiet : World.Rests reached printed := calc
    World.Rests reached parsing := (Run.rests_enter _).ofOk hparsing
    World.Rests _ printed := (Run.rests_print _).ofOk hprinted
  rw [← (hquiet hlog).2.1] at h
  obtain ⟨after, hread⟩ := exists_readReport h
  refine ⟨after, ?_⟩
  rw [measure, ExceptT.run_bind, run_bind_of_ok hreached]
  exact (run_lift_bind_of_ok hparsing _).trans ((run_lift_bind_of_ok hprinted _).trans hread)

theorem exists_measure {gate : Gate} {result : Except Abort Decimal} (hlog : world.LogsNoFile)
    (hskip : gate.settings.skipPipeline = true)
    (h : readResult world.disk gate.settings.paths.report = some result) :
    ∃ after, gate.measure.run.run world = .ok result after := by
  obtain ⟨_, building, hbuilding⟩ := ends_enter .buildAndTest world
  obtain ⟨_, generating, hgenerating⟩ := ends_enter .generateReport building
  have hreached : gate.reachReport.run.run world = .ok (.ok ()) generating := by
    rw [reachReport, if_pos hskip, passPipeline, run_lift_bind_of_ok hbuilding, ExceptT.run_liftM, map_eq_pure_bind,
      run_bind_of_ok hgenerating]
    rfl
  obtain ⟨hlater, hdisk⟩ := (of_reachReport_eq_ok hlog hreached).2 rfl
  rw [atParse, if_pos hskip] at hdisk
  exact exists_measure_of_reachReport hlater hreached (hdisk.symm ▸ h)

theorem stored_eq_of_save_eq_ok {disk after : Disk} {path : Path} {stored : Decimal}
    (h : Baseline.save disk path (.finite ratio) = (.ok stored, after)) : stored = ratio := by
  have hunit := (Baseline.of_save_eq_ok h).1
  exact (Numeral.finite.inj (Numeral.inUnit?_eq_some_iff.mp hunit).1).symm

theorem exists_storeNumeral_iff {path : Path} :
    (∃ after, (storeNumeral path (.finite ratio)).run world = .ok () after) ↔
      ∃ disk, Baseline.save world.disk path (.finite ratio) = (.ok ratio, disk) := by
  rw [run_storeNumeral]
  rcases hsave : Baseline.save world.disk path (.finite ratio) with ⟨⟨⟨_⟩ | ⟨_⟩⟩ | ⟨stored⟩, disk⟩
  · simp
  · simp
  · obtain rfl := stored_eq_of_save_eq_ok hsave
    simp

/-- A ratio that is to be stored has to be one that can be. -/
theorem exists_updateBaseline_iff (verdict : Verdict) :
    (∃ updated after, (updateBaseline settings verdict ratio baseline).run world = .ok updated after) ↔
      (Stores settings verdict → ∃ disk,
        Baseline.save world.disk settings.paths.baseline (.finite ratio) = (.ok ratio, disk)) := by
  rw [← exists_storeNumeral_iff, updateBaseline]
  split
  · rename_i hstores
    have hdecided : Stores settings verdict := by simpa [Stores, Verdict.passed] using hstores
    constructor
    · rintro ⟨updated, after, h⟩ -
      obtain ⟨_, stored, hstored, -⟩ := of_bind_eq_ok h
      exact ⟨stored, hstored⟩
    · intro h
      obtain ⟨stored, hstored⟩ := h hdecided
      exact ⟨true, _, run_bind_of_ok hstored _⟩
  · rename_i hstores
    have hdecided : ¬Stores settings verdict := by simpa [Stores, Verdict.passed] using hstores
    exact iff_of_true ⟨false, _, rfl⟩ fun h => absurd h hdecided

/-- A ratio leads to an outcome just when its percentage can be written and the ratio can be stored if it is
to be. -/
theorem exists_conclude_iff (hrange : settings.InRange) (hone : ratio.exceedsOne = false)
    (hbaseline : ∀ earlier, baseline = some earlier → earlier.inUnit = true) (hlog : world.LogsNoFile) :
    (∃ outcome after, (conclude settings ratio baseline).run world = .ok outcome after) ↔
      ∃ percent, toPercent (.finite ratio) = .ok percent ∧ (wholeText? percent).isSome = true ∧
        (settings.baselinePolicy = .always ∨ Passes settings baseline percent → ∃ disk,
          Baseline.save world.disk settings.paths.baseline (.finite ratio) = (.ok ratio, disk)) := by
  constructor
  · rintro ⟨outcome, after, h⟩
    obtain ⟨percent, judgement, judging, judged, storing, updated, stored, hpercent, hwritten, hjudged, hrests,
      hupdated, -⟩ := course_of_conclude_eq_ok h
    have hsave := (exists_updateBaseline_iff judgement.verdict).mp ⟨updated, stored, hupdated⟩
    rw [Stores, verdict_eq_pass_iff hrange hone hbaseline hpercent hjudged, (hrests hlog).2.1] at hsave
    exact ⟨percent, hpercent, hwritten, hsave⟩
  · rintro ⟨percent, hpercent, hwritten, hsave⟩
    obtain ⟨shown, first, hshown⟩ := ends_percentText hwritten world
    obtain ⟨_, second, hprinted⟩ := ends_print ("Current coverage: " ++ shown) first
    obtain ⟨_, judging, hentered⟩ := ends_enter .checkThreshold second
    obtain ⟨judgement, judged, hjudged⟩ := ends_judge hrange hone hbaseline hpercent hwritten judging
    obtain ⟨_, storing, hstation⟩ := ends_enter .updateBaseline judged
    have hrests : World.Rests world storing := calc
      World.Rests world first := (told_percentText _).ofOk hshown
      World.Rests _ second := (Run.rests_print _).ofOk hprinted
      World.Rests _ judging := (Run.rests_enter _).ofOk hentered
      World.Rests _ judged := (told_judge _ _ _ _).ofOk hjudged
      World.Rests _ storing := (Run.rests_enter _).ofOk hstation
    rw [← verdict_eq_pass_iff hrange hone hbaseline hpercent hjudged, ← (hrests hlog).2.1] at hsave
    obtain ⟨updated, stored, hupdated⟩ := (exists_updateBaseline_iff judgement.verdict).mpr hsave
    obtain ⟨outcome, after, hclosed⟩ := ends_close ratio percent baseline judgement updated stored
    refine ⟨outcome, after, ?_⟩
    rw [conclude, hpercent, checked, pure_bind, run_bind_of_ok hshown, run_bind_of_ok hprinted,
      run_bind_of_ok hentered, run_bind_of_ok hjudged, run_bind_of_ok hstation, run_bind_of_ok hupdated, hclosed]

/-- The stored ratio is looked up whatever is in its file, if the way to it leads somewhere. -/
theorem exists_loadBaseline {path : Path} {place : Location} (h : locate world.disk path = .ok place) :
    ∃ after, (loadBaseline path).run world = .ok (known world.disk path) after := by
  have hload := Baseline.load_of_locate h
  rw [loadBaseline, EStateM.run_bind, EStateM.run_get, known]
  simp only
  split at hload
  · split at hload <;> rw [hload]
    · exact ⟨_, rfl⟩
    · exact ⟨_, rfl⟩
  · rw [hload]
    exact ⟨_, rfl⟩

theorem readResult_of_measure_eq_ok {gate : Gate} {result : Except Abort Decimal} {after : World}
    (hlog : world.LogsNoFile) (hskip : gate.settings.skipPipeline = true)
    (h : gate.measure.run.run world = .ok result after) :
    readResult world.disk gate.settings.paths.report = some result := by
  have hmeasure := of_measure_eq_ok hlog h
  rw [wayResult, atParse, if_pos hskip, if_pos hskip] at hmeasure
  exact hmeasure.2

theorem inUnit_of_known_eq_some {disk : Disk} {path : Path} {earlier : Decimal}
    (h : known disk path = some earlier) : earlier.inUnit = true := by
  rw [known] at h
  split at h
  · rename_i hload
    exact Baseline.inUnit_of_load_eq_some (h ▸ hload)
  · cases h

/-- What has to be so for a run in report-only mode to come to an outcome: the report has a defect that is told
of, or its total has a percentage that can be written and can be stored if it is to be. -/
def Settles (gate : Gate) (disk : Disk) : Prop :=
  (∃ defect, Report.read disk gate.settings.paths.report "" = .error (.unreadable defect)) ∨
    ∃ report percent, Report.read disk gate.settings.paths.report "" = .ok report ∧
      toPercent (.finite report.total) = .ok percent ∧ (wholeText? percent).isSome = true ∧
      (gate.settings.baselinePolicy = .always ∨
          Passes gate.settings (known disk gate.settings.paths.baseline) percent →
        report.total.inUnit = true ∧ Baseline.HasRoom disk gate.settings.paths.baseline)

variable {gate : Gate} {bytes : List UInt8}

/-- The report of a run in report-only mode is there, so that the reading of it ends in one of two ways. -/
theorem readResult_cases {result : Except Abort Decimal}
    (hcontent : content? world.disk gate.settings.paths.report = some bytes)
    (h : readResult world.disk gate.settings.paths.report = some result) :
    (∃ defect, Report.read world.disk gate.settings.paths.report "" = .error (.unreadable defect) ∧
      result = .error (.reportUnparseable gate.settings.paths.report defect)) ∨
    ∃ report, Report.read world.disk gate.settings.paths.report "" = .ok report ∧ result = .ok report.total := by
  rw [readResult] at h
  split at h
  · rename_i report hread
    cases h
    exact .inr ⟨report, hread, rfl⟩
  · rename_i hread
    rw [Report.content?_of_read_eq_missing hread] at hcontent
    cases hcontent
  · rename_i defect hread
    cases h
    exact .inl ⟨defect, hread, rfl⟩
  · cases h

/-- A run goes on with what it has measured. -/
theorem run_of_measure_eq_ok {started ready reached : World} {baseline : Option Decimal}
    {measured : Except Abort Decimal}
    (hstarted : (Run.enter .start).run { world with phases := [] } = .ok () started)
    (hloaded : (loadBaseline gate.settings.paths.baseline).run started = .ok baseline ready)
    (hmeasured : gate.measure.run.run ready = .ok measured reached) :
    gate.run.run world = (match measured with
      | .ok total => conclude gate.settings total baseline
      | .error abort => breakOff baseline abort).run reached := by
  have hreset : (modify fun world => { world with phases := [] } : Run Unit).run world =
      .ok () { world with phases := [] } := rfl
  rw [Gate.run, run_bind_of_ok hreset, run_bind_of_ok hstarted, run_bind_of_ok hloaded]
  refine (run_bind_of_ok hmeasured _).trans ?_
  cases measured <;> rfl

/-- Before a run comes to read its report nothing that it relies on changes, and nothing escapes if there is a
way to the stored ratio. Then it goes on with what was read. -/
theorem exists_measured {place : Location} {result : Except Abort Decimal} (hlog : world.LogsNoFile)
    (hskip : gate.settings.skipPipeline = true)
    (hlocate : locate world.disk gate.settings.paths.baseline = .ok place)
    (h : readResult world.disk gate.settings.paths.report = some result) :
    ∃ reached, World.Rests world reached ∧
      (∀ total, result = .ok total → gate.run.run world =
        (conclude gate.settings total (known world.disk gate.settings.paths.baseline)).run reached) ∧
      ∀ abort, result = .error abort → gate.run.run world =
        (breakOff (known world.disk gate.settings.paths.baseline) abort).run reached := by
  obtain ⟨_, started, hstarted⟩ := ends_enter .start { world with phases := [] }
  have hforgotten : World.Rests world { world with phases := [] } := fun hlog => ⟨hlog, rfl, rfl⟩
  have hstart := IsTrans.trans _ _ _ hforgotten ((Run.rests_enter _).ofOk hstarted)
  rw [← (hstart hlog).2.1] at hlocate
  obtain ⟨ready, hloaded⟩ := exists_loadBaseline hlocate
  have hready := IsTrans.trans _ _ _ hstart ((told_loadBaseline _).ofOk hloaded)
  rw [(hstart hlog).2.1] at hloaded
  rw [← (hready hlog).2.1] at h
  obtain ⟨reached, hmeasured⟩ := exists_measure (hready hlog).1 hskip h
  refine ⟨reached, IsTrans.trans _ _ _ hready ((told_measure_of_skip hskip).ofOk hmeasured), ?_, ?_⟩
  · rintro total rfl
    exact run_of_measure_eq_ok hstarted hloaded hmeasured
  · rintro abort rfl
    exact run_of_measure_eq_ok hstarted hloaded hmeasured

/-- In report-only mode a run comes to an outcome just when the report and the store allow it. -/
theorem exists_run_iff (hlog : world.LogsNoFile) (hrange : gate.settings.InRange)
    (hskip : gate.settings.skipPipeline = true)
    (hcontent : content? world.disk gate.settings.paths.report = some bytes)
    (hplace : Baseline.HasPlace world.disk gate.settings.paths.baseline) :
    (∃ outcome after, gate.run.run world = .ok outcome after) ↔ gate.Settles world.disk := by
  have hbaseline : ∀ earlier, known world.disk gate.settings.paths.baseline = some earlier →
      earlier.inUnit = true := fun _ => inUnit_of_known_eq_some
  constructor
  · rintro ⟨outcome, after, h⟩
    obtain ⟨ready, measured, reached, hready, hmeasured, h⟩ := of_run_eq_ok hlog h
    have hresult := readResult_of_measure_eq_ok (hready hlog).1 hskip hmeasured
    have hreached := IsTrans.trans _ _ _ hready ((told_measure_of_skip hskip).ofOk hmeasured)
    obtain ⟨hlater, hdisk, -⟩ := hreached hlog
    rw [(hready hlog).2.1] at hresult
    rcases readResult_cases hcontent hresult with ⟨defect, hread, -⟩ | ⟨report, hread, rfl⟩
    · exact .inl ⟨defect, hread⟩
    · obtain ⟨percent, hpercent, hwritten, hsave⟩ :=
        (exists_conclude_iff hrange (Report.exceedsOne_total hread) hbaseline hlater).mp ⟨outcome, after, h⟩
      rw [hdisk, Baseline.save_eq_ok_iff hplace] at hsave
      exact .inr ⟨report, percent, hread, hpercent, hwritten, hsave⟩
  · obtain ⟨-, place, hlocate, -⟩ := id hplace
    rintro (⟨defect, hread⟩ | ⟨report, percent, hread, hpercent, hwritten, hsave⟩)
    · have hresult : readResult world.disk gate.settings.paths.report =
          some (.error (.reportUnparseable gate.settings.paths.report defect)) := by
        rw [readResult, hread]
      obtain ⟨reached, -, -, hrun⟩ := exists_measured hlog hskip hlocate hresult
      rw [hrun _ rfl]
      exact ends_breakOff _ _ reached
    · have hresult : readResult world.disk gate.settings.paths.report = some (.ok report.total) := by
        rw [readResult, hread]
      obtain ⟨reached, hreached, hrun, -⟩ := exists_measured hlog hskip hlocate hresult
      obtain ⟨hlater, hdisk, -⟩ := hreached hlog
      rw [hrun _ rfl, exists_conclude_iff hrange (Report.exceedsOne_total hread) hbaseline hlater, hdisk]
      refine ⟨percent, hpercent, hwritten, ?_⟩
      rwa [Baseline.save_eq_ok_iff hplace]

end Gate

end Gatekeeper
