import Gatekeeper.Proofs.Baseline.Again
import Gatekeeper.Proofs.Gate.Certificate
import Gatekeeper.Proofs.Gate.Effect
import Gatekeeper.Proofs.Gate.Telling

/-! Running a gate again in report-only mode. A first run stores the ratio of the report or changes nothing; either
way what the next run reads, loads and stores is what the run after it does, so that all of them come to the same
outcome and leave the same ratio. -/

namespace Gatekeeper

open Work Files Disk Number

namespace Work

variable {ε σ α : Type}

/-- Work that comes to the same value from every state of a kind, and leaves one of that kind, does so however often
it has been done. -/
theorem run_iterate_eq_ok {work : EStateM ε σ α} {value : α} {Kind : σ → Prop}
    (hstep : ∀ state, Kind state → ∃ later, work.run state = .ok value later ∧ Kind later) {start : σ}
    (hstart : Kind start) (n : Nat) :
    ∃ later, work.run ((finish work)^[n] start) = .ok value later ∧ Kind later := by
  suffices h : Kind ((finish work)^[n] start) from hstep _ h
  induction n with
  | zero => exact hstart
  | succ n ih =>
      obtain ⟨later, hrun, hlater⟩ := hstep _ ih
      rwa [Function.iterate_succ_apply', finish_of_ok hrun]

end Work

namespace Baseline

variable {disk after : Disk} {path : Path} {ratio : Decimal} {value : Numeral}

/-- A ratio that was stored stands in no directory's place. -/
theorem directory_of_save_eq_ok (h : save disk path value = (.ok ratio, after)) {left : Location}
    (hleft : disk.node? left = some .directory) : after.node? left = some .directory := by
  rw [save_eq] at h
  split at h
  · cases h
  · split at h
    · rename_i hstored
      cases h
      obtain ⟨target, id, -, hdirectory, -, -, hother⟩ := of_replaceContent_eq_ok hstored
      have hmade : Drifts StaysDirectory disk.home left disk (finish (ensureDirectory path.parent) disk) :=
        keeps_ensureDirectory path.parent disk
      have hleft := (hmade rfl).2 hleft
      have hne : left ≠ target := by
        rintro rfl
        exact hdirectory hleft
      rw [hother left hne, hleft]
    · cases h

/-- A file that is not the stored ratio's own is read as before once a ratio was stored. -/
theorem content?_of_save_eq_ok {other : Path} {bytes : List UInt8} (h : save disk path value = (.ok ratio, after))
    (hother : nominal disk.home other ≠ nominal disk.home path) (hcontent : content? disk other = some bytes) :
    content? after other = some bytes := by
  obtain ⟨place, hlocate, hbytes⟩ := content?_eq_some_iff.mp hcontent
  obtain ⟨-, hhome, -⟩ := of_save_eq_ok h
  have hstays : Drifts Stays disk.home place disk (save disk path value).2 := by
    apply drifts_save
    rwa [eq_nominal_of_locate hlocate]
  rw [h] at hstays
  refine content?_eq_some_iff.mpr ⟨place, locate_of_locate hlocate hhome fun left hleft => ?_, ?_⟩
  · exact directory_of_save_eq_ok h (directory_of_locate hlocate left hleft)
  · rw [bytes?_of_stays (hstays rfl).2, hbytes]

end Baseline

namespace Gate

variable {gate : Gate} {home : Location} {report : Report} {world after : World}

/-- What lasts from run to run once the ratio of a report was stored: the report is there, its ratio is stored, and
it can be stored again. -/
structure Repeats (gate : Gate) (home : Location) (report : Report) (disk : Disk) : Prop where
  home_eq : disk.home = home
  read : Report.read disk gate.settings.paths.report "" = .ok report
  holds : Baseline.Holds disk gate.settings.paths.baseline report.total
  save : ∃ after, Baseline.save disk gate.settings.paths.baseline (.finite report.total) = (.ok report.total, after)

theorem repeats_of_save {disk after : Disk}
    (hpaths : nominal disk.home gate.settings.paths.baseline ≠ nominal disk.home gate.settings.paths.report)
    (hread : Report.read disk gate.settings.paths.report "" = .ok report)
    (hsave : Baseline.save disk gate.settings.paths.baseline (.finite report.total) = (.ok report.total, after)) :
    gate.Repeats disk.home report after := by
  obtain ⟨-, hhome, hholds⟩ := Baseline.of_save_eq_ok hsave
  obtain ⟨bytes, hcontent, hbytes⟩ := Report.of_read_eq_ok hread
  refine ⟨hhome, ?_, hholds, Baseline.exists_save_of_save_eq_ok hsave⟩
  rw [Report.read_of_content?_eq_some (Baseline.content?_of_save_eq_ok hsave hpaths.symm hcontent), hbytes]

theorem Repeats.inUnit {disk : Disk} (h : gate.Repeats home report disk) : report.total.inUnit = true := by
  obtain ⟨after, hsave⟩ := h.save
  exact (Numeral.inUnit?_eq_some_iff.mp (Baseline.of_save_eq_ok hsave).1).2

theorem Repeats.load {disk : Disk} (h : gate.Repeats home report disk) :
    Baseline.load disk gate.settings.paths.baseline = .ok (some report.total) :=
  Baseline.isStored_of_holds h.inUnit (Report.isBounded_total h.read h.inUnit) h.holds

/-- What two disks have to share for a run in report-only mode to do the same on both, when it stores a ratio of some
kind if any. -/
structure Shares (gate : Gate) (p : Decimal → Prop) (D : Disk → Disk → Prop) : Prop where
  load {one other : Disk} : D one other →
    Baseline.load one gate.settings.paths.baseline = Baseline.load other gate.settings.paths.baseline
  read {one other : Disk} : D one other →
    Report.read one gate.settings.paths.report "" = Report.read other gate.settings.paths.report ""
  total {one other : Disk} {report : Report} : D one other →
    Report.read one gate.settings.paths.report "" = .ok report → p report.total
  saved {one other : Disk} {ratio : Decimal} : D one other → p ratio →
    (Baseline.save one gate.settings.paths.baseline (.finite ratio)).1 =
      (Baseline.save other gate.settings.paths.baseline (.finite ratio)).1
  save {one other : Disk} {ratio : Decimal} : D one other → p ratio →
    D (Baseline.save one gate.settings.paths.baseline (.finite ratio)).2
      (Baseline.save other gate.settings.paths.baseline (.finite ratio)).2

theorem Shares.agree_run {p : Decimal → Prop} {D : Disk → Disk → Prop} (h : gate.Shares p D)
    (hskip : gate.settings.skipPipeline = true) {one other : World} (hone : one.LogsNoFile)
    (hother : other.LogsNoFile) (hdisk : D one.disk other.disk) :
    Agree (World.Same D) (fun _ => World.Same D) (gate.run.run one) (gate.run.run other) := by
  have hmeasure : Relates (World.Same D) (World.Same D)
      (Either (World.Same D) fun ratio one other => World.Same D one other ∧ p ratio) gate.measure.run :=
    relates_measure_of_skip hskip (fun _ _ hsame => h.read hsame.disk) fun _ _ _ hsame => h.total hsame.disk
  have hrun := relates_run (fun (one other : World) hsame => hsame) (fun _ _ hsame => h.load hsame.disk) hmeasure
    (fun _ _ => id) (fun _ _ => id) fun ratio hratio =>
      relates_storeNumeral (fun _ _ hsame => h.saved hsame.disk hratio)
        fun _ _ hsame => ⟨hsame.logsNoFile, hsame.logsNoFile', h.save hsame.disk hratio, hsame.phases⟩
  exact hrun one other ⟨hone, hother, hdisk, rfl⟩

/-- A run does the same from worlds that differ in what was told before only. -/
theorem shares_eq (gate : Gate) : gate.Shares (fun _ => True) Eq where
  load h := h ▸ rfl
  read h := h ▸ rfl
  total _ _ := trivial
  saved h _ := h ▸ rfl
  save h _ := h ▸ rfl

theorem logsNoFile_of_run_eq_ok {outcome : Outcome} (hlog : world.LogsNoFile)
    (hskip : gate.settings.skipPipeline = true) (h : gate.run.run world = .ok outcome after) : after.LogsNoFile := by
  have hagree := (shares_eq gate).agree_run hskip hlog hlog rfl
  rw [h] at hagree
  obtain ⟨later, hlater, hsame⟩ := hagree.exists_of_ok
  exact hsame.logsNoFile

/-- A run does the same wherever a report repeats. -/
theorem shares_repeats
    (hpaths : nominal home gate.settings.paths.baseline ≠ nominal home gate.settings.paths.report) :
    gate.Shares (· = report.total) fun one other => gate.Repeats home report one ∧ gate.Repeats home report other where
  load h := h.1.load.trans h.2.load.symm
  read h := h.1.read.trans h.2.read.symm
  total h hread := by
    rw [h.1.read] at hread
    cases hread
    rfl
  saved h hratio := by
    obtain ⟨after, hsave⟩ := h.1.save
    obtain ⟨after', hsave'⟩ := h.2.save
    rw [hratio, hsave, hsave']
  save h hratio := by
    obtain ⟨after, hsave⟩ := h.1.save
    obtain ⟨after', hsave'⟩ := h.2.save
    have hone := repeats_of_save (h.1.home_eq ▸ hpaths) h.1.read hsave
    have hother := repeats_of_save (h.2.home_eq ▸ hpaths) h.2.read hsave'
    rw [h.1.home_eq] at hone
    rw [h.2.home_eq] at hother
    rw [hratio, hsave, hsave']
    exact ⟨hone, hother⟩

/-- What the storing of a ratio, or the leaving of the stored one, does to the disk. -/
def Leaves (settings : Settings) (ratio : Decimal) (verdict : Verdict) (before after : Disk) : Prop :=
  if Stores settings verdict then
    Baseline.save before settings.paths.baseline (.finite ratio) = (.ok ratio, after)
  else after = before

theorem leaves_of_updateBaseline_eq_ok {settings : Settings} {verdict : Verdict} {ratio : Decimal}
    {baseline : Option Decimal} {updated : Bool} (hlog : world.LogsNoFile)
    (h : (updateBaseline settings verdict ratio baseline).run world = .ok updated after) :
    after.LogsNoFile ∧ Leaves settings ratio verdict world.disk after.disk := by
  rw [Leaves]
  split
  · rename_i hstores
    obtain ⟨disk, hsave⟩ := (exists_updateBaseline_iff verdict).mp ⟨updated, after, h⟩ hstores
    have htest : (settings.baselinePolicy = .always || verdict.passed) = true := by
      simpa [Stores, Verdict.passed] using hstores
    rw [updateBaseline, if_pos htest] at h
    obtain ⟨_, stored, hstored, h⟩ := of_bind_eq_ok h
    obtain ⟨_, logged, hlogged, h⟩ := of_bind_eq_ok h
    cases h
    rw [run_storeNumeral, hsave] at hstored
    cases hstored
    have hlater : World.LogsNoFile { world with disk := disk } := hlog
    obtain ⟨hlogs, hdisk, -⟩ := (Run.rests_log _ _ _).ofOk hlogged (World.logsNoFile_record hlater _)
    rw [hdisk, World.record_disk hlater, hsave]
    exact ⟨hlogs, rfl⟩
  · rename_i hleaves
    obtain ⟨hupdated, hupdates⟩ := of_updateBaseline_eq_ok h
    rw [hupdated, decide_eq_false hleaves] at hupdates
    exact ⟨(hupdates hlog).1, (hupdates hlog).2.1⟩

theorem leaves_of_conclude_eq_ok {settings : Settings} {ratio : Decimal} {baseline : Option Decimal}
    {outcome : Outcome} (hlog : world.LogsNoFile)
    (h : (conclude settings ratio baseline).run world = .ok outcome after) :
    Leaves settings ratio outcome.verdict world.disk after.disk := by
  obtain ⟨percent, judgement, _, _, storing, updated, stored, -, -, -, hrests, hupdated, hclosed⟩ :=
    course_of_conclude_eq_ok h
  obtain ⟨hlater, hdisk, -⟩ := hrests hlog
  obtain ⟨hlogged, hleaves⟩ := leaves_of_updateBaseline_eq_ok hlater hupdated
  have hverdict : outcome.verdict = judgement.verdict := by rw [of_close_eq_ok hclosed]
  have hlast : World.Rests stored after := (told_close _ _ _ _ _).ofOk hclosed
  rwa [hverdict, (hlast hlogged).2.1, ← hdisk]

/-- In report-only mode a run stores the ratio of the report, or it leaves the disk as it is. -/
theorem disk_of_run_eq_ok {outcome : Outcome} (hlog : world.LogsNoFile)
    (hskip : gate.settings.skipPipeline = true) (h : gate.run.run world = .ok outcome after) :
    (storable gate.settings outcome = none ∧ after.disk = world.disk) ∨
      Stores gate.settings outcome.verdict ∧ ∃ report,
        Report.read world.disk gate.settings.paths.report "" = .ok report ∧
        outcome.ratio = some report.total ∧
        Baseline.save world.disk gate.settings.paths.baseline (.finite report.total) =
          (.ok report.total, after.disk) := by
  obtain ⟨ready, measured, reached, hready, hmeasured, h⟩ := of_run_eq_ok hlog h
  obtain ⟨hreadyLog, hreadyDisk, -⟩ := hready hlog
  have hrests : World.Rests ready reached := (told_measure_of_skip hskip).ofOk hmeasured
  obtain ⟨hreachedLog, hreachedDisk, -⟩ := hrests hreadyLog
  have hresult := readResult_of_measure_eq_ok hreadyLog hskip hmeasured
  rw [hreadyDisk] at hreachedDisk hresult
  cases measured with
  | error abort =>
      refine .inl ⟨?_, ?_⟩
      · rw [storable, of_breakOff_eq_ok h, ite_self]
      · have hlast : World.Rests reached after := (told_breakOff _ _).ofOk h
        rw [(hlast hreachedLog).2.1, hreachedDisk]
  | ok ratio =>
      have hleaves := leaves_of_conclude_eq_ok hreachedLog h
      obtain ⟨percent, judgement, _, _, -, -, houtcome, -⟩ := of_conclude_eq_ok h
      rw [Leaves, hreachedDisk] at hleaves
      split at hleaves
      · rename_i hstores
        obtain ⟨report, hread, rfl⟩ := of_readResult_eq_ok hresult
        exact .inr ⟨hstores, report, hread, by rw [houtcome], hleaves⟩
      · rename_i hleft
        exact .inl ⟨if_neg hleft, hleaves⟩

/-- A check against the same ratio finds no drop, which is always allowed. -/
theorem of_checkRegression_self {settings : Settings} {ratio : Decimal} {percent : Int} {check : RegressionCheck}
    (hrange : settings.InRange) (hpercent : toPercent (.finite ratio) = .ok percent)
    (h : checkRegression (.finite ratio) (some (.finite ratio)) settings.maxDrop = .ok check) :
    check.passed = true ∧ check.comparison.map Comparison.drop = some .zero := by
  rcases of_checkRegression_eq_ok hpercent h with
    ⟨hnone, -⟩ | ⟨_, earlier, drop, ⟨⟩, hearlier, hdrop, hcomparison, hpassed⟩
  · cases hnone
  · rw [hpercent] at hearlier
    cases hearlier
    rw [Int.sub_self] at hdrop
    have hallows : settings.maxDrop.Allows 0 := by
      rw [Binary64.allows_iff_of_isFinite hrange.maxDrop.1, Int.cast_zero]
      exact Binary64.value_nonneg hrange.maxDrop.2
    refine ⟨?_, ?_⟩
    · rw [hpassed, Binary64.le_iff_allows hdrop (by decide)]
      exact hallows
    · rw [hcomparison]
      exact hdrop.symm

/-- How a ratio is judged that is stored already: it is below the minimum, or else it passes without a drop. -/
def IsSettled (settings : Settings) (outcome : Outcome) : Prop :=
  ∀ ratio, outcome.ratio = some ratio → ∃ percent, toPercent (.finite ratio) = .ok percent ∧
    outcome.percent = some percent ∧
    if percent < settings.minCoverage then outcome.verdict = .belowMinimum
    else outcome.verdict = .pass ∧ outcome.drop = some .zero

/-- Where a report repeats a run comes to an outcome, on which the minimum alone decides. -/
theorem exists_run_of_repeats (hlog : world.LogsNoFile) (hrange : gate.settings.InRange)
    (hskip : gate.settings.skipPipeline = true) (h : gate.Repeats home report world.disk) :
    ∃ outcome after, gate.run.run world = .ok outcome after ∧ outcome.ratio = some report.total ∧
      IsSettled gate.settings outcome := by
  have hunit := h.inUnit
  have hone := Report.exceedsOne_total h.read
  have hpercent := toPercent_eq_ok_iff.mpr (Decimal.percent_eq_floor hunit)
  obtain ⟨hleast, hmost⟩ := toPercent_bounds hunit hpercent
  generalize ⌊report.total.hundredfold.size⌋ = percent at hpercent hleast hmost
  have hknown : known world.disk gate.settings.paths.baseline = some report.total := by rw [known, h.load]
  have hresult : readResult world.disk gate.settings.paths.report = some (.ok report.total) := by
    rw [readResult, h.read]
  obtain ⟨reached, hreached, hrun, -⟩ := exists_measured hlog hskip h.holds.1 hresult
  obtain ⟨hlater, hdisk, -⟩ := hreached hlog
  have hsave : ∃ disk, Baseline.save reached.disk gate.settings.paths.baseline (.finite report.total) =
      (.ok report.total, disk) := hdisk.symm ▸ h.save
  have hbaseline : ∀ earlier, known world.disk gate.settings.paths.baseline = some earlier → earlier.inUnit = true :=
    fun _ => inUnit_of_known_eq_some
  obtain ⟨outcome, after, hconcluded⟩ := (exists_conclude_iff hrange hone hbaseline hlater).mpr
    ⟨percent, hpercent, isSome_wholeText? (by omega), fun _ => hsave⟩
  refine ⟨outcome, after, (hrun _ rfl).trans hconcluded, ?_⟩
  obtain ⟨other, judgement, judging, judged, hother, hjudged, houtcome, -⟩ := of_conclude_eq_ok hconcluded
  rw [hpercent] at hother
  cases hother
  rw [houtcome]
  refine ⟨rfl, ?_⟩
  rintro _ ⟨⟩
  refine ⟨percent, hpercent, rfl, ?_⟩
  split
  · rename_i hlow
    rcases of_judge_eq_ok hpercent hjudged with ⟨-, hverdict⟩ | ⟨hgood, -⟩
    · exact hverdict
    · exact absurd hgood (Int.not_le.mpr hlow)
  · rename_i hgood
    rw [judge_of_le hpercent (Int.not_lt.mp hgood), hknown] at hjudged
    obtain ⟨check, hcheck, hverdict, hdrop⟩ := of_judgeRegression_eq_ok hpercent hjudged
    obtain ⟨hpassed, hzero⟩ := of_checkRegression_self hrange hpercent hcheck
    rw [hpassed, if_pos rfl] at hverdict
    exact ⟨hverdict, hdrop.trans hzero⟩

/-- Where a report repeats every run comes to one outcome and leaves the stored ratio. -/
theorem exists_reruns_of_repeats
    (hpaths : nominal home gate.settings.paths.baseline ≠ nominal home gate.settings.paths.report)
    (hlog : world.LogsNoFile) (hrange : gate.settings.InRange) (hskip : gate.settings.skipPipeline = true)
    (h : gate.Repeats home report world.disk) :
    ∃ again, again.ratio = some report.total ∧ IsSettled gate.settings again ∧
      ∀ n, ∃ later, gate.run.run ((finish gate.run)^[n] world) = .ok again later ∧
        gate.Repeats home report later.disk := by
  obtain ⟨again, after, hrun, hratio, hsettled⟩ := exists_run_of_repeats hlog hrange hskip h
  refine ⟨again, hratio, hsettled, fun n => ?_⟩
  have hstep : ∀ other : World, other.LogsNoFile ∧ gate.Repeats home report other.disk →
      ∃ later, gate.run.run other = .ok again later ∧ later.LogsNoFile ∧ gate.Repeats home report later.disk := by
    rintro other ⟨hother, hrepeats⟩
    have hagree := (shares_repeats hpaths).agree_run hskip hlog hother ⟨h, hrepeats⟩
    rw [hrun] at hagree
    obtain ⟨later, hlater, hsame⟩ := hagree.exists_of_ok
    exact ⟨later, hlater, hsame.logsNoFile', hsame.disk.2⟩
  obtain ⟨later, hlater, -, hrepeats⟩ := run_iterate_eq_ok hstep ⟨hlog, h⟩ n
  exact ⟨later, hlater, hrepeats⟩

/-- A run that left the disk as it was is repeated by every later one. -/
theorem exists_reruns_of_disk_eq {first : Outcome} (hlog : world.LogsNoFile)
    (hskip : gate.settings.skipPipeline = true) (h : gate.run.run world = .ok first after)
    (hdisk : after.disk = world.disk) (n : Nat) :
    ∃ later, gate.run.run ((finish gate.run)^[n] after) = .ok first later ∧ later.disk = world.disk := by
  have hstep : ∀ other : World, other.LogsNoFile ∧ other.disk = world.disk →
      ∃ later, gate.run.run other = .ok first later ∧ later.LogsNoFile ∧ later.disk = world.disk := by
    rintro other ⟨hother, hsame⟩
    have hagree := (shares_eq gate).agree_run hskip hlog hother hsame.symm
    rw [h] at hagree
    obtain ⟨later, hlater, hend⟩ := hagree.exists_of_ok
    exact ⟨later, hlater, hend.logsNoFile', hend.disk.symm.trans hdisk⟩
  obtain ⟨later, hlater, -, hsame⟩ := run_iterate_eq_ok hstep ⟨logsNoFile_of_run_eq_ok hlog hskip h, hdisk⟩ n
  exact ⟨later, hlater, hsame⟩

/-- In report-only mode all runs after the first one come to one outcome, of the same ratio, and leave the stored ratio
as the first one left it. When only passes are stored they repeat the verdict of the first one; when every ratio is,
they pass without a drop, unless the report is below the minimum. -/
theorem reruns_agree {first : Outcome} (hlog : world.LogsNoFile) (hrange : gate.settings.InRange)
    (hskip : gate.settings.skipPipeline = true)
    (hpaths : nominal world.disk.home gate.settings.paths.baseline ≠
      nominal world.disk.home gate.settings.paths.report)
    (h : gate.run.run world = .ok first after) :
    ∃ again, again.ratio = first.ratio ∧
      (∀ n, ∃ later, gate.run.run ((finish gate.run)^[n] after) = .ok again later ∧
        later.disk.bytes? (nominal world.disk.home gate.settings.paths.baseline) =
          after.disk.bytes? (nominal world.disk.home gate.settings.paths.baseline)) ∧
      (gate.settings.baselinePolicy = .passOnly → again.verdict = first.verdict) ∧
      (gate.settings.baselinePolicy = .always → IsSettled gate.settings again) := by
  rcases disk_of_run_eq_ok hlog hskip h with ⟨hstorable, hdisk⟩ | ⟨hstores, report, hread, hratio, hsave⟩
  · refine ⟨first, rfl, fun n => ?_, fun _ => rfl, fun halways => ?_⟩
    · obtain ⟨later, hlater, hsame⟩ := exists_reruns_of_disk_eq hlog hskip h hdisk n
      exact ⟨later, hlater, by rw [hsame, hdisk]⟩
    · have hstores : Stores gate.settings first.verdict := .inl halways
      rw [storable, if_pos hstores] at hstorable
      rintro ratio hratio
      rw [hstorable] at hratio
      cases hratio
  · have hrepeats := repeats_of_save hpaths hread hsave
    have hlater := logsNoFile_of_run_eq_ok hlog hskip h
    obtain ⟨again, hagain, hsettled, hruns⟩ :=
      exists_reruns_of_repeats hpaths hlater hrange hskip hrepeats
    refine ⟨again, hagain.trans hratio.symm, fun n => ?_, fun hpolicy => ?_, fun _ => hsettled⟩
    · obtain ⟨later, hlater, hend⟩ := hruns n
      have hbytes := hend.holds.2
      have hbytes' := hrepeats.holds.2
      rw [hend.home_eq] at hbytes
      rw [hrepeats.home_eq] at hbytes'
      exact ⟨later, hlater, hbytes.trans hbytes'.symm⟩
    · have hpass : first.verdict = .pass := by
        rcases hstores with halways | hpass
        · rw [hpolicy] at halways
          cases halways
        · exact hpass
      have hway : gate.wayResult world.tools = .ok () := by rw [wayResult, if_pos hskip]
      have hparse : gate.atParse world.disk world.tools = world.disk := by rw [atParse, if_pos hskip]
      obtain ⟨percent, hpercent, -, hjudged⟩ := hsettled _ hagain
      obtain ⟨-, hverdict⟩ := verdict_eq_pass_iff_of_read hlog hrange hway (hparse.symm ▸ hread) hpercent h
      rw [if_neg (Int.not_lt.mpr (hverdict.mp hpass).1)] at hjudged
      rw [hjudged.1, hpass]

/-- A ratio that fell from ninety points to fifty is a regression once, and then it is the stored one. -/
theorem reruns_agree_of_regression :
    let gate := Gate.ofSettings
      ⟨50, .zero, .tarpaulin, ".", "coverage", none, none, 300, .always, true, "INFO"⟩
    let bytes := Text.encodeUtf8 "<a line-rate='0.5'/>"
    let stored := Text.encodeUtf8 "0.9\n"
    let disk := (((Disk.empty ["home"]).put ["home", "coverage"] .directory).create
      ["home", "coverage", "cobertura.xml"] false bytes).create ["home", "coverage", "baseline.txt"] false stored
    let world := World.fresh disk ⟨[], []⟩
    ∃ first after again, gate.run.run world = .ok first after ∧ first.verdict ≠ .pass ∧
      again.verdict = .pass ∧ ∀ n, ∃ later, gate.run.run ((finish gate.run)^[n] after) = .ok again later := by
  intro gate bytes stored disk world
  let total : Decimal := ⟨false, 5, -1⟩
  have hlog : world.LogsNoFile := World.logsNoFile_fresh disk ⟨[], []⟩
  have hrange : gate.settings.InRange := by decide
  have hcontent : content? disk gate.settings.paths.report = some bytes := by
    clear_value bytes stored
    cbv
  have hlocate : locate disk gate.settings.paths.baseline = .ok ["home", "coverage", "baseline.txt"] := by
    clear_value bytes stored
    cbv
  obtain ⟨report, hread, htotal⟩ : ∃ report,
      Report.read disk gate.settings.paths.report "" = .ok report ∧ report.total = total :=
    Report.exists_read_of_marker "0.5" hcontent (by decide) (by decide +kernel) (by decide +kernel)
  have hpercent : toPercent (.finite report.total) = .ok 50 := by
    rw [htotal, toPercent_eq_ok_iff]
    decide +kernel
  have hunit : report.total.inUnit = true := by
    rw [htotal]
    decide +kernel
  have hnode : disk.node? ["home", "coverage", "baseline.txt"] = some (.file 1 false stored) := by
    clear_value bytes stored
    cbv
  have htree : disk.IsTree ["home"] := by
    refine (((isTree_empty ["home"]).put ?_ ?_ .directory).create ?_ ?_ false bytes).create ?_ ?_ false stored <;> decide
  obtain ⟨hplace, hroom⟩ := Baseline.hasPlace_and_hasRoom_of_isTree htree hlocate (by simp [hnode]) (by decide)
    (by decide) (by decide +kernel)
  have hsettles : gate.Settles disk :=
    .inr ⟨report, 50, hread, hpercent, isSome_wholeText? (by decide), fun _ => ⟨hunit, hroom⟩⟩
  obtain ⟨first, after, hrun⟩ := (exists_run_iff hlog hrange rfl hcontent hplace).mpr hsettles
  obtain ⟨hratio, hverdict⟩ := verdict_eq_pass_iff_of_read hlog hrange rfl hread hpercent hrun
  obtain ⟨again, hsame, hruns, -, halways⟩ := reruns_agree hlog hrange rfl (by decide) hrun
  refine ⟨first, after, again, hrun, ?_, ?_, fun n => ?_⟩
  · have hbaseline : first.baseline = some ⟨false, 9, -1⟩ := by
      have hbytes : disk.bytes? ["home", "coverage", "baseline.txt"] = some stored := by
        clear_value bytes stored
        cbv
      have hstored : Baseline.ofBytes stored = .ok ⟨false, 9, -1⟩ := by decide +kernel
      rw [(outcome_of_run_eq_ok hlog hrun).1]
      change known disk gate.settings.paths.baseline = _
      rw [known, Baseline.load_of_locate hlocate, hbytes]
      simp only [hstored]
    have hearlier : toPercent (.finite ⟨false, 9, -1⟩) = .ok 90 := by
      rw [toPercent_eq_ok_iff]
      decide +kernel
    intro hpass
    have hallows := (hverdict.mp hpass).2 _ 90 hbaseline hearlier
    rw [Binary64.allows_iff_of_isFinite hrange.maxDrop.1] at hallows
    norm_num [gate, Gate.ofSettings, Binary64.zero, Binary64.value, Binary64.finiteValue] at hallows
  · obtain ⟨percent, hagain, -, hsettled⟩ := halways rfl _ (hsame.trans hratio)
    rw [hpercent] at hagain
    cases hagain
    rw [if_neg (by decide)] at hsettled
    exact hsettled.1
  · obtain ⟨later, hlater, -⟩ := hruns n
    exact ⟨later, hlater⟩

end Gate

end Gatekeeper
