import Gatekeeper.Proofs.Gate.Activity
import Gatekeeper.Proofs.Gate.Ending
import Gatekeeper.Proofs.Markup.Cut
import Gatekeeper.Proofs.Report.Range

/-! Truncated reports. A report in markup that is cut off before its root has ended is unreadable, even if the ratio is
in what is left of it. A run that takes it as its report says so, and leaves the stored ratio and all other files
alone. -/

namespace Gatekeeper

open Work Files Markup

namespace Report

/-- Whether a file with these bytes is at a path and is read as markup. -/
structure IsMarkup (disk : Disk) (path : Path) (asked : String) (bytes : List UInt8) : Prop where
  content : content? disk path = some bytes
  format : ReportFormat.resolve path asked ≠ .lcov

variable {disk : Disk} {path : Path} {asked : String} {bytes : List UInt8}

theorem IsMarkup.read_eq (h : IsMarkup disk path asked bytes) :
    read disk path asked = ofMarkup path (ReportFormat.resolve path asked) bytes := by
  rw [read_of_content?_eq_some h.content, ofBytes_of_ne_lcov h.format]

theorem IsMarkup.exists_tags {report : Report} (h : IsMarkup disk path asked bytes)
    (hread : read disk path asked = .ok report) : ∃ tags, readDocument bytes = .ok tags := by
  rw [h.read_eq, ofMarkup] at hread
  split at hread
  · cases hread
  · cases hread
  · rename_i tags htags
    exact ⟨tags, htags⟩

/-- A report that is cut off before its root has ended is unreadable. -/
theorem IsMarkup.read_of_cut {whole head : List UInt8} (h : IsMarkup disk path asked bytes)
    (hhead : EndsRoot whole head) (hcut : bytes <+: head) (hproper : bytes ≠ head) :
    read disk path asked = .error (.unreadable .malformed) := by
  rw [h.read_eq, ofMarkup, readDocument_of_cut hhead hcut hproper]

end Report

namespace Gate

variable {gate : Gate} {world : World}

/-- Whether a run comes to tell of an unreadable report and no file is another one after it. Only if the stored ratio,
for which a run looks first, cannot even be looked up, nothing but that failure comes of it. -/
def RefusesReport (gate : Gate) (world : World) : Prop :=
  (finish gate.run world).disk = world.disk ∧
    match Baseline.load world.disk gate.settings.paths.baseline with
    | .error (.file cause) => ∃ after, gate.run.run world = .error (.file cause) after
    | _ => ∃ outcome after, gate.run.run world = .ok outcome after ∧ outcome.verdict = .reportUnparseable ∧
        outcome.ratio = none

theorem exists_run_of_unreadable {defect : Defect} (hlog : world.LogsNoFile)
    (hskip : gate.settings.skipPipeline = true)
    (hread : Report.read world.disk gate.settings.paths.report "" = .error (.unreadable defect))
    (hload : ∀ cause, Baseline.load world.disk gate.settings.paths.baseline ≠ .error (.file cause)) :
    ∃ outcome after, gate.run.run world = .ok outcome after ∧ outcome.verdict = .reportUnparseable ∧
      outcome.ratio = none ∧ after.disk = world.disk := by
  obtain ⟨ready, -, hready, hrun⟩ := exists_run_of_load hlog hload
  obtain ⟨hlater, hdisk, -⟩ := hready hlog
  have hresult : readResult ready.disk gate.settings.paths.report =
      some (.error (.reportUnparseable gate.settings.paths.report defect)) := by
    rw [hdisk, readResult, hread]
  obtain ⟨reached, hmeasured⟩ := exists_measure hlater hskip hresult
  let baseline := known world.disk gate.settings.paths.baseline
  let abort := Abort.reportUnparseable gate.settings.paths.report defect
  obtain ⟨outcome, after, hended⟩ := ends_breakOff baseline abort reached
  have hrests : World.Rests world after := calc
    World.Rests world ready := hready
    World.Rests _ reached := (told_measure_of_skip hskip).ofOk hmeasured
    World.Rests _ after := (told_breakOff baseline abort).ofOk hended
  have houtcome := of_breakOff_eq_ok hended
  refine ⟨outcome, after, ?_, ?_, ?_, (hrests hlog).2.1⟩
  · rw [hrun, run_bind_of_ok hmeasured]
    exact hended
  · rw [houtcome]
    rfl
  · rw [houtcome]

theorem refusesReport_of_unreadable {defect : Defect} (hlog : world.LogsNoFile)
    (hskip : gate.settings.skipPipeline = true)
    (hread : Report.read world.disk gate.settings.paths.report "" = .error (.unreadable defect)) :
    gate.RefusesReport world := by
  rw [RefusesReport]
  split
  · rename_i cause hload
    obtain ⟨after, hrun, -, hdisk⟩ := exists_run_of_load_error hlog hload
    rw [finish_of_error hrun]
    exact ⟨hdisk, after, hrun⟩
  · rename_i hload
    obtain ⟨outcome, after, hrun, hverdict, hratio, hdisk⟩ := exists_run_of_unreadable hlog hskip hread hload
    rw [finish_of_ok hrun]
    exact ⟨hdisk, outcome, after, hrun, hverdict, hratio⟩

/-- Every report in markup that can be read has one place where its root ends. If it is cut off before that place,
wherever in it, there is no ratio to be had from it: it is malformed, and a run that takes it as its report refuses
it. -/
theorem run_of_truncated {disk : Disk} {path : Path} {asked : String} {whole : List UInt8} {report : Report}
    (hwhole : Report.IsMarkup disk path asked whole) (hread : Report.read disk path asked = .ok report) :
    (∃! head, EndsRoot whole head) ∧
      ∀ head cut, EndsRoot whole head → cut <+: head → cut ≠ head →
        (∀ disk path asked, Report.IsMarkup disk path asked cut →
          Report.read disk path asked = .error (.unreadable .malformed)) ∧
        ∀ (gate : Gate) (world : World), gate.settings.skipPipeline = true → world.LogsNoFile →
          Report.IsMarkup world.disk gate.settings.paths.report "" cut → gate.RefusesReport world := by
  obtain ⟨tags, htags⟩ := hwhole.exists_tags hread
  obtain ⟨head, hhead⟩ := exists_endsRoot htags
  refine ⟨⟨head, hhead, fun other hother => endsRoot_unique hother hhead⟩, fun head cut hhead hcut hproper => ⟨?_, ?_⟩⟩
  · intro disk path asked h
    exact h.read_of_cut hhead hcut hproper
  · intro gate world hskip hlog h
    exact refusesReport_of_unreadable hlog hskip (h.read_of_cut hhead hcut hproper)

/-- A report of one element with its ratio. -/
def briefReport : List UInt8 :=
  Text.encodeUtf8 "<a line-rate='0.5'/>"

/-- The same without the end of its only tag. -/
def briefCut : List UInt8 :=
  Text.encodeUtf8 "<a line-rate='0.5'"

theorem endsRoot_briefReport : EndsRoot briefReport briefReport := by
  have hdecoded : Charset.utf8.decode? briefReport = some ("<a line-rate='0.5'/".toList ++ ['>']) := by decide +kernel
  have hread : (Reading.readAll 0 1 .standard (Reading.start false) "<a line-rate='0.5'/".toList).map
      (fun r => (r.piece, r.elements.length)) =
      some (.tag (.slash ⟨['a'], [("line-rate".toList, "0.5".toList)], false⟩), 0) := by decide +kernel
  obtain ⟨r, hr, hend⟩ := Option.map_eq_some_iff.mp hread
  obtain ⟨hpiece, hlength⟩ := Prod.mk.inj hend
  have hnil : briefReport = briefReport ++ [] := (List.append_nil _).symm
  exact ⟨⟨.utf8, false, briefReport⟩, briefReport, [], _, 0, 1, r, rfl, hnil, hnil, hdecoded, hr,
    .inr ⟨_, hpiece, List.length_eq_zero_iff.mp hlength⟩⟩

theorem cut_briefReport : briefCut <+: briefReport ∧ briefCut ≠ briefReport := by decide +kernel

def reportDisk (bytes : List UInt8) : Disk :=
  ((Disk.empty ["home"]).put ["home", "coverage"] .directory).create ["home", "coverage", "cobertura.xml"] false bytes

theorem isMarkup_reportDisk (bytes : List UInt8) :
    Report.IsMarkup (reportDisk bytes) ⟨.relative, ["coverage", "cobertura.xml"]⟩ "" bytes :=
  ⟨by cbv, by decide⟩

theorem load_reportDisk (bytes : List UInt8) :
    Baseline.load (reportDisk bytes) ⟨.relative, ["coverage", "baseline.txt"]⟩ = .ok none := by
  have hlocate : locate (reportDisk bytes) ⟨.relative, ["coverage", "baseline.txt"]⟩ =
      .ok ["home", "coverage", "baseline.txt"] := by cbv
  rw [Baseline.load_of_locate hlocate]
  rfl

theorem exists_read_briefReport :
    ∃ report, Report.read (reportDisk briefReport) ⟨.relative, ["coverage", "cobertura.xml"]⟩ "" = .ok report := by
  have hratio : Cobertura.ratio "0.5" = .ok ⟨false, 5, -1⟩ := by decide +kernel
  obtain ⟨report, hread, -⟩ := Report.exists_read_of_marker "0.5" (isMarkup_reportDisk briefReport).content
    (isMarkup_reportDisk briefReport).format (by decide +kernel) hratio
  exact ⟨report, hread⟩

/-- The ratio is in what is left, but the tag has no end. -/
theorem run_of_truncated_of_open_tag :
    let gate : Gate := ⟨⟨50, .zero, .tarpaulin, ".", "coverage", none, none, 300, .always, true, "INFO"⟩, []⟩
    let world := World.fresh (reportDisk briefCut) ⟨[], []⟩
    Report.read world.disk gate.settings.paths.report "" = .error (.unreadable .malformed) ∧
      (finish gate.run world).disk = world.disk ∧
      ∃ outcome after, gate.run.run world = .ok outcome after ∧ outcome.verdict = .reportUnparseable ∧
        outcome.ratio = none := by
  intro gate world
  have hpath : gate.settings.paths.report = ⟨.relative, ["coverage", "cobertura.xml"]⟩ := by decide +kernel
  have hcut : Report.IsMarkup world.disk gate.settings.paths.report "" briefCut :=
    hpath ▸ isMarkup_reportDisk briefCut
  obtain ⟨report, hreport⟩ := exists_read_briefReport
  obtain ⟨hread, hruns⟩ := (run_of_truncated (isMarkup_reportDisk briefReport) hreport).2 _ _ endsRoot_briefReport
    cut_briefReport.1 cut_briefReport.2
  obtain ⟨hdisk, hrefused⟩ := hruns gate world rfl (World.logsNoFile_fresh _ _) hcut
  have hbaseline : gate.settings.paths.baseline = ⟨.relative, ["coverage", "baseline.txt"]⟩ := by decide +kernel
  rw [hbaseline, show Baseline.load world.disk _ = _ from load_reportDisk briefCut] at hrefused
  exact ⟨hread _ _ _ hcut, hdisk, hrefused⟩

/-- A run need not tell of a truncated report: the name of the stored ratio may be too long. -/
theorem exists_truncated_without_outcome :
    ¬∀ (gate : Gate) (world : World) (whole head cut : List UInt8),
      (∃ disk path asked report, Report.IsMarkup disk path asked whole ∧ Report.read disk path asked = .ok report) →
      EndsRoot whole head → cut <+: head → cut ≠ head → gate.settings.skipPipeline = true → world.LogsNoFile →
      Report.IsMarkup world.disk gate.settings.paths.report "" cut →
      nominal world.disk.home gate.settings.paths.report ≠ nominal world.disk.home gate.settings.paths.baseline →
      ∃ outcome after, gate.run.run world = .ok outcome after ∧ outcome.verdict = .reportUnparseable := by
  intro hall
  let gate := Gate.ofSettings ⟨20, .finite false 5629499534213120 (-49) (by decide), .tarpaulin, ".", "coverage", none,
    some longName, 300, .always, true, "INFO"⟩
  let world := World.fresh (reportDisk briefCut) ⟨[], []⟩
  have hlog : world.LogsNoFile := World.logsNoFile_fresh _ _
  have hreport : gate.settings.paths.report = ⟨.relative, ["coverage", "cobertura.xml"]⟩ := by decide +kernel
  have hbaseline : gate.settings.paths.baseline = ⟨.relative, [longName]⟩ :=
    paths_baseline_of_isName rfl rfl isName_longName
  have hcut : Report.IsMarkup world.disk gate.settings.paths.report "" briefCut :=
    hreport ▸ isMarkup_reportDisk briefCut
  have hload : Baseline.load world.disk gate.settings.paths.baseline = .error (.file .nameTooLong) := by
    rw [hbaseline]
    exact load_of_longName rfl
  have hplaces : nominal world.disk.home gate.settings.paths.report ≠
      nominal world.disk.home gate.settings.paths.baseline := by
    have hlong : longName ≠ ".." := fun hdots => absurd (hdots ▸ maxName_lt_longName) (by decide)
    have hstored : nominal world.disk.home gate.settings.paths.baseline = ["home"] ++ [longName] := by
      rw [hbaseline, nominal, List.foldl_cons, List.foldl_nil, step, if_neg hlong]
      rfl
    have hread : nominal world.disk.home gate.settings.paths.report = ["home", "coverage", "cobertura.xml"] := by
      rw [hreport]
      rfl
    rw [hstored, hread]
    exact fun hsame => absurd (congrArg List.length hsame) (Nat.succ_ne_self 2)
  obtain ⟨report, hread⟩ := exists_read_briefReport
  obtain ⟨outcome, after, hrun, -⟩ := hall gate world _ _ _ ⟨_, _, _, report, isMarkup_reportDisk _, hread⟩
    endsRoot_briefReport cut_briefReport.1 cut_briefReport.2 rfl hlog hcut hplaces
  obtain ⟨_, hfailed, -⟩ := exists_run_of_load_error hlog hload
  rw [hfailed] at hrun
  cases hrun

end Gate

end Gatekeeper
