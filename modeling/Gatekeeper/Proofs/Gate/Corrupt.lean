import Gatekeeper.Proofs.Baseline.Again
import Gatekeeper.Proofs.Baseline.Corrupt
import Gatekeeper.Proofs.Gate.Effect
import Gatekeeper.Proofs.Gate.Stale

/-! A corrupt stored ratio. A run that finds a content without a ratio says so in its records and goes on as if there
were no file: it comes to the same end as without the file, and shows the same on its way. That the file is there can
be noticed only by what uses its name for a directory, so no command may do so, and a pipeline must not make a
directory there for its report. -/

namespace Gatekeeper

open Work Files Disk

/-- Whether no command of a script puts anything below a location, or a directory there. -/
def Toolchain.IsFirm (tools : Toolchain) (home place : Location) : Prop :=
  ∀ response ∈ tools.responses, ∀ write ∈ response.writes, write.2.IsFirm home {place} (Path.ofText write.1)

/-- Two worlds in which the same was seen of a run and whose disks differ at one location only, which no command that
is still to come uses for a directory. -/
abbrev World.DifferAt (home place : Location) : World → World → Prop :=
  World.Twin fun tools one other => Alike home {place} one other ∧ tools.IsFirm home place

namespace Disk

variable {home place : Location} {disk : Disk}

/-- Without a file a disk differs at its location only. -/
theorem alike_erase (h : disk.node? place ≠ some .directory) :
    Alike disk.home {place} disk (disk.erase place) := by
  refine ⟨rfl, rfl, rfl, fun other hother => ?_, fun other hother => ?_, fun other hother => ?_⟩
  · rw [seen?, seen?, node?_erase_of_ne (Set.mem_singleton_iff.not.mp hother)]
  · rwa [Set.mem_singleton_iff.mp hother]
  · rw [Set.mem_singleton_iff.mp hother, node?_erase_self]
    simp

end Disk

namespace Files

variable {home place : Location} {disk : Disk} {path : Path}

/-- The way of a path that leads to a file does not pass that file, nor does the way to its directory. -/
theorem isFirm_parent_of_locate (hlocate : locate disk path = .ok place) (hname : endsInName path = true)
    (hplace : disk.node? place ≠ some .directory) : IsFirm disk.home {place} path.parent := by
  have hway : WayIsFirm disk.home {place} (path.parent.child path.name) := by
    rw [(child_parent_of_endsInName hname).1]
    intro left hleft hsame
    rw [Set.mem_singleton_iff.mp hsame] at hleft
    exact hplace (directory_of_locate hlocate place hleft)
  rw [WayIsFirm, route_child] at hway
  exact ⟨fun left hleft => hway left (List.mem_append_left _ hleft),
    hway _ (List.mem_append_right _ List.mem_cons_self)⟩

end Files

namespace Gate

variable {gate : Gate} {home place : Location} {bytes : List UInt8} {world : World}

/-- Whether a run starts with a file in the place of the stored ratio that holds none, and it is neither the report nor
written or removed by a command. -/
structure FindsCorrupt (gate : Gate) (bytes : List UInt8) (world : World) : Prop where
  logsNoFile : world.LogsNoFile
  tree : world.disk.IsTree world.disk.home
  content : content? world.disk gate.settings.paths.baseline = some bytes
  corrupt : Baseline.IsCorrupt bytes
  paths : gate.baselinePlace world.disk.home ≠ gate.reportPlace world.disk.home
  spares : world.tools.Spares world.disk.home (gate.baselinePlace world.disk.home)

/-- Whether neither a command nor the pipeline itself, when it makes room for the report, uses the name of the file with
the stored ratio for a directory. -/
structure SparesName (gate : Gate) (world : World) : Prop where
  commands : world.tools.IsFirm world.disk.home (gate.baselinePlace world.disk.home)
  room : gate.settings.skipPipeline = true ∨
    Files.IsFirm world.disk.home {gate.baselinePlace world.disk.home} gate.settings.paths.report.parent

/-- What holds of two worlds when the file is looked for: in one it is corrupt, in the other one there is none. -/
abbrev Starting (path : Path) (home place : Location) : World → World → Prop :=
  World.Twin fun tools one other => (Alike home {place} one other ∧ tools.IsFirm home place) ∧
    (∃ content, Baseline.load one path = .error (.corrupt content)) ∧ Baseline.load other path = .ok none

theorem respects_files_differAt {α : Type} {work : Files α} (h : Respects (Alike home {place}) work) :
    Respects (World.DifferAt home place) (Run.files work) :=
  Run.relates_files fun _ one other ⟨hdisk, hfirm⟩ =>
    (h one other hdisk).mono (fun _ _ hend => ⟨hend, hfirm⟩) fun _ _ _ hend => ⟨hend, hfirm⟩

theorem respects_command_differAt (directory : Path) (argv : List String) :
    Respects (World.DifferAt home place) (Run.command directory argv) := by
  refine Run.respects_command (fun tools response later hresponses => ?_) directory argv
  rintro one other ⟨hdisk, hfirm⟩
  have hlater : Toolchain.IsFirm { tools with responses := later } home place :=
    fun next hnext => hfirm next (hresponses ▸ List.mem_cons_of_mem response hnext)
  have hfirst := hfirm response (hresponses ▸ List.mem_cons_self)
  exact (Run.respects_placeAll hfirst one other hdisk).mono (fun _ _ hend => ⟨hend, hlater⟩)
    fun _ _ _ hend => ⟨hend, hlater⟩

theorem respects_runPipeline (hroom : Files.IsFirm home {place} gate.settings.paths.report.parent)
    (hreport : gate.reportPlace home ≠ place) : Respects (World.DifferAt home place) gate.runPipeline.run := by
  have hcleared : Respects (World.DifferAt home place) (clearReport gate.settings.paths.report) :=
    respects_clearReport respects_files_differAt hroom hreport
  have hstage : Respects (World.DifferAt home place) (gate.runStage .report).run :=
    respects_runSteps respects_command_differAt _ _
  rw [runPipeline_eq]
  refine Respects.attemptBind (respects_prepare respects_command_differAt gate) fun _ => ?_
  exact Respects.attemptBind (Respects.lift hcleared) fun _ => hstage

/-- The same is measured whatever file there is, as the report is another one. -/
theorem relates_measure_differAt (hreport : gate.reportPlace home ≠ place)
    (hroom : gate.settings.skipPipeline = true ∨ Files.IsFirm home {place} gate.settings.paths.report.parent) :
    Relates (World.DifferAt home place) (World.DifferAt home place)
      (Either (World.DifferAt home place) fun _ one other => World.DifferAt home place one other ∧ True)
      gate.measure.run := by
  have hread (one other : World) (h : World.DifferAt home place one other) :
      Report.read one.disk gate.settings.paths.report "" = Report.read other.disk gate.settings.paths.report "" :=
    Report.read_eq_of_alike h.disk.1 hreport ""
  by_cases hskip : gate.settings.skipPipeline = true
  · exact relates_measure_of_skip hskip hread fun _ _ _ _ _ => trivial
  · rw [measure, reachReport, if_neg hskip]
    refine Relates.attemptBind (respects_runPipeline (hroom.resolve_left hskip) hreport).attempt fun _ => ?_
    refine Relates.attemptBind (Relates.lift (Run.respects_enter _)) fun _ => ?_
    refine Relates.attemptBind (Relates.lift (Run.respects_print _)) fun _ => ?_
    exact relates_readReport hread fun _ _ _ _ _ => trivial

theorem run_loadBaseline_of_corrupt {path : Path} {content : String}
    (h : Baseline.load world.disk path = .error (.corrupt content)) :
    (loadBaseline path).run world = .ok none (world.record
      ⟨.warning, .gate, Baseline.corruptText path content ++ "; treating as no baseline"⟩) := by
  rw [loadBaseline, EStateM.run_bind, EStateM.run_get]
  simp only [h]
  rfl

/-- A run goes on from a corrupt file as it does without a file. -/
theorem relates_loadBaseline_corrupt (path : Path) (home place : Location) :
    Relates (Starting path home place) (World.DifferAt home place) (fun _ => World.DifferAt home place)
      (loadBaseline path) := by
  intro one other h
  obtain ⟨hdiffer, ⟨content, hcorrupt⟩, hnone⟩ := h.disk
  have hload : (loadBaseline path).run other = .ok none other := by
    rw [loadBaseline, EStateM.run_bind, EStateM.run_get]
    simp only [hnone]
    rfl
  rw [run_loadBaseline_of_corrupt hcorrupt, hload]
  let noted := one.record ⟨.warning, .gate, Baseline.corruptText path content ++ "; treating as no baseline"⟩
  have hnoted : World.Twin (fun _ before after => after = before) one noted :=
    World.twin_record h.logsNoFile _ (World.record_disk h.logsNoFile _)
  have hsame : World.Twin (fun _ before after => after = before) other other :=
    ⟨⟨h.logsNoFile', h.logsNoFile', rfl, rfl⟩, rfl, rfl, rfl, rfl⟩
  have htwin : World.DifferAt home place noted other := by
    refine h.square hnoted hsame fun _ hdisks hone _ => ?_
    rw [hone]
    exact hdisks.1
  exact .ok htwin

/-- A run comes to the same end with a corrupt file as it does without a file. -/
theorem relates_run_corrupt (hpaths : gate.reportPlace home ≠ place) (hplace : gate.baselinePlace home = place)
    (hroom : gate.settings.skipPipeline = true ∨ Files.IsFirm home {place} gate.settings.paths.report.parent)
    (hname : endsInName gate.settings.paths.baseline = true)
    (hfirm : Files.IsFirm home {place} gate.settings.paths.baseline.parent) :
    Relates (Starting gate.settings.paths.baseline home place) (World.DifferAt home place)
      (fun _ => World.DifferAt home place) gate.run := by
  have hfree : Baseline.LeavesFree home {place} gate.settings.paths.baseline :=
    hplace ▸ Baseline.leavesFree_nominal hname
  have habove : Files.IsFirm home {place} (absolute home gate.settings.paths.baseline.parent) :=
    hplace ▸ Baseline.isFirm_absolute_parent hname
  have hsave (ratio : Decimal) {one other : World} (h : World.DifferAt home place one other) :=
    Baseline.save_of_alike (.finite ratio) hfirm habove hfree h.disk.1
  refine relates_run_of_loadBaseline (fun one other h => ?_) (relates_loadBaseline_corrupt _ home place)
    (relates_measure_differAt hpaths hroom) (fun _ _ h => h.mono And.left) (fun _ _ => id) fun ratio _ => ?_
  · exact ⟨⟨h.logsNoFile, h.logsNoFile', h.disk, rfl⟩, h.tools, h.printed, h.asked, h.commands⟩
  · exact relates_storeNumeral (fun _ _ h => (hsave ratio h).1)
      fun _ _ h => h.withDisk ⟨(hsave ratio h).2, h.disk.2⟩

/-- What the ratio of an outcome leaves in the place of the stored one: the same as without a file if it was stored, and
otherwise the content that was there. -/
def LeavesAsNone (place : Location) (bytes : List UInt8) (outcome : Outcome) (after after' : World) : Prop :=
  if outcome.baselineUpdated then
    ∃ stored, after.disk.bytes? place = some stored ∧ after'.disk.bytes? place = some stored
  else after.disk.bytes? place = some bytes

theorem leavesAsNone_of_leavesBaseline {outcome : Outcome} {after after' : World} {disk disk' : Disk}
    (hbytes : disk.bytes? place = some bytes)
    (h : LeavesBaseline gate.settings place disk (.ok outcome after))
    (h' : LeavesBaseline gate.settings place disk' (.ok outcome after')) :
    LeavesAsNone place bytes outcome after after' := by
  rw [LeavesBaseline] at h h'
  cases hstorable : storable gate.settings outcome with
  | none =>
      simp only [hstorable] at h
      rw [LeavesAsNone, h.1, if_neg Bool.false_ne_true, h.2, hbytes]
  | some ratio =>
      simp only [hstorable] at h h'
      rw [LeavesAsNone, h.1, if_pos rfl]
      exact ⟨_, h.2, h'.2⟩

/-- What fails after a corrupt file was found fails as a whole. -/
theorem fails_run_of_corrupt {started : World} {content : String}
    (hstarted : (Run.enter .start).run { world with phases := [] } = .ok () started)
    (hload : Baseline.load started.disk gate.settings.paths.baseline = .error (.corrupt content))
    (h : ∀ message, fails (gate.measure.run.run (started.record ⟨.warning, .gate, message⟩)) = true) :
    fails (gate.run.run world) = true := by
  have hreset : (modify fun world => { world with phases := [] } : Run Unit).run world =
      .ok () { world with phases := [] } := rfl
  rw [Gate.run, run_bind_of_ok hreset, run_bind_of_ok hstarted, run_bind_of_ok (run_loadBaseline_of_corrupt hload),
    EStateM.run_bind]
  split
  · rename_i hmeasured
    have hfails := h (Baseline.corruptText gate.settings.paths.baseline content ++ "; treating as no baseline")
    rw [hmeasured] at hfails
    cases hfails
  · rfl

/-- From every file a ratio of the unit interval is loaded, or it is said that its content is corrupt; and a run that
finds a corrupt file, whose name serves for nothing else, comes to the same end as without it. It shows the same, and
leaves the same ratio if it stores one; otherwise it leaves the file as it was. -/
theorem run_of_corrupt :
    (∀ {disk : Disk} {path : Path} {bytes : List UInt8}, content? disk path = some bytes →
      (∃ ratio, Baseline.load disk path = .ok (some ratio) ∧ 0 ≤ ratio.value ∧ ratio.value ≤ 1) ∨
        ∃ content, Baseline.load disk path = .error (.corrupt content)) ∧
      ∀ {gate : Gate} {bytes : List UInt8} {world : World}, gate.FindsCorrupt bytes world → gate.SparesName world →
        let home := world.disk.home
        let place := gate.baselinePlace home
        Agree
          (fun after after' => World.DifferAt home place after after' ∧ after.disk.bytes? place = some bytes)
          (fun outcome after after' => World.DifferAt home place after after' ∧
            LeavesAsNone place bytes outcome after after')
          (gate.run.run world) (gate.run.run { world with disk := world.disk.erase place }) := by
  constructor
  · intro disk path bytes h
    rcases Baseline.load_cases_of_content? h with ⟨ratio, hload, _, -, -, hunit⟩ | ⟨content, hload, -⟩
    · exact .inl ⟨ratio, hload, hunit⟩
    · exact .inr ⟨content, hload⟩
  · intro gate bytes world h hspares home place
    obtain ⟨target, hlocate, hbytes⟩ := content?_eq_some_iff.mp h.content
    obtain rfl : target = place := eq_nominal_of_locate hlocate
    have hfile : world.disk.node? place ≠ some .directory := by
      intro hdirectory
      rw [bytes?, hdirectory] at hbytes
      cases hbytes
    have hname : endsInName gate.settings.paths.baseline = true :=
      ((name_or_directory_of_locate h.tree hlocate).resolve_right hfile).1
    have hloaded : ∃ content, Baseline.load world.disk gate.settings.paths.baseline = .error (.corrupt content) := by
      obtain ⟨content, hcorrupt⟩ := Baseline.exists_ofBytes_of_isCorrupt h.corrupt
      exact ⟨content, by rw [Baseline.load_of_content? h.content, hcorrupt]⟩
    have halike := alike_erase hfile
    have hnone : Baseline.load (world.disk.erase place) gate.settings.paths.baseline = .ok none := by
      rw [Baseline.load_of_locate ((locate_eq_ok_iff_of_alike halike).mp hlocate), bytes?, node?_erase_self]
    have hstart : Starting gate.settings.paths.baseline home place world
        { world with disk := world.disk.erase place } :=
      ⟨⟨h.logsNoFile, h.logsNoFile, ⟨⟨halike, hspares.commands⟩, hloaded, hnone⟩, rfl⟩, rfl, rfl, rfl, rfl⟩
    have hagree := relates_run_corrupt h.paths.symm rfl hspares.room hname
      (isFirm_parent_of_locate hlocate hname hfile) _ _ hstart
    have hleaves := (run_leavesBaseline h.logsNoFile h.paths h.spares).1
    let without : World := { world with disk := world.disk.erase place }
    have hlog : without.LogsNoFile := h.logsNoFile
    have hleaves' := (run_leavesBaseline hlog h.paths h.spares).1
    change Agree _ _ (gate.run.run world) (gate.run.run without)
    generalize gate.run.run world = first, gate.run.run without = second at hagree hleaves hleaves' ⊢
    cases hagree with
    | ok hdiffer => exact .ok ⟨hdiffer, leavesAsNone_of_leavesBaseline hbytes hleaves hleaves'⟩
    | error hdiffer => exact .error ⟨hdiffer, hleaves.trans hbytes⟩

/-- A run with a text in the place of the ratio, whose command writes the report, ends as without that text. -/
theorem run_of_corrupt_of_text :
    let gate : Gate :=
      ⟨⟨70, .zero, .llvmCov, ".", "coverage", some "r.info", some "b.txt", 300, .passOnly, false, "INFO"⟩,
        [⟨"Measure", ["measure"], .report, none, none⟩]⟩
    let bytes := Text.encodeUtf8 "junk"
    let report := Content.file (Text.encodeUtf8 "LF:4\nLH:3\n") none
    let world := World.fresh ((Disk.empty ["home"]).create ["home", "b.txt"] false bytes)
      ⟨[], [⟨0, [("r.info", report)]⟩]⟩
    gate.FindsCorrupt bytes world ∧ Agree
      (fun after after' => World.DifferAt ["home"] ["home", "b.txt"] after after' ∧
        after.disk.bytes? ["home", "b.txt"] = some bytes)
      (fun outcome after after' => World.DifferAt ["home"] ["home", "b.txt"] after after' ∧
        LeavesAsNone ["home", "b.txt"] bytes outcome after after')
      (gate.run.run world) (gate.run.run { world with disk := world.disk.erase ["home", "b.txt"] }) := by
  intro gate bytes report world
  have hcorrupt : Baseline.IsCorrupt bytes :=
    @Baseline.IsCorrupt.noNumeral _ "junk".toList (by decide +kernel) (by decide +kernel)
  have hcontent : content? world.disk gate.settings.paths.baseline = some bytes := by
    clear_value bytes report
    cbv
  have hplace : gate.baselinePlace world.disk.home = ["home", "b.txt"] := by
    clear_value bytes report
    cbv
  have hfinds : gate.FindsCorrupt bytes world := by
    refine ⟨World.logsNoFile_fresh _ _, ?_, hcontent, hcorrupt, ?_, ?_⟩
    · exact (isTree_empty ["home"]).create (by decide) (by decide) false bytes
    · decide +kernel
    · rw [hplace]
      decide +kernel
  have hfirm : Files.IsFirm ["home"] {["home", "b.txt"]} ⟨.relative, []⟩ :=
    ⟨fun _ hleft => (by cases hleft), by decide⟩
  have hspares : gate.SparesName world := by
    have hparent : (Path.ofText "r.info").parent = ⟨.relative, []⟩ := by decide +kernel
    have hroom : gate.settings.paths.report.parent = ⟨.relative, []⟩ := by decide +kernel
    refine ⟨?_, .inr ?_⟩
    · refine List.forall_mem_singleton.mpr (List.forall_mem_singleton.mpr ?_)
      rw [hplace, Content.IsFirm, hparent]
      exact hfirm
    · rw [hplace, hroom]
      exact hfirm
  have hagree := run_of_corrupt.2 hfinds hspares
  simp only [hplace] at hagree
  exact ⟨hfinds, hagree⟩

/-- A file is in the way where a directory is to be made under its name, and no file is not: a report below it, or a
command that writes there, ends the run with the file and does not without. -/
theorem run_of_corrupt_below :
    let gate (report : String) (steps : List Step) : Gate :=
      ⟨⟨80, .zero, .llvmCov, ".", "coverage", some report, some "b.txt", 300, .always, false, "INFO"⟩, steps⟩
    let bytes := Text.encodeUtf8 "junk"
    let world (responses : List Response) :=
      World.fresh ((Disk.empty ["home"]).create ["home", "b.txt"] false bytes) ⟨[], responses⟩
    let DiffersFor (gate : Gate) (world : World) : Prop := gate.FindsCorrupt bytes world ∧
      ¬Agree (fun _ _ => True) (fun _ _ _ => True) (gate.run.run world)
        (gate.run.run { world with disk := world.disk.erase (gate.baselinePlace world.disk.home) })
    DiffersFor (gate "b.txt/r.info" []) (world []) ∧
      DiffersFor (gate "r.info" [⟨"Measure", ["measure"], .build, none, none⟩])
        (world [⟨0, [("b.txt/r.info", .file [] none)]⟩]) := by
  intro gate bytes world DiffersFor
  have hcorrupt : Baseline.IsCorrupt bytes :=
    @Baseline.IsCorrupt.noNumeral _ "junk".toList (by decide +kernel) (by decide +kernel)
  obtain ⟨content, hcontent⟩ := Baseline.exists_ofBytes_of_isCorrupt hcorrupt
  let started (responses : List Response) : World :=
    { world responses with records := [⟨.debug, .gate, "Gate state -> start"⟩], phases := [.start] }
  have hstarted (responses : List Response) :
      (Run.enter .start).run { world responses with phases := [] } = .ok () (started responses) := rfl
  have hfile (report : String) (steps : List Step) (responses : List Response) :
      content? (world responses).disk (gate report steps).settings.paths.baseline = some bytes := by
    clear_value bytes
    cbv
  have hload (report : String) (steps : List Step) (responses : List Response) :
      Baseline.load (started responses).disk (gate report steps).settings.paths.baseline =
        .error (.corrupt content) := by
    rw [Baseline.load_of_content? (hfile report steps responses), hcontent]
  have hdiffers (report : String) (steps : List Step) (responses : List Response)
      (hfails : ∀ message, fails ((gate report steps).measure.run.run
        ((started responses).record ⟨.warning, .gate, message⟩)) = true)
      (hends : fails ((gate report steps).run.run
        { world responses with disk := (world responses).disk.erase ["home", "b.txt"] }) = false)
      (hpaths : (gate report steps).reportPlace ["home"] ≠ ["home", "b.txt"])
      (hspares : (world responses).tools.Spares ["home"] ["home", "b.txt"]) :
      DiffersFor (gate report steps) (world responses) := by
    have hplace : (gate report steps).baselinePlace (world responses).disk.home = ["home", "b.txt"] := by
      clear_value bytes
      cbv
    refine ⟨?_, fun hagree => ?_⟩
    · refine ⟨World.logsNoFile_fresh _ _, ?_, hfile report steps responses, hcorrupt, ?_, ?_⟩
      · exact (isTree_empty ["home"]).create (by decide) (by decide) false bytes
      · rw [hplace]
        exact hpaths.symm
      · rw [hplace]
        exact hspares
    · rw [hplace] at hagree
      have hsame := hagree.fails_eq
      rw [hends, fails_run_of_corrupt (hstarted responses) (hload report steps responses) hfails] at hsame
      cases hsame
  constructor
  · refine hdiffers _ _ _ (fun message => ?_) ?_ (by decide +kernel) (by decide +kernel)
    all_goals
      clear_value bytes
      cbv
  · refine hdiffers _ _ _ (fun message => ?_) ?_ (by decide +kernel) (by decide +kernel)
    all_goals
      clear_value bytes
      cbv

end Gate

end Gatekeeper
