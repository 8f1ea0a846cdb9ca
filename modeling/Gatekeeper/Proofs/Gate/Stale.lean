import Gatekeeper.Proofs.Gate.Certificate
import Gatekeeper.Proofs.Gate.Twin

/-! Stale reports. A pipeline removes an old report before the commands of the report stage run, so that a run does the
same whatever was there, and its ratio is one that such a command has written. This holds as long as the path of the
report leads to its location once the project is built: a path with a way up may pass a directory that a command has
removed, and then an old report is overlooked until its directory is made again. -/

namespace Gatekeeper

open Work Files Disk

namespace Disk

/-- What stands somewhere after some work is no file, or one with a content that was there before or that is one of
those that were written. -/
def Draws (written : Set (List UInt8)) (before after : Option Node) : Prop :=
  ∀ id executable bytes, after = some (.file id executable bytes) →
    bytes ∈ written ∨ ∃ id' executable', before = some (.file id' executable' bytes)

variable {written : Set (List UInt8)} {bytes : List UInt8}

instance (written : Set (List UInt8)) : Allowance (Draws written) where
  same _ id executable _ hfound := .inr ⟨id, executable, hfound⟩
  directory _ _ _ hfile := by cases hfile
  compose hfirst hsecond id executable bytes hafter := by
    rcases hsecond id executable bytes hafter with hwritten | ⟨_, _, hmiddle⟩
    · exact .inl hwritten
    · exact hfirst _ _ bytes hmiddle

theorem allowsLoss_draws : AllowsLoss (Draws written) :=
  fun _ _ _ _ hfile => by cases hfile

theorem allowsFile_draws (h : bytes ∈ written) : AllowsFile (Draws written) bytes := by
  rintro _ _ _ - _ _ _ ⟨⟩
  exact .inl h

theorem allowsMark_draws (executable : Bool) : AllowsMark (Draws written) executable := by
  rintro _ _ _ _ _ _ ⟨⟩
  exact .inr ⟨_, _, rfl⟩

end Disk

namespace Report

theorem read_eq_of_alike {home : Location} {loose : Set Location} {one other : Disk} {path : Path}
    (h : Alike home loose one other) (hplace : nominal home path ∉ loose) (asked : String) :
    read one path asked = read other path asked := by
  rw [read, read]
  rcases lookup_cases h hplace with ⟨cause, hone, hother⟩ | ⟨hone, hother⟩ | ⟨hone, hother⟩ |
    ⟨_, _, _, _, hone, hother⟩ <;> rw [hone, hother]

end Report

namespace Gate

variable {gate : Gate} {home : Location} {tools : Toolchain} {disk one other : Disk} {world after : World}

def reportPlace (gate : Gate) (home : Location) : Location :=
  nominal home gate.settings.paths.report

def baselinePlace (gate : Gate) (home : Location) : Location :=
  nominal home gate.settings.paths.baseline

def buildResponses (gate : Gate) (tools : Toolchain) : List Response :=
  tools.responses.take (gate.stageSteps .build).length

/-- The answers to the commands of the report stage, if those of the build stage succeed. -/
def reportResponses (gate : Gate) (tools : Toolchain) : List Response :=
  (tools.responses.drop (gate.stageSteps .build).length).take (gate.stageSteps .report).length

/-- Whether the path of the report leads to what stands at its location, if anything does, once the project is built. -/
def SeesReport (gate : Gate) (tools : Toolchain) (disk : Disk) : Prop :=
  ∀ built, (perform (gate.buildResponses tools)).run disk = .ok () built → Sees built gate.settings.paths.report

/-- Whether the path of the report has no way up, and no command of the build stage takes the place away in which the
program runs. -/
structure IsPlain (gate : Gate) (tools : Toolchain) (disk : Disk) : Prop where
  tree : disk.IsTree disk.home
  noWayUp : ".." ∉ gate.settings.paths.report.parts
  sparesHome : ∀ response ∈ gate.buildResponses tools, ∀ write ∈ response.writes,
    write.2.SparesHome disk.home (Path.ofText write.1)

/-- What a run shows of itself is the same in two worlds: printed lines, tools looked up, commands, stations, and the
content of the file with the stored ratio. -/
structure ShowsSame (gate : Gate) (home : Location) (one other : World) : Prop where
  printed : one.printed = other.printed
  asked : one.asked = other.asked
  commands : one.commands = other.commands
  phases : one.phases = other.phases
  baseline : one.disk.bytes? (gate.baselinePlace home) = other.disk.bytes? (gate.baselinePlace home)

theorem keepsTree_perform {responses : List Response}
    (h : ∀ response ∈ responses, ∀ write ∈ response.writes, write.2.SparesHome home (Path.ofText write.1)) :
    Keeps (Lasts (IsTree home)) (perform responses) :=
  Keeps.forM fun response hresponse => Run.keepsTree_placeAll (h response hresponse)

/-- In a tree a plain path sees the report whatever the commands do. -/
theorem seesReport_of_isPlain {place : Location} {later : Disk} (h : gate.IsPlain tools later)
    (hlocate : locate disk gate.settings.paths.report = .ok place) (hhome : disk.home = later.home) :
    gate.SeesReport tools later := by
  intro built hbuilt
  have htree : built.IsTree later.home := (keepsTree_perform h.sparesHome).ofOk hbuilt h.tree
  exact sees_of_isTree htree h.noWayUp hhome hlocate

/-- What holds of two disks before the project is built. -/
def Starts (gate : Gate) (home : Location) (tools : Toolchain) (one other : Disk) : Prop :=
  Before home (gate.reportPlace home) tools one other ∧ gate.SeesReport tools one ∧ gate.SeesReport tools other

/-- How two worlds are related while the stale report may be there: their disks differ at the report only. -/
abbrev Parted (gate : Gate) (home : Location) : World → World → Prop :=
  World.Parted home (gate.reportPlace home)

theorem sees_of_prepare_eq_ok (hlog : world.LogsNoFile) (hsees : gate.SeesReport world.tools world.disk)
    (h : gate.prepare.run.run world = .ok (.ok ()) after) : Sees after.disk gate.settings.paths.report :=
  hsees _ ((of_prepare_eq_ok hlog h).2 rfl hlog).2.1

/-- When the stale report is seen, the disks are the same once the new one is written. -/
theorem relates_produce (gate : Gate) (home : Location) :
    Relates
      (World.Twin fun _ one other => AlikeBut home (gate.reportPlace home) one other ∧
        Sees one gate.settings.paths.report ∧ Sees other gate.settings.paths.report)
      (gate.Parted home) (Either (gate.Parted home) fun _ => World.Rejoined home) gate.produce.run := by
  have hreport : Respects (World.Rejoined home) (gate.runStage .report).run :=
    respects_runSteps (Run.respects_command fun _ response _ _ => response.respects_alikeEverywhere) _ _
  refine Relates.attemptBind (Relates.lift (relates_clearReport _)) fun _ => ?_
  exact hreport.attempt.widen World.parted_of_rejoined

/-- When the pipeline goes through, the disks are the same at its end. -/
theorem relates_runPipeline (gate : Gate) (home : Location) :
    Relates (World.Twin (gate.Starts home)) (gate.Parted home) (Either (gate.Parted home) fun _ => World.Rejoined home)
      gate.runPipeline.run := by
  have hprepare : Relates (World.Twin (gate.Starts home)) (gate.Parted home)
      (Either (gate.Parted home) fun _ => World.Twin (Before home (gate.reportPlace home))) gate.prepare.run :=
    ((respects_prepare respects_command_before gate).attempt.widen fun _ _ h => h.mono And.left).mono
      (fun _ _ h => h.mono And.left) (fun _ _ => id) fun _ _ _ => id
  rw [runPipeline_eq]
  refine hprepare.attemptBindReached fun one other _ one' other' hstart hone hother htwin => ?_
  obtain ⟨-, hsees, hsees'⟩ := hstart.disk
  refine relates_produce gate home one' other' (htwin.mono fun hdisk => ⟨hdisk.1, ?_, ?_⟩)
  · exact sees_of_prepare_eq_ok hstart.logsNoFile hsees hone
  · exact sees_of_prepare_eq_ok hstart.logsNoFile' (hstart.tools ▸ hsees') hother

/-- A report that is measured is read from the same disks. -/
theorem relates_measure (home : Location) (hpipeline : gate.settings.skipPipeline = false) :
    Relates (World.Twin (gate.Starts home)) (gate.Parted home)
      (Either (gate.Parted home) fun _ one other => World.Rejoined home one other ∧ True) gate.measure.run := by
  have htold {work : Run Unit} (h : Respects (World.Rejoined home) work) :
      Relates (World.Rejoined home) (gate.Parted home) (fun _ => World.Rejoined home) work :=
    h.mono (fun _ _ => id) World.parted_of_rejoined fun _ _ _ => id
  have hread : Relates (World.Rejoined home) (World.Rejoined home)
      (Either (World.Rejoined home) fun _ one other => World.Rejoined home one other ∧ True)
      (readReport gate.settings.paths.report).run :=
    relates_readReport (fun _ _ h => Report.read_eq_of_alike h.disk (Set.notMem_empty _) "")
      fun _ _ _ _ _ => trivial
  rw [measure, reachReport, hpipeline, if_neg Bool.false_ne_true]
  refine Relates.attemptBind (gate.relates_runPipeline home) fun _ => ?_
  refine Relates.attemptBind (Relates.lift (htold (Run.respects_enter _))) fun _ => ?_
  refine Relates.attemptBind (Relates.lift (htold (Run.respects_print _))) fun _ => ?_
  exact hread.widen World.parted_of_rejoined

theorem load_eq_of_alikeBut {path : Path} {place : Location} (h : AlikeBut home place one other)
    (hplace : nominal home path ≠ place) : Baseline.load one path = Baseline.load other path := by
  rcases h with hbut | heverywhere
  · exact Baseline.load_eq_of_alike hbut hplace
  · exact Baseline.load_eq_of_alike heverywhere (Set.notMem_empty _)

/-- A run comes to the same end from two worlds that differ in the report only. -/
theorem relates_run_of_starts (hpipeline : gate.settings.skipPipeline = false)
    (hpaths : gate.baselinePlace home ≠ gate.reportPlace home) :
    Relates (World.Twin (gate.Starts home)) (gate.Parted home) (fun _ => gate.Parted home) gate.run := by
  have hsave (ratio : Decimal) {one other : World} (h : World.Rejoined home one other) :=
    Baseline.save_of_alike (.finite ratio) (isFirm_empty home gate.settings.paths.baseline.parent) (isFirm_empty home _)
      (fun _ => Set.notMem_empty _) h.disk
  refine relates_run (S := World.Twin (gate.Starts home)) (T := World.Rejoined home) (fun one other h => ?_)
    (fun _ _ h => load_eq_of_alikeBut h.disk.1.1 hpaths) (relates_measure home hpipeline)
    (fun _ _ h => h.mono fun hdisk => hdisk.1.1) World.parted_of_rejoined fun ratio _ => ?_
  · exact ⟨⟨h.logsNoFile, h.logsNoFile', h.disk, rfl⟩, h.tools, h.printed, h.asked, h.commands⟩
  · exact relates_storeNumeral (fun _ _ h => (hsave ratio h).1) fun _ _ h => h.withDisk (.inr (hsave ratio h).2)

/-- Whether some command puts a file with a content at a location. -/
def Wrote (home place : Location) (responses : List Response) (bytes : List UInt8) : Prop :=
  ∃ response ∈ responses, ∃ name mark, (name, Content.file bytes mark) ∈ response.writes ∧
    nominal home (Path.ofText name) = place

/-- Whether a ratio is that of a report which a command of the report stage has written. -/
def IsFresh (gate : Gate) (home : Location) (tools : Toolchain) (ratio : Decimal) : Prop :=
  ∃ bytes report, Wrote home (gate.reportPlace home) (gate.reportResponses tools) bytes ∧
    Report.ofBytes gate.settings.paths.report (ReportFormat.resolve gate.settings.paths.report "") bytes =
      .ok report ∧ report.total = ratio

/-- What is in a file after some commands was there before, or one of them wrote it. -/
theorem keeps_perform (home place : Location) (responses : List Response) :
    Keeps (Drifts (Draws {bytes | Wrote home place responses bytes}) home place) (perform responses) := by
  refine Keeps.forM fun response hresponse => Run.keeps_placeAll fun write hwrite => ?_
  obtain ⟨name, content⟩ := write
  cases content with
  | absent => exact .inr allowsLoss_draws
  | directory => trivial
  | file bytes mark =>
      intro hplace
      have hwrote : Wrote home place responses bytes := ⟨response, hresponse, name, mark, hwrite, hplace.symm⟩
      exact ⟨allowsFile_draws hwrote, fun mark _ => allowsMark_draws mark⟩

theorem not_holdsFile_of_remove_eq_ok {path : Path} (h : (remove path).run disk = .ok () other) :
    ¬HoldsFile (other.node? (nominal disk.home path)) ∧ other.home = disk.home := by
  rw [run_remove] at h
  cases hlocate : locate disk path with
  | error cause =>
      rw [hlocate] at h
      cases h
  | ok place =>
      rw [hlocate] at h
      simp only at h
      split at h <;> cases h
      rw [← eq_nominal_of_locate hlocate, node?_erase_self]
      exact ⟨id, rfl⟩

/-- A stale report that is seen is gone when there is room for the new one. -/
theorem not_holdsFile_of_renew_eq_ok {path : Path} (hsees : Sees disk path)
    (h : (renew path).run disk = .ok () other) :
    ¬HoldsFile (other.node? (nominal disk.home path)) ∧ other.home = disk.home := by
  have hroom {cleared : Disk} (hnofile : ¬HoldsFile (cleared.node? (nominal disk.home path)))
      (hhome : cleared.home = disk.home) (h : (ensureDirectory path.parent).run cleared = .ok () other) :
      ¬HoldsFile (other.node? (nominal disk.home path)) ∧ other.home = disk.home := by
    have hmade : Drifts NoNewFile disk.home (nominal disk.home path) cleared other := (keeps_ensureDirectory _).ofOk h
    exact ⟨hnofile ∘ (hmade hhome).2, (hmade hhome).1⟩
  obtain ⟨found, looked, hlooked, h⟩ := of_bind_eq_ok h
  rw [run_pathExists] at hlooked
  split at hlooked <;> cases hlooked
  rename_i node hlookup
  cases node with
  | none =>
      refine hroom ?_ rfl h
      rcases hsees with hnone | hlocate
      · rw [hnone]
        exact id
      · rw [Files.lookup, hlocate, Except.ok.injEq] at hlookup
        rw [hlookup]
        exact id
  | some node =>
      obtain ⟨_, cleared, hremoved, h⟩ := of_bind_eq_ok h
      obtain ⟨hnofile, hhome⟩ := not_holdsFile_of_remove_eq_ok hremoved
      exact hroom hnofile hhome h

/-- The report that a pipeline leaves was written by a command of the report stage. -/
theorem wrote_of_pipelineWork {bytes : List UInt8} (hsees : gate.SeesReport tools disk)
    (h : (gate.pipelineWork tools.responses).run disk = .ok () other)
    (hcontent : content? other gate.settings.paths.report = some bytes) :
    Wrote disk.home (gate.reportPlace disk.home) (gate.reportResponses tools) bytes := by
  obtain ⟨_, built, hbuilt, h⟩ := of_bind_eq_ok h
  obtain ⟨_, cleared, hcleared, hproduced⟩ := of_bind_eq_ok h
  have hhome : built.home = disk.home := ((keeps_perform disk.home [] _).ofOk hbuilt rfl).1
  obtain ⟨hnofile, hsame⟩ := not_holdsFile_of_renew_eq_ok (hsees built hbuilt) hcleared
  rw [hhome] at hnofile hsame
  obtain ⟨hlast, hdraws⟩ := (keeps_perform disk.home (gate.reportPlace disk.home) _).ofOk hproduced hsame
  obtain ⟨place, hlocate, hbytes⟩ := content?_eq_some_iff.mp hcontent
  obtain rfl : place = gate.reportPlace disk.home := hlast ▸ eq_nominal_of_locate hlocate
  rw [bytes?] at hbytes
  split at hbytes <;> cases hbytes
  rename_i hnode
  rcases hdraws _ _ _ hnode with hwrote | ⟨_, _, hold⟩
  · exact hwrote
  · rw [reportPlace] at hold
    rw [hold] at hnofile
    exact absurd trivial hnofile

/-- The ratio of a run is that of a report which a command of the report stage has written in this run. -/
theorem wrote_of_run_eq_ok {outcome : Outcome} {ratio : Decimal} (hlog : world.LogsNoFile)
    (hpipeline : gate.settings.skipPipeline = false) (hsees : gate.SeesReport world.tools world.disk)
    (h : gate.run.run world = .ok outcome after) (hratio : outcome.ratio = some ratio) :
    gate.IsFresh world.disk.home world.tools ratio := by
  obtain ⟨ready, measured, reached, hready, hmeasured, h⟩ := of_run_eq_ok hlog h
  obtain ⟨hlogReady, hdisk, htools⟩ := hready hlog
  cases measured with
  | error abort =>
      rw [of_breakOff_eq_ok h] at hratio
      cases hratio
  | ok measured =>
      obtain ⟨_, _, _, _, -, -, houtcome, -⟩ := of_conclude_eq_ok h
      rw [houtcome] at hratio
      cases hratio
      rcases course_of_measure_eq_ok hlogReady hmeasured with ⟨_, -, hnone⟩ | ⟨parsing, hreached, -, hread⟩
      · cases hnone
      · rw [reachReport, hpipeline, if_neg Bool.false_ne_true] at hreached
        obtain ⟨-, hwork, -⟩ := (of_runPipeline_eq_ok hlogReady hreached).2 rfl hlogReady
        rw [hdisk, htools] at hwork
        obtain ⟨report, hreport, rfl⟩ := of_readResult_eq_ok hread
        obtain ⟨bytes, hcontent, hbytes⟩ := Report.of_read_eq_ok hreport
        exact ⟨bytes, report, wrote_of_pipelineWork hsees hwork hcontent, hbytes, rfl⟩

theorem showsSame_of_parted (hpaths : gate.baselinePlace home ≠ gate.reportPlace home) {one other : World}
    (h : gate.Parted home one other) : gate.ShowsSame home one other := by
  refine ⟨h.printed, h.asked, h.commands, h.phases, bytes?_eq_of_seen?_eq ?_⟩
  rcases h.disk with hbut | heverywhere
  · exact hbut.seen_eq _ hpaths
  · exact heverywhere.seen_eq _ (Set.notMem_empty _)

/-- A pipeline run comes to the same end and shows the same whether there was a stale report or not and whatever was in
it, if the commands do not look at it and the path of the report sees it once the project is built. A ratio is then
that of a report which a command of the report stage has written in this run. -/
theorem run_ignores_stale_report {stale : List UInt8} (hlog : world.LogsNoFile)
    (hpipeline : gate.settings.skipPipeline = false)
    (hpaths : gate.baselinePlace world.disk.home ≠ gate.reportPlace world.disk.home)
    (hstale : content? world.disk gate.settings.paths.report = some stale)
    (hdisks : Alike world.disk.home {gate.reportPlace world.disk.home} world.disk disk)
    (htools : world.tools.Ignores world.disk.home (gate.reportPlace world.disk.home))
    (hway : gate.IsPlain world.tools world.disk ∨
      gate.SeesReport world.tools world.disk ∧ gate.SeesReport world.tools disk) :
    Agree (gate.ShowsSame world.disk.home) (fun _ => gate.ShowsSame world.disk.home)
        (gate.run.run world) (gate.run.run { world with disk := disk }) ∧
      ∀ outcome after ratio, gate.run.run world = .ok outcome after → outcome.ratio = some ratio →
        gate.IsFresh world.disk.home world.tools ratio := by
  obtain ⟨place, hlocate, hbytes⟩ := content?_eq_some_iff.mp hstale
  have hsees : gate.SeesReport world.tools world.disk ∧ gate.SeesReport world.tools disk := by
    rcases hway with hplain | hsees
    · have hloose : ∀ place, place ∈ ({gate.reportPlace world.disk.home} : Set Location) →
          world.disk.node? place ≠ none := by
        rintro _ ⟨⟩ hnone
        rw [reportPlace, ← eq_nominal_of_locate hlocate] at hnone
        rw [bytes?, hnone] at hbytes
        cases hbytes
      have hhome := hdisks.home_eq'
      have htree : disk.IsTree disk.home := hhome ▸ hplain.tree.of_alike hdisks hloose
      have hplain' : gate.IsPlain world.tools disk := ⟨htree, hplain.noWayUp, hhome ▸ hplain.sparesHome⟩
      exact ⟨seesReport_of_isPlain hplain hlocate rfl, seesReport_of_isPlain hplain' hlocate hhome.symm⟩
    · exact hsees
  refine ⟨?_, fun outcome after ratio => wrote_of_run_eq_ok hlog hpipeline hsees.1⟩
  have hstart : World.Twin (gate.Starts world.disk.home) world { world with disk := disk } :=
    ⟨⟨hlog, hlog, ⟨⟨.inl hdisks, htools⟩, hsees⟩, rfl⟩, rfl, rfl, rfl, rfl⟩
  exact (relates_run_of_starts hpipeline hpaths _ _ hstart).mono (fun _ _ => showsSame_of_parted hpaths)
    fun _ _ _ => showsSame_of_parted hpaths

/-- A report that would pass is removed, and so is the one that a build command puts in its place; the ratio is that of
the last one, which is below the minimum. -/
theorem run_ignores_stale_report_of_low_ratio :
    let gate : Gate :=
      ⟨⟨80, .zero, .llvmCov, ".", "coverage", some "r.info", none, 300, .passOnly, false, "INFO"⟩,
        [⟨"Build", ["make"], .build, none, none⟩, ⟨"Measure", ["measure"], .report, none, none⟩]⟩
    let stale := Text.encodeUtf8 "LF:4\nLH:4\n"
    let fresh := Text.encodeUtf8 "LF:4\nLH:3\n"
    let tools : Toolchain :=
      ⟨[], [⟨0, [("r.info", .file stale none)]⟩, ⟨0, [("r.info", .file fresh none)]⟩]⟩
    let disk := Disk.empty ["home"]
    let world := World.fresh (disk.create ["home", "r.info"] false stale) tools
    ∃ outcome after after', gate.run.run world = .ok outcome after ∧
      gate.run.run { world with disk := disk } = .ok outcome after' ∧ gate.ShowsSame ["home"] after after' ∧
      outcome.ratio = some ⟨false, 75, -2⟩ ∧ gate.IsFresh ["home"] tools ⟨false, 75, -2⟩ := by
  intro gate stale fresh tools disk world
  have hlog : world.LogsNoFile := World.logsNoFile_fresh _ tools
  have hrange : gate.settings.InRange := by decide
  have hstale : content? world.disk gate.settings.paths.report = some stale := by
    clear_value stale fresh
    cbv
  have hdisks : Alike ["home"] {["home", "r.info"]} world.disk disk := by
    refine ⟨rfl, rfl, rfl, fun place hplace => ?_, ?_, ?_⟩
    · rw [seen?, seen?]
      exact congrArg _ (node?_create_of_ne hplace disk false stale)
    · rintro _ ⟨⟩
      rw [show world.disk = disk.create ["home", "r.info"] false stale from rfl, node?_create_self]
      simp
    · rintro _ ⟨⟩
      decide
  have hignores : tools.Ignores ["home"] ["home", "r.info"] := by
    have hparent : (Path.ofText "r.info").parent = ⟨.relative, []⟩ := by decide +kernel
    have hfirm : Files.IsFirm ["home"] {["home", "r.info"]} ⟨.relative, []⟩ :=
      ⟨fun _ hleft => (by cases hleft), by decide⟩
    have hfile (bytes : List UInt8) : Response.Ignores ["home"] ["home", "r.info"]
        ⟨0, [("r.info", .file bytes none)]⟩ := by
      refine Response.ignores_of_isFirm fun write hwrite => ?_
      rw [List.mem_singleton.mp hwrite, Content.IsFirm, hparent]
      exact hfirm
    exact List.forall_mem_cons.mpr ⟨hfile stale, List.forall_mem_singleton.mpr (hfile fresh)⟩
  have hplain : gate.IsPlain world.tools world.disk := by
    refine ⟨(isTree_empty ["home"]).create (by decide) (by decide) false stale, by decide, ?_⟩
    refine List.forall_mem_singleton.mpr (List.forall_mem_singleton.mpr ?_)
    intro habsent
    cases habsent
  have hplace : gate.reportPlace ["home"] = ["home", "r.info"] := by decide +kernel
  let started : World := { world with
    records := [⟨.debug, .gate, "Gate state -> start"⟩], phases := [.start] }
  have hlogStarted : started.LogsNoFile := hlog
  have hstarted : (Run.enter .start).run { world with phases := [] } = .ok () started := rfl
  have hloaded : (loadBaseline gate.settings.paths.baseline).run started = .ok none started := by
    clear_value stale fresh
    cbv
  have hgoes : wentOn (gate.reachReport.run.run started) = true := by
    clear_value stale fresh
    cbv
  obtain ⟨_, reached, hreached⟩ := exists_of_wentOn hgoes
  have hcontent : content? (gate.atParse started.disk started.tools) gate.settings.paths.report = some fresh := by
    clear_value stale fresh
    cbv
  obtain ⟨hlater, hdisk⟩ := (of_reachReport_eq_ok hlogStarted hreached).2 rfl
  rw [← hdisk] at hcontent
  have hread : Report.ofBytes gate.settings.paths.report .lcov fresh =
      .ok ⟨gate.settings.paths.report, .lcov, ⟨false, 75, -2⟩, [], []⟩ := by
    have hlcov : Lcov.read fresh = .ok ⟨false, 75, -2⟩ := by decide +kernel
    rw [Report.ofBytes, Report.ofRecords, hlcov]
  have hformat : ReportFormat.resolve gate.settings.paths.report "" = .lcov := by decide +kernel
  have hresult : readResult reached.disk gate.settings.paths.report = some (.ok ⟨false, 75, -2⟩) := by
    rw [readResult, Report.read_of_content?_eq_some hcontent, hformat, hread]
  obtain ⟨measured, hmeasured⟩ := exists_measure_of_reachReport hlater hreached hresult
  obtain ⟨outcome, after, hconcluded⟩ : ∃ outcome after,
      (conclude gate.settings ⟨false, 75, -2⟩ none).run measured = .ok outcome after := by
    have hlogMeasured : measured.LogsNoFile := by
      rcases course_of_measure_eq_ok hlogStarted hmeasured with ⟨_, -, hnone⟩ | ⟨_, -, hlog, -⟩
      · cases hnone
      · exact hlog
    have hbaseline : ∀ earlier, (none : Option Decimal) = some earlier → earlier.inUnit = true := by simp
    refine (exists_conclude_iff hrange (by decide +kernel) hbaseline hlogMeasured).mpr
      ⟨75, by decide +kernel, by decide +kernel, ?_⟩
    rintro (halways | ⟨hminimum, -⟩)
    · cases halways
    · exact absurd hminimum (by decide)
  have hratio : outcome.ratio = some ⟨false, 75, -2⟩ := by
    obtain ⟨_, _, _, _, -, -, houtcome, -⟩ := of_conclude_eq_ok hconcluded
    rw [houtcome]
  have hrun := (run_of_measure_eq_ok hstarted hloaded hmeasured).trans hconcluded
  have hpaths : gate.baselinePlace ["home"] ≠ gate.reportPlace ["home"] := by decide +kernel
  rw [← hplace] at hdisks hignores
  obtain ⟨hagree, hfresh⟩ := run_ignores_stale_report hlog rfl hpaths hstale hdisks hignores (.inl hplain)
  rw [hrun] at hagree
  obtain ⟨after', hrun', hshows⟩ := hagree.exists_of_ok
  exact ⟨outcome, after, after', hrun, hrun', hshows, hratio, hfresh outcome after _ hrun hratio⟩

end Gate

end Gatekeeper
