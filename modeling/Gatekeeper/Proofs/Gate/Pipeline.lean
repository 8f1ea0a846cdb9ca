import Gatekeeper.Proofs.Gate.Course

/-! What the way to the report comes to. Whether it is broken off follows from the tools and the codes in the
script alone; when it is not, the disk has changed by what the commands write and by the removal of the
stale report between the two stages, in the order of the script. -/

namespace Gatekeeper

open Work Files

def Toolchain.next (tools : Toolchain) : Response :=
  tools.responses.head?.getD ⟨0, []⟩

/-- What is done to the files when some commands have run, and how many commands these were. -/
def World.Reaches (work : Files Unit) (count : Nat) (before after : World) : Prop :=
  before.LogsNoFile → after.LogsNoFile ∧ work.run before.disk = .ok () after.disk ∧
    after.tools.missing = before.tools.missing ∧
    after.tools.responses = before.tools.responses.drop count

namespace World

theorem reaches_of_rests {before after : World} (h : Rests before after) :
    Reaches (pure ()) 0 before after := by
  intro hlog
  obtain ⟨hlater, hdisk, htools⟩ := h hlog
  rw [hdisk, htools]
  exact ⟨hlater, rfl, rfl, rfl⟩

theorem Reaches.trans {first second : Files Unit} {count count' : Nat} {before middle after : World}
    (hfirst : Reaches first count before middle) (hsecond : Reaches second count' middle after) :
    Reaches (first >>= fun _ => second) (count + count') before after := by
  intro hlog
  obtain ⟨hmiddle, hwork, hmissing, hresponses⟩ := hfirst hlog
  obtain ⟨hafter, hwork', hmissing', hresponses'⟩ := hsecond hmiddle
  refine ⟨hafter, ?_, hmissing'.trans hmissing, ?_⟩
  · rw [EStateM.run_bind, hwork]
    exact hwork'
  · rw [hresponses', hresponses, List.drop_drop]

theorem reaches_of_rests_left {work : Files Unit} {count : Nat} {before middle after : World}
    (hrests : Rests before middle) (h : Reaches work count middle after) :
    Reaches work count before after := by
  have htrans := (reaches_of_rests hrests).trans h
  rw [Nat.zero_add] at htrans
  exact htrans

theorem reaches_of_rests_right {work : Files Unit} {count : Nat} {before middle after : World}
    (h : Reaches work count before middle) (hrests : Rests middle after) :
    Reaches work count before after := by
  intro hlog
  obtain ⟨hmiddle, hwork, hmissing, hresponses⟩ := h hlog
  obtain ⟨hafter, hdisk, htools⟩ := hrests hmiddle
  rw [hdisk, htools]
  exact ⟨hafter, hwork, hmissing, hresponses⟩

end World

namespace Run

theorem run_files_of_ok {α : Type} {work : Files α} {value : α} {world : World} {disk : Disk}
    (h : work.run world.disk = .ok value disk) :
    (files work).run world = .ok value { world with disk := disk } := by
  rw [files, EStateM.run_bind, EStateM.run_get]
  simp only [h]
  rfl

theorem of_files_eq_ok {α : Type} {work : Files α} {value : α} {world after : World}
    (h : (files work).run world = .ok value after) :
    ∃ disk, work.run world.disk = .ok value disk ∧ after = { world with disk := disk } := by
  rw [files, EStateM.run_bind, EStateM.run_get] at h
  simp only at h
  cases hrun : work.run world.disk with
  | ok given disk =>
      rw [hrun] at h
      cases h
      exact ⟨disk, rfl, rfl⟩
  | error cause disk =>
      rw [hrun] at h
      cases h

theorem finish_files {α : Type} (work : Files α) (world : World) :
    finish (files work) world = { world with disk := finish work world.disk } := by
  rw [files, finish_get_bind]
  cases hrun : work.run world.disk with
  | ok value disk =>
      rw [finish_of_ok hrun]
      rfl
  | error cause disk =>
      rw [finish_of_error hrun]
      rfl

theorem reaches_of_files_eq_ok {work : Files Unit} {world after : World}
    (h : (files work).run world = .ok () after) : World.Reaches work 0 world after := by
  obtain ⟨disk, hwork, rfl⟩ := of_files_eq_ok h
  exact fun hlog => ⟨hlog, hwork, rfl, rfl⟩

/-- A command does what the next item of the script says. -/
theorem of_command_eq_ok {directory : Path} {argv : List String} {code : Int} {world after : World}
    (h : (command directory argv).run world = .ok code after) :
    code = world.tools.next.code ∧ World.Reaches (placeAll world.tools.next.writes) 1 world after := by
  obtain ⟨_, noted, hnoted, h⟩ := of_bind_eq_ok h
  cases hnoted
  rw [EStateM.run_bind, EStateM.run_get] at h
  simp only at h
  rw [Toolchain.next]
  cases hresponses : world.tools.responses with
  | nil =>
      rw [hresponses] at h
      cases h
      refine ⟨rfl, fun hlog => ⟨hlog, rfl, rfl, ?_⟩⟩
      rw [hresponses]
      rfl
  | cons response later =>
      rw [hresponses] at h
      simp only at h
      obtain ⟨_, taken, htaken, hrest⟩ := of_bind_eq_ok h
      obtain ⟨_, placed, hplaced, hcode⟩ := of_bind_eq_ok hrest
      cases htaken
      cases hcode
      obtain ⟨disk, hwork, rfl⟩ := of_files_eq_ok hplaced
      refine ⟨rfl, fun hlog => ⟨hlog, hwork, rfl, ?_⟩⟩
      rw [hresponses]
      rfl

end Run

namespace Gate

/-- The first tool of some needed ones that is not at hand. -/
def missingTool? (tools : Toolchain) (needed : List (String × Option String)) :
    Option (String × Option String) :=
  needed.find? fun entry => tools.missing.contains entry.1

/-- The first step that ends with a code other than zero, when the steps get the answers of a script. -/
def failure? (steps : List Step) (responses : List Response) : Option (Step × Int) :=
  ((steps.zip responses).find? fun entry => entry.2.code ≠ 0).map fun entry => (entry.1, entry.2.code)

/-- What comes of some steps when they get the answers of a script. -/
def stepsResult (steps : List Step) (responses : List Response) : Except Abort Unit :=
  match failure? steps responses with
  | some (step, code) => .error (.stepFailed step.name code)
  | none => .ok ()

/-- What some commands do to the files. -/
def perform (responses : List Response) : Files Unit :=
  responses.forM fun response => Run.placeAll response.writes

/-- The removal of a stale report, as work on files. -/
def renew (path : Path) : Files Unit := do
  if ← pathExists path then remove path
  ensureDirectory path.parent

def stageSteps (gate : Gate) (stage : Stage) : List Step :=
  gate.steps.filter fun step => step.stage = stage

/-- The steps in the order in which a run executes them. -/
def plan (gate : Gate) : List Step :=
  gate.stageSteps .build ++ gate.stageSteps .report

/-- What comes of a pipeline: a missing tool counts before a failing step. -/
def pipelineResult (gate : Gate) (tools : Toolchain) : Except Abort Unit :=
  match missingTool? tools (Pipeline.requiredTools gate.steps) with
  | some (tool, hint) => .error (.toolMissing tool hint)
  | none => stepsResult gate.plan tools.responses

/-- What a pipeline without a failure does to the files. -/
def pipelineWork (gate : Gate) (responses : List Response) : Files Unit := do
  perform (responses.take (gate.stageSteps .build).length)
  renew gate.settings.paths.report
  perform ((responses.drop (gate.stageSteps .build).length).take (gate.stageSteps .report).length)

/-- What comes of the way to the report. In report-only mode it cannot be broken off. -/
def wayResult (gate : Gate) (tools : Toolchain) : Except Abort Unit :=
  if gate.settings.skipPipeline then .ok () else gate.pipelineResult tools

/-- The disk on which a report is read, when the way to it is not broken off. -/
def atParse (gate : Gate) (disk : Disk) (tools : Toolchain) : Disk :=
  if gate.settings.skipPipeline then disk else finish (gate.pipelineWork tools.responses) disk

/-- What comes of the reading of a report, when it comes to an outcome. -/
def readResult (disk : Disk) (path : Path) : Option (Except Abort Decimal) :=
  match Report.read disk path "" with
  | .ok report => some (.ok report.total)
  | .error .missing => some (.error (.reportMissing path))
  | .error (.unreadable defect) => some (.error (.reportUnparseable path defect))
  | .error _ => none

theorem missingTool?_eq_none_iff {tools : Toolchain} {needed : List (String × Option String)} :
    missingTool? tools needed = none ↔ ¬∃ entry ∈ needed, entry.1 ∈ tools.missing := by
  simp [missingTool?]

theorem failure?_cons_of_eq_zero {tools : Toolchain} (h : tools.next.code = 0) (step : Step)
    (rest : List Step) : failure? (step :: rest) tools.responses = failure? rest (tools.responses.drop 1) := by
  rw [Toolchain.next] at h
  cases hresponses : tools.responses with
  | nil => simp [failure?]
  | cons response later =>
      have hcode : response.code = 0 := by simpa [hresponses] using h
      simp [failure?, hcode]

theorem failure?_cons_of_ne_zero {tools : Toolchain} (h : tools.next.code ≠ 0) (step : Step)
    (rest : List Step) : failure? (step :: rest) tools.responses = some (step, tools.next.code) := by
  rw [Toolchain.next] at h ⊢
  cases hresponses : tools.responses with
  | nil => simp [hresponses] at h
  | cons response later =>
      have hcode : response.code ≠ 0 := by simpa [hresponses] using h
      simp [failure?, hcode]

theorem failure?_append (first second : List Step) (tools : Toolchain) :
    failure? (first ++ second) tools.responses =
      (failure? first tools.responses).or (failure? second (tools.responses.drop first.length)) := by
  induction first generalizing tools with
  | nil => rfl
  | cons step rest ih =>
      by_cases hcode : tools.next.code = 0
      · have hrest := ih { tools with responses := tools.responses.drop 1 }
        rw [List.cons_append, failure?_cons_of_eq_zero hcode, failure?_cons_of_eq_zero hcode, hrest,
          List.length_cons, List.drop_drop, Nat.add_comm]
      · rw [List.cons_append, failure?_cons_of_ne_zero hcode, failure?_cons_of_ne_zero hcode]
        rfl

theorem stepsResult_append (first second : List Step) (tools : Toolchain) :
    stepsResult (first ++ second) tools.responses = (do
      stepsResult first tools.responses
      stepsResult second (tools.responses.drop first.length)) := by
  rw [stepsResult, failure?_append, stepsResult]
  cases failure? first tools.responses with
  | none => rfl
  | some found => rfl

theorem perform_take_succ (tools : Toolchain) (count : Nat) :
    perform (tools.responses.take (count + 1)) = (do
      Run.placeAll tools.next.writes
      perform ((tools.responses.drop 1).take count)) := by
  rw [Toolchain.next]
  cases tools.responses with
  | nil =>
      rw [List.take_nil, List.drop_nil, List.take_nil]
      rfl
  | cons response later => rfl

theorem of_checkTools_eq_ok {needed : List (String × Option String)} {result : Except Abort Unit}
    {world after : World} (hlog : world.LogsNoFile)
    (h : (checkTools needed).run.run world = .ok result after) :
    result = match missingTool? world.tools needed with
      | some (tool, hint) => .error (.toolMissing tool hint)
      | none => .ok () := by
  induction needed generalizing world with
  | nil =>
      cases h
      rfl
  | cons entry rest ih =>
      obtain ⟨tool, hint⟩ := entry
      obtain ⟨found, looked, hlooked, h⟩ := of_lift_bind_eq_ok h
      obtain ⟨hlater, -, htools⟩ := (Run.rests_hasTool tool).ofOk hlooked hlog
      have hfound : found = !world.tools.missing.contains tool := by
        cases hlooked
        rfl
      rw [missingTool?, List.find?_cons, ← missingTool?]
      cases hmissing : world.tools.missing.contains tool with
      | true =>
          rw [hfound, hmissing] at h
          cases h
          rfl
      | false =>
          rw [hfound, hmissing] at h
          rw [← htools]
          exact ih hlater h

/-- Steps run until the first one that fails. -/
theorem of_runSteps_eq_ok {directory : Path} {steps : List Step} {result : Except Abort Unit}
    {world after : World} (hlog : world.LogsNoFile)
    (h : (runSteps directory steps).run.run world = .ok result after) :
    result = stepsResult steps world.tools.responses ∧
      (result = .ok () →
        World.Reaches (perform (world.tools.responses.take steps.length)) steps.length world after) := by
  induction steps generalizing world with
  | nil =>
      cases h
      exact ⟨rfl, fun _ => World.reaches_of_rests (Std.Refl.refl _)⟩
  | cons step rest ih =>
      obtain ⟨_, printed, hprinted, hcommand⟩ := of_lift_bind_eq_ok h
      obtain ⟨code, ran, hran, hrest⟩ := of_lift_bind_eq_ok hcommand
      have hquiet := (Run.rests_print _).ofOk hprinted
      obtain ⟨hlater, -, htools⟩ := hquiet hlog
      obtain ⟨rfl, hreaches⟩ := Run.of_command_eq_ok hran
      obtain ⟨hlast, -, -, hresponses⟩ := hreaches hlater
      rw [htools] at hrest hreaches hresponses
      by_cases hcode : world.tools.next.code = 0
      · simp only [if_pos hcode] at hrest
        obtain ⟨hresult, hsteps⟩ := ih hlast hrest
        rw [hresponses] at hresult hsteps
        rw [stepsResult, failure?_cons_of_eq_zero hcode, ← stepsResult, List.length_cons, perform_take_succ]
        refine ⟨hresult, fun hok => World.reaches_of_rests_left hquiet ?_⟩
        rw [Nat.add_comm]
        exact hreaches.trans (hsteps hok)
      · simp only [if_neg hcode] at hrest
        cases hrest
        rw [stepsResult, failure?_cons_of_ne_zero hcode]
        exact ⟨rfl, fun hok => nomatch hok⟩

theorem of_clearReport_eq_ok {path : Path} {world after : World}
    (h : (clearReport path).run world = .ok () after) : World.Reaches (renew path) 0 world after := by
  obtain ⟨found, looked, hlooked, hrest⟩ := of_bind_eq_ok h
  obtain ⟨disk, hexists, rfl⟩ := Run.of_files_eq_ok hlooked
  intro hlog
  rw [renew, EStateM.run_bind, hexists]
  cases found with
  | false =>
      obtain ⟨later, hwork, rfl⟩ := Run.of_files_eq_ok hrest
      exact ⟨hlog, hwork, rfl, rfl⟩
  | true =>
      obtain ⟨_, logged, hlogged, hrest⟩ := of_bind_eq_ok hrest
      obtain ⟨_, removed, hremoved, hroom⟩ := of_bind_eq_ok hrest
      have hfiles := (Run.reaches_of_files_eq_ok hremoved).trans (Run.reaches_of_files_eq_ok hroom)
      exact World.reaches_of_rests_left ((Run.rests_log _ _ _).ofOk hlogged) hfiles hlog

/-- The first half of a pipeline: the tools are looked up and the project is built. -/
def prepare (gate : Gate) : Attempt Unit := do
  checkTools (Pipeline.requiredTools gate.steps)
  (Run.enter .buildAndTest : Run Unit)
  gate.runStage .build
  (Run.enter .generateReport : Run Unit)

/-- The second half of a pipeline: the stale report is removed and the new one is written. -/
def produce (gate : Gate) : Attempt Unit := do
  (clearReport gate.settings.paths.report : Run Unit)
  gate.runStage .report

theorem runPipeline_eq (gate : Gate) : gate.runPipeline = gate.prepare >>= fun _ => gate.produce := by
  simp only [runPipeline, prepare, produce, bind_assoc]

theorem of_prepare_eq_ok {gate : Gate} {result : Except Abort Unit} {world after : World}
    (hlog : world.LogsNoFile) (h : gate.prepare.run.run world = .ok result after) :
    result = (match missingTool? world.tools (Pipeline.requiredTools gate.steps) with
      | some (tool, hint) => .error (.toolMissing tool hint)
      | none => stepsResult (gate.stageSteps .build) world.tools.responses) ∧
    (result = .ok () →
      World.Reaches (perform (world.tools.responses.take (gate.stageSteps .build).length))
        (gate.stageSteps .build).length world after) := by
  rcases of_attempt_bind_eq_ok h with ⟨abort, hchecked, rfl⟩ | ⟨_, checked, hchecked, hentered⟩
  · have hresult := of_checkTools_eq_ok hlog hchecked
    split at hresult <;> cases hresult
    exact ⟨rfl, fun hok => nomatch hok⟩
  have hresult := of_checkTools_eq_ok hlog hchecked
  split at hresult <;> cases hresult
  obtain ⟨_, building, hbuilding, hbuild⟩ := of_lift_bind_eq_ok hentered
  have hready : World.Rests world building := calc
    World.Rests world checked := (told_checkTools (fun _ _ hlog => ⟨hlog, rfl, rfl⟩) _).ofOk hchecked
    World.Rests _ building := (Run.rests_enter _).ofOk hbuilding
  obtain ⟨hlogBuild, -, htools⟩ := hready hlog
  rw [← htools]
  rcases of_attempt_bind_eq_ok hbuild with ⟨abort, hbuilt, rfl⟩ | ⟨_, built, hbuilt, hgenerate⟩
  · exact ⟨(of_runSteps_eq_ok hlogBuild hbuilt).1, fun hok => nomatch hok⟩
  obtain ⟨hsteps, hreaches⟩ := of_runSteps_eq_ok hlogBuild hbuilt
  obtain ⟨_, hgenerating, rfl⟩ := of_lift_eq_ok hgenerate
  refine ⟨hsteps, fun _ => World.reaches_of_rests_left hready ?_⟩
  exact World.reaches_of_rests_right (hreaches rfl) ((Run.rests_enter _).ofOk hgenerating)

theorem of_produce_eq_ok {gate : Gate} {result : Except Abort Unit} {world after : World}
    (hlog : world.LogsNoFile) (h : gate.produce.run.run world = .ok result after) :
    result = stepsResult (gate.stageSteps .report) world.tools.responses ∧
      (result = .ok () →
        World.Reaches (do
          renew gate.settings.paths.report
          perform (world.tools.responses.take (gate.stageSteps .report).length))
          (gate.stageSteps .report).length world after) := by
  obtain ⟨_, cleared, hcleared, hreport⟩ := of_lift_bind_eq_ok h
  have hroom := of_clearReport_eq_ok hcleared
  obtain ⟨hlogReport, -, -, hresponses⟩ := hroom hlog
  obtain ⟨hsteps, hreaches⟩ := of_runSteps_eq_ok hlogReport hreport
  rw [hresponses] at hsteps hreaches
  refine ⟨hsteps, fun hok => ?_⟩
  have hall := hroom.trans (hreaches hok)
  rwa [Nat.zero_add] at hall

/-- The pipeline is broken off by the first missing tool, or else by the first failing step; if by none, it
has done its work on the files. -/
theorem of_runPipeline_eq_ok {gate : Gate} {result : Except Abort Unit} {world after : World}
    (hlog : world.LogsNoFile) (h : gate.runPipeline.run.run world = .ok result after) :
    result = gate.pipelineResult world.tools ∧
      (result = .ok () →
        World.Reaches (gate.pipelineWork world.tools.responses) gate.plan.length world after) := by
  rw [runPipeline_eq] at h
  rw [pipelineResult, plan, stepsResult_append, List.length_append]
  rcases of_attempt_bind_eq_ok h with ⟨abort, hprepared, rfl⟩ | ⟨_, prepared, hprepared, hproduced⟩
  · obtain ⟨hresult, -⟩ := of_prepare_eq_ok hlog hprepared
    refine ⟨?_, fun hok => nomatch hok⟩
    split at hresult
    · exact hresult
    · rw [← hresult]
      rfl
  · obtain ⟨hresult, hbuilds⟩ := of_prepare_eq_ok hlog hprepared
    have hbuilds := hbuilds rfl
    obtain ⟨hlogReport, -, -, hresponses⟩ := hbuilds hlog
    obtain ⟨hlast, hreports⟩ := of_produce_eq_ok hlogReport hproduced
    rw [hresponses] at hlast hreports
    refine ⟨?_, fun hok => hbuilds.trans (hreports hok)⟩
    split at hresult
    · cases hresult
    · rw [← hresult]
      exact hlast

theorem of_reachReport_eq_ok {gate : Gate} {result : Except Abort Unit} {world after : World}
    (hlog : world.LogsNoFile) (h : gate.reachReport.run.run world = .ok result after) :
    result = gate.wayResult world.tools ∧
      (result = .ok () → after.LogsNoFile ∧ after.disk = gate.atParse world.disk world.tools) := by
  rw [reachReport] at h
  rw [wayResult, atParse]
  split at h
  · rename_i hskip
    rw [if_pos hskip, if_pos hskip]
    have hrests : World.Rests world after := told_passPipeline.ofOk h
    obtain ⟨hlater, hdisk, -⟩ := hrests hlog
    obtain ⟨_, _, -, h⟩ := of_lift_bind_eq_ok h
    obtain ⟨_, -, hresult⟩ := of_lift_eq_ok h
    exact ⟨hresult, fun _ => ⟨hlater, hdisk⟩⟩
  · rename_i hpipeline
    rw [if_neg hpipeline, if_neg hpipeline]
    obtain ⟨hresult, hreaches⟩ := of_runPipeline_eq_ok hlog h
    refine ⟨hresult, fun hok => ?_⟩
    obtain ⟨hlater, hwork, -⟩ := hreaches hok hlog
    exact ⟨hlater, (finish_of_ok hwork).symm⟩

theorem of_fetchReport_eq_ok {path : Path} {asked : String} {result : Except ReportError Report}
    {world after : World} (h : (fetchReport path asked).run world = .ok result after) :
    result = Report.read world.disk path asked := by
  rw [fetchReport, EStateM.run_bind, EStateM.run_get] at h
  simp only at h
  cases hread : Report.read world.disk path asked with
  | ok report =>
      rw [hread] at h
      obtain ⟨_, _, -, hpure⟩ := of_bind_eq_ok h
      cases hpure
      rfl
  | error cause =>
      rw [hread] at h
      cases h
      rfl

theorem of_readReport_eq_ok {path : Path} {result : Except Abort Decimal} {world after : World}
    (h : (readReport path).run.run world = .ok result after) :
    readResult world.disk path = some result := by
  obtain ⟨found, fetched, hfetched, h⟩ := of_lift_bind_eq_ok h
  rw [readResult, ← of_fetchReport_eq_ok hfetched]
  split at h
  · cases h
    rfl
  · cases h
    rfl
  · cases h
    rfl
  all_goals
    obtain ⟨_, hthrown, -⟩ := of_lift_eq_ok h
    cases hthrown

theorem of_readResult_eq_ok {disk : Disk} {path : Path} {ratio : Decimal}
    (h : readResult disk path = some (.ok ratio)) :
    ∃ report, Report.read disk path "" = .ok report ∧ ratio = report.total := by
  rw [readResult] at h
  split at h <;> cases h
  rename_i report hread
  exact ⟨report, hread, rfl⟩

/-- A measurement is broken off on the way to the report, or it reads what lies there. -/
theorem course_of_measure_eq_ok {gate : Gate} {result : Except Abort Decimal} {world after : World}
    (hlog : world.LogsNoFile) (h : gate.measure.run.run world = .ok result after) :
    (∃ abort, gate.reachReport.run.run world = .ok (.error abort) after ∧ result = .error abort) ∨
      ∃ reached, gate.reachReport.run.run world = .ok (.ok ()) reached ∧ after.LogsNoFile ∧
        readResult reached.disk gate.settings.paths.report = some result := by
  rcases of_attempt_bind_eq_ok h with ⟨abort, hreached, rfl⟩ | ⟨_, reached, hreached, hread⟩
  · exact .inl ⟨abort, hreached, rfl⟩
  · obtain ⟨hlogReached, -⟩ := (of_reachReport_eq_ok hlog hreached).2 rfl
    obtain ⟨_, parsing, hparsing, hread⟩ := of_lift_bind_eq_ok hread
    obtain ⟨_, printed, hprinted, hread⟩ := of_lift_bind_eq_ok hread
    have hquiet : World.Rests reached printed := calc
      World.Rests reached parsing := (Run.rests_enter _).ofOk hparsing
      World.Rests _ printed := (Run.rests_print _).ofOk hprinted
    obtain ⟨hlogPrinted, hsame, -⟩ := hquiet hlogReached
    rw [← of_readReport_eq_ok hread, hsame]
    have hlast : World.Rests printed after := (told_readReport _).ofOk hread
    exact .inr ⟨reached, hreached, (hlast hlogPrinted).1, rfl⟩

/-- A run measures what is in the report once the way to it is gone. -/
theorem of_measure_eq_ok {gate : Gate} {result : Except Abort Decimal} {world after : World}
    (hlog : world.LogsNoFile) (h : gate.measure.run.run world = .ok result after) :
    match gate.wayResult world.tools with
    | .error abort => result = .error abort
    | .ok _ => after.LogsNoFile ∧
      readResult (gate.atParse world.disk world.tools) gate.settings.paths.report = some result := by
  rcases course_of_measure_eq_ok hlog h with ⟨abort, hreached, rfl⟩ | ⟨reached, hreached, hlater, hread⟩
  · obtain ⟨hresult, -⟩ := of_reachReport_eq_ok hlog hreached
    rw [← hresult]
  · obtain ⟨hresult, hdisk⟩ := of_reachReport_eq_ok hlog hreached
    rw [← hresult, ← (hdisk rfl).2]
    exact ⟨hlater, hread⟩

end Gate

end Gatekeeper
