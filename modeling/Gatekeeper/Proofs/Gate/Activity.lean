import Gatekeeper.Proofs.Files.Written
import Gatekeeper.Proofs.Gate.Outward

/-! What a run does outside the gate, on the way over the pipeline. The tools are looked up until one is missing; if
none is, the steps of the plan are announced and run one after the other, and the first code other than zero ends
them. This holds however the run ends. -/

namespace Gatekeeper

open Work

namespace Toolchain

/-- The exit code of a command, by its number in the script. -/
def code (tools : Toolchain) (index : Nat) : Int :=
  (tools.responses[index]?.map Response.code).getD 0

/-- The script after some commands. -/
def after (tools : Toolchain) (count : Nat) : Toolchain :=
  { tools with responses := tools.responses.drop count }

@[simp] theorem after_after (tools : Toolchain) (first second : Nat) :
    (tools.after first).after second = tools.after (first + second) := by
  simp [after]

@[simp] theorem code_after (tools : Toolchain) (count index : Nat) :
    (tools.after count).code index = tools.code (count + index) := by
  simp [after, code]

theorem next_code (tools : Toolchain) : tools.next.code = tools.code 0 := by
  rw [next, code]
  cases tools.responses <;> rfl

/-- Commands have succeeded when the first ones have, and those after them. -/
theorem code_eq_zero_of_after {tools : Toolchain} {first count : Nat} (distance : Nat)
    (hfirst : ∀ index < first, tools.code index = 0)
    (hlater : ∀ index, index + distance < count → (tools.after first).code index = 0) :
    ∀ index, index + distance < first + count → tools.code index = 0 := by
  intro index hindex
  by_cases hbefore : index < first
  · exact hfirst index hbefore
  · obtain ⟨offset, rfl⟩ := Nat.exists_eq_add_of_le (Nat.not_lt.mp hbefore)
    have hcode := hlater offset (by omega)
    rwa [code_after] at hcode

end Toolchain

namespace Run

/-- A command is noted and takes the next answer of the script, even when the answer cannot be written. -/
theorem finish_command (directory : Path) (argv : List String) (world : World) :
    finish (command directory argv) world =
      { world with
        disk := (finish (command directory argv) world).disk
        tools := world.tools.after 1
        commands := world.commands ++ [Command.mk directory argv] } := by
  rw [command, finish_modify_bind, finish_get_bind]
  cases hresponses : world.tools.responses with
  | nil =>
      have htools : world.tools.after 1 = world.tools := by
        rw [Toolchain.after, hresponses, List.drop_nil, ← hresponses]
      rw [htools]
      rfl
  | cons response later =>
      have htools : world.tools.after 1 = { world.tools with responses := later } := by
        rw [Toolchain.after, hresponses, List.drop_one, List.tail_cons]
      simp only
      rw [htools, finish_modify_bind, finish_bind_pure, finish_files]

end Run

namespace World

/-- The world once a step was announced. -/
def announce (step : Step) (world : World) : World :=
  { world with printed := world.printed ++ ["==> " ++ step.name] }

/-- Steps are performed one after the other: each one is announced, and the next thing seen is its command. -/
inductive Performs (directory : Path) : List Step → World → World → Prop
  | rest {before after : World} (h : Silent before after) : Performs directory [] before after
  | step {step : Step} {steps : List Step} {before ready after : World} (h : Silent before ready)
      (hrest : Performs directory steps (finish (Run.command directory step.argv) (ready.announce step)) after) :
      Performs directory (step :: steps) before after

namespace Performs

variable {directory : Path} {steps : List Step} {before middle after : World}

theorem of_silent_left (h : Silent before middle) (hsteps : Performs directory steps middle after) :
    Performs directory steps before after := by
  cases hsteps with
  | rest hrest => exact rest (IsTrans.trans _ _ _ h hrest)
  | step hready hrest => exact step (IsTrans.trans _ _ _ h hready) hrest

theorem append {later : List Step} (h : Performs directory steps before middle)
    (hlater : Performs directory later middle after) : Performs directory (steps ++ later) before after := by
  induction h with
  | rest hrest => exact of_silent_left hrest hlater
  | step hready _ ih => exact step hready (ih hlater)

theorem tools_eq (h : Performs directory steps before after) :
    after.tools = before.tools.after steps.length := by
  induction h with
  | rest hrest => exact hrest.tools
  | step hready _ ih =>
      rw [ih, Run.finish_command]
      simp [announce, hready.tools, Nat.add_comm]

theorem asked_eq (h : Performs directory steps before after) : after.asked = before.asked := by
  induction h with
  | rest hrest => exact hrest.asked
  | step hready _ ih =>
      rw [ih, Run.finish_command]
      exact hready.asked

theorem commands_eq (h : Performs directory steps before after) :
    after.commands = before.commands ++ steps.map fun step => ⟨directory, step.argv⟩ := by
  induction h with
  | rest hrest => simp [hrest.commands]
  | step hready _ ih =>
      rw [ih, Run.finish_command]
      simp [announce, hready.commands]

end Performs

end World

namespace Gate

open World

/-- A step is the first of some steps that fails, when they get the answers of a script. -/
def FailsAt (steps : List Step) (tools : Toolchain) (index : Nat) (step : Step) : Prop :=
  steps[index]? = some step ∧ tools.code index ≠ 0 ∧ ∀ earlier < index, tools.code earlier = 0

theorem FailsAt.append_left {steps : List Step} {tools : Toolchain} {index : Nat} {step : Step}
    (h : FailsAt steps tools index step) (later : List Step) : FailsAt (steps ++ later) tools index step := by
  obtain ⟨hstep, hcode, hearlier⟩ := h
  refine ⟨?_, hcode, hearlier⟩
  rw [List.getElem?_append_left (List.getElem?_eq_some_iff.mp hstep).1, hstep]

theorem FailsAt.append_right {steps later : List Step} {tools : Toolchain} {index : Nat} {step : Step}
    (hzero : ∀ index < steps.length, tools.code index = 0)
    (h : FailsAt later (tools.after steps.length) index step) :
    FailsAt (steps ++ later) tools (steps.length + index) step := by
  obtain ⟨hstep, hcode, hearlier⟩ := h
  rw [Toolchain.code_after] at hcode
  refine ⟨?_, hcode, Toolchain.code_eq_zero_of_after 0 hzero hearlier⟩
  rw [List.getElem?_append_right (Nat.le_add_right _ _), Nat.add_sub_cancel_left, hstep]

/-- What comes of steps of which so many were performed: all of them have succeeded, or the last one of these is the
first to fail. -/
def EndsAt (steps : List Step) (tools : Toolchain) (count : Nat) : Except Abort Unit → Prop
  | .ok () => count = steps.length ∧ ∀ index < count, tools.code index = 0
  | .error abort => ∃ last step, count = last + 1 ∧ FailsAt steps tools last step ∧
      abort = .stepFailed step.name (tools.code last)

theorem EndsAt.append_of_error {steps later : List Step} {tools : Toolchain} {count : Nat} {abort : Abort}
    (h : EndsAt steps tools count (.error abort)) : EndsAt (steps ++ later) tools count (.error abort) := by
  obtain ⟨last, step, hcount, hfails, habort⟩ := h
  exact ⟨last, step, hcount, hfails.append_left later, habort⟩

theorem EndsAt.append {steps later : List Step} {tools : Toolchain} {count : Nat} {result : Except Abort Unit}
    (hzero : ∀ index < steps.length, tools.code index = 0)
    (h : EndsAt later (tools.after steps.length) count result) :
    EndsAt (steps ++ later) tools (steps.length + count) result := by
  cases result with
  | ok _ =>
      obtain ⟨rfl, hall⟩ := h
      exact ⟨List.length_append.symm, Toolchain.code_eq_zero_of_after 0 hzero hall⟩
  | error abort =>
      obtain ⟨last, step, rfl, hfails, habort⟩ := h
      rw [Toolchain.code_after] at habort
      exact ⟨steps.length + last, step, rfl, hfails.append_right hzero, habort⟩

/-- An attempt performs steps when it performs them up to the first one that fails, whether it ends or an error
escapes from it. -/
def Plays (directory : Path) (steps : List Step) (work : Attempt Unit) : Prop :=
  ∀ world, ∃ count ≤ steps.length,
    Performs directory (steps.take count) world (finish work.run world) ∧
    (∀ index, index + 1 < count → world.tools.code index = 0) ∧
    ∀ result after, work.run.run world = .ok result after → EndsAt steps world.tools count result

namespace Plays

variable {directory : Path} {steps later : List Step}

/-- Work that shows nothing performs no step. -/
theorem ofSilent {work : Run Unit} (h : Keeps Silent work) : Plays directory [] (liftM work : Attempt Unit) := by
  intro world
  refine ⟨0, le_rfl, .rest (h.lift world), fun index hindex => ?_, fun result after hrun => ?_⟩
  · omega
  · obtain ⟨_, -, rfl⟩ := of_lift_eq_ok hrun
    exact ⟨rfl, fun index hindex => absurd hindex (Nat.not_lt_zero index)⟩

/-- Steps that follow others are performed when the others have succeeded. -/
theorem bind {first second : Attempt Unit} (hfirst : Plays directory steps first)
    (hsecond : Plays directory later second) : Plays directory (steps ++ later) (first >>= fun _ => second) := by
  intro world
  obtain ⟨count, hle, hperforms, hcodes, hends⟩ := hfirst world
  have hshort : (steps ++ later).take count = steps.take count := List.take_append_of_le_length hle
  have hlonger : count ≤ (steps ++ later).length := by
    rw [List.length_append]
    omega
  rw [ExceptT.run_bind]
  cases hrun : first.run.run world with
  | error fault middle =>
      refine ⟨count, hlonger, ?_, hcodes, fun result after hresult => ?_⟩
      · rw [finish_bind_of_error hrun, hshort, ← finish_of_error hrun]
        exact hperforms
      · rw [EStateM.run_bind, hrun] at hresult
        cases hresult
  | ok done middle =>
      rw [finish_of_ok hrun] at hperforms
      rw [finish_bind_of_ok hrun, run_bind_of_ok hrun]
      have hdone := hends done middle hrun
      cases done with
      | error abort =>
          refine ⟨count, hlonger, ?_, hcodes, fun result after hresult => ?_⟩
          · rw [hshort]
            exact hperforms
          · cases hresult
            exact hdone.append_of_error
      | ok _ =>
          obtain ⟨rfl, hzero⟩ := hdone
          obtain ⟨more, hmore, hrest, hcodes', hends'⟩ := hsecond middle
          have htools := hperforms.tools_eq
          rw [List.take_length] at hperforms htools
          rw [htools] at hcodes' hends'
          have htake : (steps ++ later).take (steps.length + more) = steps ++ later.take more :=
            List.take_length_add_append more
          refine ⟨steps.length + more, ?_, ?_, ?_, fun result after hresult => ?_⟩
          · rw [List.length_append]
            omega
          · rw [htake]
            exact hperforms.append hrest
          · exact Toolchain.code_eq_zero_of_after 1 hzero hcodes'
          · exact (hends' result after hresult).append hzero

end Plays

/-- One step: it is announced, its command is run, and its code decides whether it goes on. -/
def runStep (directory : Path) (step : Step) : Attempt Unit := do
  (Run.print ("==> " ++ step.name) : Run Unit)
  let code ← (Run.command directory step.argv : Run Int)
  if code = 0 then pure () else throw (.stepFailed step.name code)

theorem runSteps_cons (directory : Path) (step : Step) (rest : List Step) :
    runSteps directory (step :: rest) = (runStep directory step >>= fun _ => runSteps directory rest) := by
  rw [runSteps, runStep]
  simp only [bind_assoc]
  congr! 4 with _ code
  split
  · rw [pure_bind]
  · rfl

/-- What comes of a step is what comes of its command, once the step is announced. -/
theorem run_runStep (directory : Path) (step : Step) (world : World) :
    (runStep directory step).run.run world =
      match (Run.command directory step.argv).run (world.announce step) with
      | .ok code after => .ok (if code = 0 then .ok () else .error (.stepFailed step.name code)) after
      | .error fault after => .error fault after := by
  have hannounced : (Run.print ("==> " ++ step.name)).run world = .ok () (world.announce step) := rfl
  rw [runStep, run_lift_bind_of_ok hannounced]
  cases hcommand : (Run.command directory step.argv).run (world.announce step) with
  | ok code after =>
      rw [run_lift_bind_of_ok hcommand]
      by_cases hcode : code = 0
      · simp only [if_pos hcode]
        rfl
      · simp only [if_neg hcode]
        rfl
  | error fault after => rw [run_lift_bind_of_error hcommand]

theorem finish_runStep (directory : Path) (step : Step) (world : World) :
    finish (runStep directory step).run world =
      finish (Run.command directory step.argv) (world.announce step) := by
  have hrun := run_runStep directory step world
  cases hcommand : (Run.command directory step.argv).run (world.announce step) with
  | ok code after =>
      rw [hcommand] at hrun
      rw [finish_of_ok hrun, finish_of_ok hcommand]
  | error fault after =>
      rw [hcommand] at hrun
      rw [finish_of_error hrun, finish_of_error hcommand]

theorem plays_runStep (directory : Path) (step : Step) : Plays directory [step] (runStep directory step) := by
  intro world
  refine ⟨1, le_rfl, ?_, fun index hindex => ?_, fun result after hresult => ?_⟩
  · rw [finish_runStep]
    exact .step (Std.Refl.refl _) (.rest (Std.Refl.refl _))
  · omega
  · rw [run_runStep] at hresult
    cases hcommand : (Run.command directory step.argv).run (world.announce step) with
    | error fault last =>
        rw [hcommand] at hresult
        cases hresult
    | ok code last =>
        rw [hcommand] at hresult
        cases hresult
        obtain ⟨hcode, -⟩ := Run.of_command_eq_ok hcommand
        have hfirst : code = world.tools.code 0 := hcode.trans world.tools.next_code
        by_cases hzero : code = 0
        · rw [if_pos hzero]
          refine ⟨rfl, fun index hindex => ?_⟩
          rw [Nat.lt_one_iff.mp hindex, ← hfirst, hzero]
        · rw [if_neg hzero]
          rw [hfirst] at hzero ⊢
          exact ⟨0, step, rfl, ⟨rfl, hzero, fun earlier hearlier => absurd hearlier (Nat.not_lt_zero earlier)⟩, rfl⟩

theorem plays_runSteps (directory : Path) (steps : List Step) :
    Plays directory steps (runSteps directory steps) := by
  induction steps with
  | nil => exact Plays.ofSilent (Keeps.pure ())
  | cons step rest ih =>
      rw [runSteps_cons]
      exact (plays_runStep directory step).bind ih

/-- The names of the tools that are looked up: the needed ones, up to the first that is missing. -/
def lookups (tools : Toolchain) (needed : List (String × Option String)) : List String :=
  (needed.take (needed.findIdx (fun entry => tools.missing.contains entry.1) + 1)).map Prod.fst

/-- The world once the tools that some steps need were looked up. -/
def lookUp (needed : List (String × Option String)) (world : World) : World :=
  { world with asked := world.asked ++ lookups world.tools needed }

theorem run_checkTools (needed : List (String × Option String)) (world : World) :
    (checkTools needed).run.run world =
      .ok (match missingTool? world.tools needed with
        | some (tool, hint) => .error (.toolMissing tool hint)
        | none => .ok ()) (lookUp needed world) := by
  induction needed generalizing world with
  | nil =>
      rw [lookUp, lookups, List.take_nil, List.map_nil, List.append_nil]
      rfl
  | cons entry rest ih =>
      obtain ⟨tool, hint⟩ := entry
      have hlooked : (Run.hasTool tool).run world =
          .ok (!world.tools.missing.contains tool) { world with asked := world.asked ++ [tool] } := rfl
      rw [checkTools, run_lift_bind_of_ok hlooked, missingTool?, lookUp, lookups, List.find?_cons,
        List.findIdx_cons]
      cases hmissing : world.tools.missing.contains tool with
      | true => rfl
      | false =>
          simp only [Bool.not_false, if_true, cond_false]
          rw [ih, missingTool?, lookUp, lookups, List.take_succ_cons, List.map_cons, List.append_assoc,
            List.singleton_append]

theorem asked_lookUp_of_silent {needed : List (String × Option String)} {world ready : World}
    (h : Silent world ready) :
    (lookUp needed ready).asked = world.asked ++ lookups world.tools needed := by
  change ready.asked ++ lookups ready.tools needed = _
  rw [h.asked, h.tools]

/-- What is done once no tool is missing: the project is built, the stale report is removed, and the new one is
written. -/
def execute (gate : Gate) : Attempt Unit := do
  (Run.enter .buildAndTest : Run Unit)
  gate.runStage .build
  (Run.enter .generateReport : Run Unit)
  (clearReport gate.settings.paths.report : Run Unit)
  gate.runStage .report

theorem runPipeline_eq_execute (gate : Gate) :
    gate.runPipeline = checkTools (Pipeline.requiredTools gate.steps) >>= fun _ => gate.execute :=
  rfl

/-- The way over the pipeline performs the steps of the plan. -/
theorem plays_execute (gate : Gate) : Plays gate.settings.paths.projectDir gate.plan gate.execute := by
  have hsilent : ∀ phase, Keeps Silent (Run.enter phase) :=
    Run.outward_enter fun _ _ => ⟨rfl, rfl, rfl, rfl⟩
  refine (Plays.ofSilent (hsilent _)).bind ?_
  refine (plays_runSteps _ (gate.stageSteps .build)).bind ?_
  refine (Plays.ofSilent (hsilent _)).bind ?_
  refine (Plays.ofSilent (outward_clearReport _)).bind ?_
  exact plays_runSteps _ (gate.stageSteps .report)

/-- A plan takes no step twice, as no step is of both stages. -/
theorem plan_subperm (gate : Gate) : gate.plan.Subperm gate.steps := by
  have hreports : (gate.stageSteps .report).Sublist
      (gate.steps.filter fun step => !decide (step.stage = .build)) := by
    apply List.monotone_filter_right
    intro step hstep
    rw [decide_eq_true_eq] at hstep
    simp [hstep]
  have hplan := (List.Sublist.refl (gate.stageSteps .build)).append hreports
  exact hplan.subperm.trans (List.filter_append_perm _ _).subperm

theorem exists_started (gate : Gate) (world : World) :
    ∃ started, Silent world started ∧ Rests world started ∧ started.phases = [.start] ∧
      gate.run.run world = gate.proceed.run started := by
  have hreset : (modify fun world => { world with phases := [] } : Run Unit).run world =
      .ok () { world with phases := [] } := rfl
  have hentered : (Run.enter .start).run { world with phases := [] } =
      .ok () (finish (Run.enter .start) { world with phases := [] }) := rfl
  have hsilent : Silent { world with phases := [] } (finish (Run.enter .start) { world with phases := [] }) :=
    Run.outward_enter (fun _ _ => ⟨rfl, rfl, rfl, rfl⟩) .start _
  refine ⟨_, ⟨hsilent.tools, hsilent.printed, hsilent.asked, hsilent.commands⟩, fun hlog => ?_, ?_, ?_⟩
  · exact Run.rests_enter .start { world with phases := [] } hlog
  · exact Run.phases_of_enter_eq_ok hentered
  · rw [run_eq, run_bind_of_ok hreset, run_bind_of_ok hentered]

/-- A run whose stored ratio cannot be looked for ends at once. -/
theorem exists_run_of_load_error {gate : Gate} {world : World} {cause : FileError} (hlog : world.LogsNoFile)
    (h : Baseline.load world.disk gate.settings.paths.baseline = .error (.file cause)) :
    ∃ after, gate.run.run world = .error (.file cause) after ∧ Silent world after ∧ after.disk = world.disk := by
  obtain ⟨started, hsilent, hrests, -, hrun⟩ := exists_started gate world
  obtain ⟨-, hdisk, -⟩ := hrests hlog
  have hload : (loadBaseline gate.settings.paths.baseline).run started = .error (.file cause) started := by
    rw [loadBaseline, EStateM.run_bind, EStateM.run_get]
    simp only
    rw [hdisk, h]
    rfl
  refine ⟨started, ?_, hsilent, hdisk⟩
  rw [hrun, proceed, EStateM.run_bind, hload]

/-- Every other run measures. -/
theorem exists_run_of_load {gate : Gate} {world : World} (hlog : world.LogsNoFile)
    (h : ∀ cause, Baseline.load world.disk gate.settings.paths.baseline ≠ .error (.file cause)) :
    ∃ ready, Silent world ready ∧ Rests world ready ∧
      gate.run.run world =
        (gate.measure.run >>= gate.settle (known world.disk gate.settings.paths.baseline)).run ready := by
  obtain ⟨started, hsilent, hrests, -, hrun⟩ := exists_started gate world
  obtain ⟨-, hdisk, -⟩ := hrests hlog
  cases hloaded : (loadBaseline gate.settings.paths.baseline).run started with
  | ok baseline ready =>
      have hbaseline := of_loadBaseline_eq_ok hloaded
      rw [hdisk] at hbaseline
      refine ⟨ready, IsTrans.trans _ _ _ hsilent ((told_loadBaseline _).ofOk hloaded),
        IsTrans.trans _ _ _ hrests ((told_loadBaseline _).ofOk hloaded), ?_⟩
      rw [hrun, proceed, run_bind_of_ok hloaded, hbaseline]
  | error fault ready =>
      rw [loadBaseline, EStateM.run_bind, EStateM.run_get] at hloaded
      simp only at hloaded
      rw [hdisk] at hloaded
      split at hloaded
      · cases hloaded
      · cases hloaded
      · rename_i cause hload
        exact absurd hload (h cause)

section

variable {gate : Gate} {baseline : Option Decimal} {ready : World}

theorem measure_eq_of_pipeline (hpipeline : gate.settings.skipPipeline = false) :
    gate.measure =
      checkTools (Pipeline.requiredTools gate.steps) >>= fun _ => gate.execute >>= fun _ => gate.parse := by
  rw [measure_eq, reachReport, hpipeline, if_neg Bool.false_ne_true, runPipeline_eq_execute, bind_assoc]

/-- A missing tool breaks a run off once it was looked up. -/
theorem run_of_missingTool? {tool : String} {hint : Option String}
    (hpipeline : gate.settings.skipPipeline = false)
    (hmissing : missingTool? ready.tools (Pipeline.requiredTools gate.steps) = some (tool, hint)) :
    (gate.measure.run >>= gate.settle baseline).run ready =
      (breakOff baseline (.toolMissing tool hint)).run (lookUp (Pipeline.requiredTools gate.steps) ready) := by
  have hchecked := run_checkTools (Pipeline.requiredTools gate.steps) ready
  rw [hmissing] at hchecked
  rw [measure_eq_of_pipeline hpipeline, ExceptT.run_bind, bind_assoc, run_bind_of_ok hchecked]
  rfl

/-- What is left of a run once its plan was executed. -/
def afterwards (gate : Gate) (baseline : Option Decimal) : Except Abort Unit → Run Outcome
  | .ok _ => gate.parse.run >>= gate.settle baseline
  | .error abort => breakOff baseline abort

theorem idle_afterwards (gate : Gate) (baseline : Option Decimal) (result : Except Abort Unit) :
    Keeps Idle (gate.afterwards baseline result) := by
  cases result with
  | ok _ => exact Keeps.bind (told_parse gate) (idle_settle gate baseline)
  | error abort => exact told_breakOff baseline abort

/-- When no tool is missing the plan is executed. -/
theorem run_of_no_missingTool? (hpipeline : gate.settings.skipPipeline = false)
    (hfound : missingTool? ready.tools (Pipeline.requiredTools gate.steps) = none) :
    (gate.measure.run >>= gate.settle baseline).run ready =
      (gate.execute.run >>= gate.afterwards baseline).run (lookUp (Pipeline.requiredTools gate.steps) ready) := by
  have hchecked := run_checkTools (Pipeline.requiredTools gate.steps) ready
  rw [hfound] at hchecked
  have hafterwards : (gate.execute >>= fun _ => gate.parse).run >>= gate.settle baseline =
      gate.execute.run >>= gate.afterwards baseline := by
    rw [ExceptT.run_bind, bind_assoc]
    congr 1
    funext result
    cases result <;> rfl
  rw [measure_eq_of_pipeline hpipeline, ExceptT.run_bind, bind_assoc, run_bind_of_ok hchecked, ← hafterwards]

end

/-- A run has executed the first steps of its plan, as far as the codes of the script let it. -/
structure Executes (gate : Gate) (world after : World) (count : Nat) : Prop where
  le : count ≤ gate.plan.length
  once : (gate.plan.take count).Subperm gate.steps
  performs : ∃ ready done, Silent { world with asked := after.asked } ready ∧
    Performs gate.settings.paths.projectDir (gate.plan.take count) ready done ∧ Idle done after
  commands : after.commands =
    world.commands ++ (gate.plan.take count).map fun step => ⟨gate.settings.paths.projectDir, step.argv⟩
  succeeded : ∀ index, index + 1 < count → world.tools.code index = 0
  built : (gate.stageSteps .build).length < count →
    ∀ index < (gate.stageSteps .build).length, world.tools.code index = 0

section

variable {gate : Gate} {world : World}

theorem seen_of_missingTool (hlog : world.LogsNoFile) (hpipeline : gate.settings.skipPipeline = false)
    (hload : ∀ cause, Baseline.load world.disk gate.settings.paths.baseline ≠ .error (.file cause))
    (hmissing : ∃ entry ∈ Pipeline.requiredTools gate.steps, entry.1 ∈ world.tools.missing) :
    (finish gate.run world).asked =
        world.asked ++ lookups world.tools (Pipeline.requiredTools gate.steps) ∧
      (finish gate.run world).commands = world.commands ∧ (finish gate.run world).disk = world.disk := by
  obtain ⟨ready, hsilent, hrests, hrun⟩ := exists_run_of_load hlog hload
  obtain ⟨hlogReady, hdisk, -⟩ := hrests hlog
  cases hfirst : missingTool? ready.tools (Pipeline.requiredTools gate.steps) with
  | none =>
      rw [hsilent.tools] at hfirst
      exact absurd hmissing (missingTool?_eq_none_iff.mp hfirst)
  | some entry =>
      rw [run_of_missingTool? hpipeline hfirst] at hrun
      have hidle : Keeps Idle (breakOff (known world.disk gate.settings.paths.baseline)
          (.toolMissing entry.1 entry.2)) := told_breakOff _ _
      have hquiet : Keeps Rests (breakOff (known world.disk gate.settings.paths.baseline)
          (.toolMissing entry.1 entry.2)) := told_breakOff _ _
      have hseen := hidle (lookUp (Pipeline.requiredTools gate.steps) ready)
      have hkept := hquiet (lookUp (Pipeline.requiredTools gate.steps) ready) hlogReady
      rw [finish_congr hrun]
      exact ⟨hseen.asked.trans (asked_lookUp_of_silent hsilent), hseen.commands.trans hsilent.commands,
        hkept.2.1.trans hdisk⟩

theorem exists_executes (hlog : world.LogsNoFile) (hpipeline : gate.settings.skipPipeline = false)
    (hload : ∀ cause, Baseline.load world.disk gate.settings.paths.baseline ≠ .error (.file cause))
    (hfound : ¬∃ entry ∈ Pipeline.requiredTools gate.steps, entry.1 ∈ world.tools.missing) :
    (finish gate.run world).asked =
        world.asked ++ lookups world.tools (Pipeline.requiredTools gate.steps) ∧
      ∃ count, Executes gate world (finish gate.run world) count ∧
        ∀ outcome after, gate.run.run world = .ok outcome after →
          count = gate.plan.length ∨ ∃ last, count = last + 1 ∧ world.tools.code last ≠ 0 := by
  obtain ⟨ready, hsilent, hrests, hrun⟩ := exists_run_of_load hlog hload
  have hfirst : missingTool? ready.tools (Pipeline.requiredTools gate.steps) = none := by
    rw [hsilent.tools]
    exact missingTool?_eq_none_iff.mpr hfound
  rw [run_of_no_missingTool? hpipeline hfirst] at hrun
  obtain ⟨count, hle, hperforms, hcodes, hends⟩ := plays_execute gate
    (lookUp (Pipeline.requiredTools gate.steps) ready)
  have hidle : Idle (finish gate.execute.run (lookUp (Pipeline.requiredTools gate.steps) ready))
      (finish (gate.execute.run >>= gate.afterwards (known world.disk gate.settings.paths.baseline))
        (lookUp (Pipeline.requiredTools gate.steps) ready)) :=
    Keeps.follows (idle_afterwards gate _) _
  rw [← finish_congr hrun] at hidle
  have hasked := hidle.asked.trans hperforms.asked_eq
  have htools : (lookUp (Pipeline.requiredTools gate.steps) ready).tools = world.tools := hsilent.tools
  rw [htools] at hcodes hends
  refine ⟨hasked.trans (asked_lookUp_of_silent hsilent), count,
    ⟨hle, ?_, ⟨_, _, ?_, hperforms, hidle⟩, ?_, hcodes, ?_⟩, ?_⟩
  · exact (List.take_sublist count gate.plan).subperm.trans (plan_subperm gate)
  · exact ⟨hsilent.tools, hsilent.printed, hasked.symm, hsilent.commands⟩
  · rw [hidle.commands, hperforms.commands_eq]
    exact congrArg (· ++ _) hsilent.commands
  · exact fun hreports index hindex => hcodes index (by omega)
  · intro outcome after hok
    rw [hrun] at hok
    obtain ⟨result, done, hdone, -⟩ := of_bind_eq_ok hok
    have hended := hends result done hdone
    cases result with
    | ok _ => exact .inl hended.1
    | error abort =>
        obtain ⟨last, _, hcount, ⟨-, hcode, -⟩, -⟩ := hended
        exact .inr ⟨last, hcount, hcode⟩

end

/-- What is seen of a run over the pipeline. When the stored ratio cannot even be looked for, nothing is. Else the
tools are looked up to the first missing one; if one is missing no command is run and no file is changed; if none is,
the plan is executed as far as the codes of the script let it, and to an outcome only up to its end or a failure. -/
theorem run_executes_plan {gate : Gate} {world : World} (hlog : world.LogsNoFile)
    (hpipeline : gate.settings.skipPipeline = false) :
    let after := finish gate.run world
    let needed := Pipeline.requiredTools gate.steps
    ((∃ cause, Baseline.load world.disk gate.settings.paths.baseline = .error (.file cause)) →
      Silent world after ∧ after.disk = world.disk) ∧
    ((¬∃ cause, Baseline.load world.disk gate.settings.paths.baseline = .error (.file cause)) →
      after.asked = world.asked ++ lookups world.tools needed ∧
      ((∃ entry ∈ needed, entry.1 ∈ world.tools.missing) →
        after.commands = world.commands ∧ after.disk = world.disk) ∧
      ((¬∃ entry ∈ needed, entry.1 ∈ world.tools.missing) → ∃ count, Executes gate world after count ∧
        ∀ outcome last, gate.run.run world = .ok outcome last →
          count = gate.plan.length ∨ ∃ final, count = final + 1 ∧ world.tools.code final ≠ 0)) := by
  intro after needed
  constructor
  · rintro ⟨cause, hload⟩
    obtain ⟨ended, hrun, hsilent, hdisk⟩ := exists_run_of_load_error hlog hload
    rw [← finish_of_error hrun] at hsilent hdisk
    exact ⟨hsilent, hdisk⟩
  intro hload
  by_cases hmissing : ∃ entry ∈ needed, entry.1 ∈ world.tools.missing
  · obtain ⟨hasked, hcommands, hdisk⟩ := seen_of_missingTool hlog hpipeline (not_exists.mp hload) hmissing
    exact ⟨hasked, fun _ => ⟨hcommands, hdisk⟩, fun hfound => absurd hmissing hfound⟩
  · obtain ⟨hasked, hexecutes⟩ := exists_executes hlog hpipeline (not_exists.mp hload) hmissing
    exact ⟨hasked, fun hother => absurd hother hmissing, fun _ => hexecutes⟩

set_option maxRecDepth 10000 in
theorem run_executes_plan_of_missing_tool :
    let gate : Gate :=
      ⟨⟨50, .zero, .tarpaulin, "work", "coverage", none, none, 300, .always, false, "INFO"⟩,
        [⟨"Report", ["cargo", "tarpaulin"], .report, some "cargo-tarpaulin", none⟩,
          ⟨"Build", ["cargo", "build"], .build, some "cargo", none⟩, ⟨"Zip", ["zip"], .report, some "zip", none⟩]⟩
    let world := World.fresh (Disk.empty ["home"]) ⟨["cargo"], []⟩
    world.LogsNoFile ∧ gate.settings.skipPipeline = false ∧
      (finish gate.run world).asked = ["cargo-tarpaulin", "cargo"] ∧ (finish gate.run world).commands = [] ∧
      (finish gate.run world).disk = world.disk := by
  intro gate world
  have hload : Baseline.load world.disk gate.settings.paths.baseline = .ok none := by
    subst gate world
    cbv
  have hneeded : Pipeline.requiredTools gate.steps = [("cargo-tarpaulin", none), ("cargo", none), ("zip", none)] := by
    decide +kernel
  have hlog : world.LogsNoFile := World.logsNoFile_fresh _ _
  obtain ⟨hasked, hmissing, -⟩ := (@run_executes_plan gate world hlog rfl).2 (by
    rintro ⟨cause, hcause⟩
    rw [hload] at hcause
    cases hcause)
  obtain ⟨hcommands, hdisk⟩ := hmissing (by
    rw [hneeded]
    exact ⟨("cargo", none), by simp, List.mem_singleton_self _⟩)
  refine ⟨hlog, rfl, ?_, hcommands, hdisk⟩
  rw [hasked, hneeded]
  decide +kernel

def longName : String :=
  String.ofList (List.replicate 300 'b')

theorem isName_longName : Path.IsName longName := by
  have hname : ∀ count, Path.IsName (String.ofList (List.replicate (count + 2) 'b')) := by
    intro count
    simp [Path.IsName, Path.isPart, List.replicate_succ]
  exact hname 298

theorem contains_longName : longName.contains (Char.ofNat 0) = false := by
  have hnul : ∀ count, (String.ofList (List.replicate count 'b')).contains (Char.ofNat 0) = false := by
    intro count
    simp
  exact hnul 300

theorem maxName_lt_longName : Files.maxName < longName.utf8ByteSize := by
  have hsize : ∀ count, (String.ofList (List.replicate count 'b')).utf8ByteSize = count := by
    intro count
    rw [String.utf8ByteSize_ofList]
    induction count with
    | zero => rfl
    | succ count ih =>
        rw [List.replicate_succ, String.utf8Len_cons, ih]
        rfl
  have hlong : longName.utf8ByteSize = 300 := hsize 300
  rw [hlong]
  decide

theorem load_of_longName {disk : Disk} (hhome : disk.node? disk.home = some .directory) :
    Baseline.load disk ⟨.relative, [longName]⟩ = .error (.file .nameTooLong) := by
  rw [Baseline.load, Files.lookup_of_maxName_lt hhome contains_longName maxName_lt_longName]

/-- A name by which the stored ratio is given leads to a file beside the report when the project is where the
program runs. -/
theorem paths_baseline_of_isName {settings : Settings} {name : String} (hproject : settings.projectDir = ".")
    (hbaseline : settings.baselinePath = some name) (hname : Path.IsName name) :
    settings.paths.baseline = ⟨.relative, [name]⟩ := by
  have hempty : name.isEmpty = false := by
    rw [← Bool.not_eq_true, String.isEmpty_iff]
    rintro rfl
    exact absurd hname (by decide)
  rw [Settings.paths, hproject, hbaseline]
  simp only [Settings.placed, hempty, Path.ofText_of_isName hname]
  rfl

/-- A run need not look up any tool, and not because one is missing: the name of the stored ratio may be too long. -/
theorem exists_run_asking_nothing :
    ¬∀ (gate : Gate) (world : World), world.LogsNoFile → gate.settings.skipPipeline = false →
      (finish gate.run world).asked = world.asked ++ lookups world.tools (Pipeline.requiredTools gate.steps) := by
  intro hall
  let gate := Gate.ofSettings ⟨20, .finite false 5629499534213120 (-49) (by decide), .tarpaulin, ".", "coverage", none,
    some longName, 300, .always, false, "INFO"⟩
  let world := World.fresh (Disk.empty ["home"]) ⟨["cargo"], []⟩
  have hlog : world.LogsNoFile := World.logsNoFile_fresh _ _
  have hload : Baseline.load world.disk gate.settings.paths.baseline = .error (.file .nameTooLong) := by
    rw [paths_baseline_of_isName rfl rfl isName_longName]
    exact load_of_longName rfl
  obtain ⟨after, hrun, hsilent, -⟩ := exists_run_of_load_error hlog hload
  have hasked := hall gate world hlog rfl
  have hlookups : lookups world.tools (Pipeline.requiredTools gate.steps) = ["cargo"] := by decide +kernel
  rw [finish_of_error hrun, hsilent.asked, hlookups] at hasked
  cases hasked

end Gate

end Gatekeeper
