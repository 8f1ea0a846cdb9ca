import Gatekeeper.CommandLine
import Gatekeeper.Proofs.Gate.Activity

/-! What becomes of a call. It is refused with a complaint and nothing else, or it shows how the program is called, or
it opens the log and runs the gate once. The exit code tells these apart. -/

namespace Gatekeeper

open Work

namespace World

/-- The world is the same but for the disk and for where the lines of the log go. -/
def OnlyOpens (before after : World) : Prop :=
  after = { before with disk := after.disk, logging := after.logging }

instance : Std.Refl OnlyOpens where
  refl _ := rfl

instance : IsTrans World OnlyOpens where
  trans _ _ _ hfirst hsecond := by
    rw [OnlyOpens] at hfirst hsecond ⊢
    rw [hsecond, hfirst]

/-- The run has not come to its first station once more. -/
def SameOpenings (before after : World) : Prop :=
  after.records.count .opening = before.records.count .opening

instance : Overlooks SameOpenings where
  refl _ := rfl
  trans _ _ _ hfirst hsecond := hsecond.trans hfirst
  record world entry h := by
    rw [SameOpenings, records_record, List.count_append, List.count_singleton, if_neg (by simpa using h), Nat.add_zero]
  print _ _ := rfl
  reach _ _ := rfl

end World

namespace Run

theorem sameOpenings_files {α : Type} (work : Files α) : Keeps World.SameOpenings (files work) := by
  intro world
  rw [finish_files]
  rfl

theorem sameOpenings_command (directory : Path) (argv : List String) :
    Keeps World.SameOpenings (command directory argv) := by
  intro world
  rw [finish_command]
  rfl

end Run

namespace Gate

open World

theorem sameOpenings_proceed (gate : Gate) : Keeps SameOpenings gate.proceed := by
  have hclear : Keeps SameOpenings (clearReport gate.settings.paths.report) :=
    told_clearReport (Run.sameOpenings_files _) (Run.sameOpenings_files _) (Run.sameOpenings_files _)
  have hreach : Keeps SameOpenings gate.reachReport.run :=
    told_reachReport (fun _ _ => rfl) (Run.sameOpenings_command _) hclear
  exact told_proceed (told_measure hreach) fun ratio => told_storeNumeral fun _ => rfl

/-- However a run ends, it has come to its first station once. -/
theorem count_opening_run (gate : Gate) (world : World) :
    (finish gate.run world).records.count .opening = world.records.count .opening + 1 := by
  have hentered : (Run.enter .start).run { world with phases := [] } =
      .ok () (World.record { world with phases := [.start] } .opening) := rfl
  have hlater : SameOpenings (World.record { world with phases := [.start] } .opening) (finish gate.run world) := by
    rw [run_eq, finish_modify_bind, finish_bind_of_ok hentered]
    exact sameOpenings_proceed gate _
  rw [hlater, records_record, List.count_append, List.count_singleton_self]

end Gate

namespace CommandLine

/-- What a call comes to: a complaint, an overview of the options, or a run with some settings. -/
inductive Answer where
  | refusal (complaint : String)
  | help
  | run (options : Options) (settings : Settings)

/-- The answer to some options: the settings that they lead to are refused or are run with. -/
def Answer.ofOptions [Coercions] (env : Environment) (options : Options) : Answer :=
  match Settings.make options.given env with
  | .error cause => .refusal ("covgate: invalid configuration\n" ++ settingsErrorText options.given cause ++ "\n")
  | .ok settings => .run options settings

def answer [Coercions] (env : Environment) (words : List String) : Answer :=
  match Request.ofWords words with
  | .error cause => .refusal (usageErrorText cause)
  | .ok .help => .help
  | .ok (.run options) => .ofOptions env options

def Answer.perform : Answer → Run Nat
  | .refusal complaint => do
    complain complaint
    pure refusedCode
  | .help => do
    helpLines.forM Run.print
    pure 0
  | .run options settings => do
    openLog settings.logLevel options.logFile
    let outcome ← (Gate.ofSettings settings).run
    pure outcome.exitCode

theorem run_forM_print (lines : List String) (world : World) :
    (lines.forM Run.print).run world = .ok () { world with printed := world.printed ++ lines } := by
  induction lines generalizing world with
  | nil => rw [List.append_nil]; rfl
  | cons line rest ih =>
      have hfirst : (Run.print line).run world = .ok () { world with printed := world.printed ++ [line] } := rfl
      change (Run.print line >>= fun _ => rest.forM Run.print).run world = _
      rw [run_bind_of_ok hfirst, ih, List.append_assoc, List.singleton_append]

/-- The help is printed, and nothing else happens. -/
theorem run_perform_help (world : World) :
    Answer.help.perform.run world = .ok 0 { world with printed := world.printed ++ helpLines } :=
  run_bind_of_ok (run_forM_print helpLines world) _

theorem onlyOpens_openLog (level : String) (logFile : Option String) :
    Keeps World.OnlyOpens (openLog level logFile) := by
  have hfiles {α : Type} (work : Files α) : Keeps World.OnlyOpens (Run.files work) := by
    intro world
    rw [Run.finish_files]
    rfl
  unfold openLog
  cases severities.lookup level with
  | none => exact Keeps.throw _
  | some threshold =>
      refine Keeps.bind (Keeps.modify fun _ => rfl) fun _ => ?_
      cases logFile with
      | none => exact Keeps.pure _
      | some name =>
          simp only
          split
          · refine Keeps.bind (hfiles _) fun _ => ?_
            refine Keeps.bind (hfiles _) fun id => ?_
            exact Keeps.modify fun _ => rfl
          · exact Keeps.pure _

/-- An outcome is answered by other codes than a refused call. -/
theorem exitCode_of_outcome (outcome : Outcome) :
    (outcome.exitCode = 0 ∨ outcome.exitCode = 1) ∧ (outcome.exitCode = 0 ↔ outcome.verdict = .pass) := by
  unfold Outcome.exitCode Verdict.passed
  cases outcome.verdict <;> decide

section

variable [Coercions] {env : Environment} {words : List String}

theorem runOptions_eq_perform (env : Environment) (options : Options) :
    runOptions env options = (Answer.ofOptions env options).perform := by
  unfold runOptions Answer.ofOptions
  cases Settings.make options.given env with
  | error cause => rfl
  | ok settings => rfl

theorem call_eq_perform (env : Environment) (words : List String) : call env words = (answer env words).perform := by
  unfold call answer
  cases Request.ofWords words with
  | error cause => rfl
  | ok request =>
      cases request with
      | help => rfl
      | run options => exact runOptions_eq_perform env options

theorem of_answer_eq_run {options : Options} {settings : Settings} (h : answer env words = .run options settings) :
    Request.ofWords words = .ok (.run options) ∧ Settings.make options.given env = .ok settings := by
  unfold answer at h
  split at h
  · cases h
  · cases h
  · rename_i given hwords
    unfold Answer.ofOptions at h
    split at h
    · cases h
    · rename_i made hmade
      cases h
      exact ⟨hwords, hmade⟩

theorem of_answer_eq_help (h : answer env words = .help) : Request.ofWords words = .ok .help := by
  unfold answer at h
  split at h
  · cases h
  · assumption
  · unfold Answer.ofOptions at h
    split at h <;> cases h

/-- A call has run the gate once: with the settings of its words and of the environment, in a world in which nothing
has happened since but that the log was opened. -/
structure RanOnce (env : Environment) (words : List String) (world after : World) (outcome : Outcome)
    (options : Options) (settings : Settings) (opened : World) : Prop where
  words_eq : Request.ofWords words = .ok (.run options)
  settings_eq : Settings.make options.given env = .ok settings
  opened_eq : (openLog settings.logLevel options.logFile).run world = .ok () opened
  onlyOpens : World.OnlyOpens world opened
  run_eq : (Gate.ofSettings settings).run.run opened = .ok outcome after
  openings : after.records.count .opening = world.records.count .opening + 1

/-- What a call has done that came to a code, by its answer. -/
theorem of_call_eq_ok {world after : World} {code : Nat} (h : (call env words).run world = .ok code after) :
    (∃ complaint, answer env words = .refusal complaint ∧ code = refusedCode ∧
      after = { world with console := world.console ++ complaint }) ∨
    (answer env words = .help ∧ code = 0 ∧ after = { world with printed := world.printed ++ helpLines }) ∨
    ∃ outcome options settings opened, answer env words = .run options settings ∧
      RanOnce env words world after outcome options settings opened ∧ code = outcome.exitCode := by
  rw [call_eq_perform] at h
  cases hanswer : answer env words with
  | refusal complaint =>
      rw [hanswer] at h
      cases h
      exact .inl ⟨complaint, rfl, rfl, rfl⟩
  | help =>
      rw [hanswer, run_perform_help] at h
      cases h
      exact .inr (.inl ⟨rfl, rfl, rfl⟩)
  | run options settings =>
      obtain ⟨hwords, hsettings⟩ := of_answer_eq_run hanswer
      rw [hanswer] at h
      obtain ⟨_, opened, hopened, h⟩ := of_bind_eq_ok h
      obtain ⟨outcome, ended, hrun, h⟩ := of_bind_eq_ok h
      have honly : World.OnlyOpens world opened := (onlyOpens_openLog _ _).ofOk hopened
      have hopenings := (Gate.ofSettings settings).count_opening_run opened
      rw [finish_of_ok hrun, show opened.records = world.records by rw [honly]] at hopenings
      cases h
      exact .inr (.inr ⟨outcome, options, settings, opened, rfl,
        ⟨hwords, hsettings, hopened, honly, hrun, hopenings⟩, rfl⟩)

/-- The code of a refused call says that nothing has happened but the complaint: the files and directories, the log,
what is printed, the tools looked up and the commands are as they were. The codes zero and one say that the gate was
run once with the settings of the call, unless only an overview of the options was asked for, and zero says that its
verdict is a pass. There is no other code. -/
theorem call_effect {world after : World} {code : Nat} (h : (call env words).run world = .ok code after) :
    (code = refusedCode ↔ ∃ complaint, answer env words = .refusal complaint ∧
      after = { world with console := world.console ++ complaint }) ∧
    (code = 0 ∨ code = 1 →
      (Request.ofWords words = .ok .help ∧ code = 0 ∧ after = { world with printed := world.printed ++ helpLines }) ∨
      ∃ outcome options settings opened, RanOnce env words world after outcome options settings opened ∧
        (code = 0 ↔ outcome.verdict = .pass)) ∧
    (code = 0 ∨ code = 1 ∨ code = refusedCode) := by
  rcases of_call_eq_ok h with ⟨complaint, hanswer, rfl, hafter⟩ | ⟨hanswer, rfl, hafter⟩ |
    ⟨outcome, options, settings, opened, hanswer, hran, rfl⟩
  · refine ⟨⟨fun _ => ⟨complaint, hanswer, hafter⟩, fun _ => rfl⟩, fun hcode => ?_, .inr (.inr rfl)⟩
    exact absurd hcode (by decide)
  · have hnone : ∀ complaint, answer env words ≠ .refusal complaint := by simp [hanswer]
    have hhelp := of_answer_eq_help hanswer
    refine ⟨⟨fun hcode => absurd hcode (by decide), fun hrefusal => ?_⟩, fun _ => .inl ⟨hhelp, rfl, hafter⟩, .inl rfl⟩
    exact absurd hrefusal.choose_spec.1 (hnone _)
  · have hnone : ∀ complaint, answer env words ≠ .refusal complaint := by simp [hanswer]
    obtain ⟨hcode, hpass⟩ := exitCode_of_outcome outcome
    refine ⟨⟨fun hrefused => ?_, fun hrefusal => absurd hrefusal.choose_spec.1 (hnone _)⟩,
      fun _ => .inr ⟨outcome, options, settings, opened, hran, hpass⟩, ?_⟩
    · rw [hrefused] at hcode
      exact absurd hcode (by decide)
    · exact hcode.elim .inl fun hone => .inr (.inl hone)

theorem answer_of_make {options : Options} {settings : Settings} (hwords : Request.ofWords words = .ok (.run options))
    (hsettings : Settings.make options.given env = .ok settings) : answer env words = .run options settings := by
  have hoptions : Answer.ofOptions env options = .run options settings := by
    unfold Answer.ofOptions
    rw [hsettings]
  unfold answer
  rw [hwords]
  exact hoptions

end

/-- A minimum beyond all percentages is refused. Without any words the gate is run with the settings' own values, and
breaks off when no tool is at hand. -/
theorem call_effect_of_minimum :
    let world := World.fresh (Disk.empty ["home"]) ⟨["cargo"], []⟩
    (∃ complaint, (call [] ["--minimum=150", "--log-file", "gate.log"]).run world =
      .ok refusedCode { world with console := world.console ++ complaint }) ∧
    ∃ after outcome options settings opened, (call [] []).run world = .ok 1 after ∧
      RanOnce [] [] world after outcome options settings opened ∧ outcome.verdict ≠ .pass := by
  intro world
  let settings : Settings := ⟨20, .finite false 5629499534213120 (-49) (by decide), .tarpaulin, ".", "coverage", none,
    none, 300, .always, false, "INFO"⟩
  let opened : World := { world with logging := ⟨20, [.console]⟩ }
  have hrefused : ∃ after, (call [] ["--minimum=150", "--log-file", "gate.log"]).run world = .ok refusedCode after :=
    ⟨_, rfl⟩
  have hsettings : Settings.make [] [] = .ok settings := by
    have hmade : (Settings.make [] []).toOption = some settings := by decide +kernel
    cases hmake : Settings.make [] [] with
    | ok made => simpa [hmake, Except.toOption] using hmade
    | error cause => simp [hmake, Except.toOption] at hmade
  have hran : ∃ after, (call [] []).run world = .ok 1 after := by
    have hload : Baseline.load opened.disk settings.paths.baseline = .ok none := by
      subst opened settings world
      cbv
    have hmissing : Gate.missingTool? opened.tools (Pipeline.requiredTools (Gate.ofSettings settings).steps) =
        some ("cargo", some "https://rustup.rs") := by decide +kernel
    have hlog : opened.LogsNoFile := fun id => by
      show Sink.file id ∉ [.console]
      simp
    obtain ⟨ready, hsilent, -, hrun⟩ := @Gate.exists_run_of_load (Gate.ofSettings settings) opened hlog
      fun cause hcause => by cases hload.symm.trans hcause
    rw [← hsilent.tools] at hmissing
    rw [Gate.run_of_missingTool? rfl hmissing] at hrun
    have hopened : (openLog settings.logLevel none).run world = .ok () opened := rfl
    rw [call_eq_perform, answer_of_make rfl hsettings]
    exact ⟨_, (run_bind_of_ok hopened _).trans (run_bind_of_ok hrun _)⟩
  obtain ⟨after, hafter⟩ := hrefused
  obtain ⟨complaint, -, rfl⟩ := (call_effect hafter).1.mp rfl
  obtain ⟨ended, hended⟩ := hran
  refine ⟨⟨complaint, hafter⟩, ?_⟩
  rcases (call_effect hended).2.1 (.inr rfl) with ⟨-, hcode, -⟩ | ⟨outcome, options, settings, opened, honce, hpass⟩
  · exact absurd hcode (by decide)
  · refine ⟨ended, outcome, options, settings, opened, hended, honce, fun hverdict => ?_⟩
    exact absurd (hpass.mpr hverdict) (by decide)

end CommandLine

end Gatekeeper
