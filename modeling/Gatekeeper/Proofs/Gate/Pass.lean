import Gatekeeper.Proofs.Gate.Quiet

/-! A run as a whole. Besides what it tells, a run looks up tools, runs commands, clears the way for the report and
stores a ratio; a relation between worlds that overlooks what is told is kept by the run once it is kept by these. -/

namespace Gatekeeper.Gate

open Work

/-- What a run does once the way to the report is gone: it reads the report. -/
def parse (gate : Gate) : Attempt Decimal := do
  (Run.enter .parse : Run Unit)
  (Run.print "==> Coverage threshold check" : Run Unit)
  readReport gate.settings.paths.report

theorem measure_eq (gate : Gate) : gate.measure = gate.reachReport >>= fun _ => gate.parse :=
  rfl

/-- The end of a run, by what was measured. -/
def settle (gate : Gate) (baseline : Option Decimal) : Except Abort Decimal → Run Outcome
  | .ok ratio => conclude gate.settings ratio baseline
  | .error abort => breakOff baseline abort

/-- A run after its first station: it loads the stored ratio, measures, and settles what was measured. -/
def proceed (gate : Gate) : Run Outcome := do
  let baseline ← loadBaseline gate.settings.paths.baseline
  let measured ← gate.measure.run
  gate.settle baseline measured

theorem run_eq (gate : Gate) :
    gate.run = (do
      modify fun world => { world with phases := [] }
      Run.enter .start
      gate.proceed) :=
  rfl

theorem run_storeNumeral (path : Path) (value : Numeral) (world : World) :
    (storeNumeral path value).run world = match Baseline.save world.disk path value with
      | (.ok stored, disk) =>
        .ok () (World.record { world with disk := disk }
          ⟨.debug, .baseline, "Stored baseline " ++ stored.text ++ " in " ++ path.text⟩)
      | (.error (.outsideUnit value), disk) => .error (.outsideUnit value) { world with disk := disk }
      | (.error (.file cause), disk) => .error (.file cause) { world with disk := disk } := by
  rw [storeNumeral, EStateM.run_bind, EStateM.run_get]
  simp only
  rcases Baseline.save world.disk path value with ⟨⟨⟨_⟩ | ⟨_⟩⟩ | ⟨_⟩, disk⟩ <;> rfl

variable {R : World → World → Prop} {gate : Gate} {settings : Settings}

section

variable [World.Logged R]

theorem told_clearReport {path : Path} (hfind : Keeps R (Run.files (Files.pathExists path)))
    (hremove : Keeps R (Run.files (Files.remove path)))
    (hroom : Keeps R (Run.files (Files.ensureDirectory path.parent))) : Keeps R (clearReport path) := by
  refine Keeps.bind hfind fun found => ?_
  cases found
  · exact hroom
  · have hlater : (⟨.debug, .gate, "Removing stale report " ++ path.text⟩ : Record) ≠ .opening := by
      intro hsame
      have hchars := congrArg (List.head? ∘ String.toList ∘ Record.message) hsame
      simp [Record.opening] at hchars
    refine Keeps.bind (Keeps.modify fun world => World.Logged.record world hlater) fun _ => ?_
    exact Keeps.bind hremove fun _ => hroom

theorem told_storeNumeral {path : Path} {value : Numeral}
    (hsave : ∀ world, R world { world with disk := (Baseline.save world.disk path value).2 }) :
    Keeps R (storeNumeral path value) := by
  intro world
  have hstored := hsave world
  have hrun := run_storeNumeral path value world
  rcases hresult : Baseline.save world.disk path value with ⟨⟨⟨_⟩ | ⟨_⟩⟩ | ⟨_⟩, disk⟩ <;>
    rw [hresult] at hrun hstored
  · rwa [finish_of_error hrun]
  · rwa [finish_of_error hrun]
  · rw [finish_of_ok hrun]
    exact IsTrans.trans _ _ _ hstored (World.Logged.record _ (Record.ne_opening (.inr (by decide)) _))

theorem told_updateBaseline {ratio : Decimal}
    (hstore : Keeps R (storeNumeral settings.paths.baseline (.finite ratio))) (verdict : Verdict)
    (baseline : Option Decimal) : Keeps R (updateBaseline settings verdict ratio baseline) := by
  unfold updateBaseline
  split
  · refine Keeps.bind hstore fun _ => ?_
    exact Keeps.bind (Run.told_log (.inl (by decide)) _) fun _ => Keeps.pure _
  · exact Keeps.bind (Run.told_log (.inl (by decide)) _) fun _ => Keeps.pure _

end

variable [World.Overlooks R]

theorem told_runSteps {directory : Path} (hcommand : ∀ argv, Keeps R (Run.command directory argv))
    (steps : List Step) : Keeps R (runSteps directory steps).run := by
  induction steps with
  | nil => exact Keeps.pure _
  | cons step rest ih =>
      refine Keeps.attemptBind (Keeps.lift (Run.told_print _)) fun _ => ?_
      refine Keeps.attemptBind (Keeps.lift (hcommand _)) fun code => ?_
      by_cases hcode : code = 0
      · simp only [if_pos hcode]
        exact ih
      · simp only [if_neg hcode]
        exact Keeps.pure _

theorem told_reachReport (hask : ∀ world asked, R world { world with asked := asked })
    (hcommand : ∀ argv, Keeps R (Run.command gate.settings.paths.projectDir argv))
    (hclear : Keeps R (clearReport gate.settings.paths.report)) : Keeps R gate.reachReport.run := by
  rw [reachReport]
  split
  · exact told_passPipeline
  · refine Keeps.attemptBind (told_checkTools hask _) fun _ => ?_
    refine Keeps.attemptBind (Keeps.lift (Run.told_enter (by decide))) fun _ => ?_
    refine Keeps.attemptBind (told_runSteps hcommand _) fun _ => ?_
    refine Keeps.attemptBind (Keeps.lift (Run.told_enter (by decide))) fun _ => ?_
    refine Keeps.attemptBind (Keeps.lift hclear) fun _ => ?_
    exact told_runSteps hcommand _

theorem told_parse (gate : Gate) : Keeps R gate.parse.run := by
  refine Keeps.attemptBind (Keeps.lift (Run.told_enter (by decide))) fun _ => ?_
  exact Keeps.attemptBind (Keeps.lift (Run.told_print _)) fun _ => told_readReport _

theorem told_measure (hreach : Keeps R gate.reachReport.run) : Keeps R gate.measure.run :=
  Keeps.attemptBind hreach fun _ => told_parse gate

/-- In report-only mode a run does not work before it has measured. -/
theorem told_measure_of_skip (hskip : gate.settings.skipPipeline = true) : Keeps R gate.measure.run := by
  apply told_measure
  rw [reachReport, if_pos hskip]
  exact told_passPipeline

theorem told_conclude {ratio : Decimal}
    (hstore : Keeps R (storeNumeral settings.paths.baseline (.finite ratio))) (baseline : Option Decimal) :
    Keeps R (conclude settings ratio baseline) := by
  refine Keeps.bind (told_checked _) fun percent => ?_
  refine Keeps.bind (told_percentText _) fun shown => ?_
  refine Keeps.bind (Run.told_print _) fun _ => ?_
  refine Keeps.bind (Run.told_enter (by decide)) fun _ => ?_
  refine Keeps.bind (told_judge _ _ _ _) fun judgement => ?_
  refine Keeps.bind (Run.told_enter (by decide)) fun _ => ?_
  refine Keeps.bind (told_updateBaseline hstore _ _) fun updated => ?_
  exact told_close _ _ _ _ _

theorem told_settle (hstore : ∀ ratio, Keeps R (storeNumeral gate.settings.paths.baseline (.finite ratio)))
    (baseline : Option Decimal) (measured : Except Abort Decimal) : Keeps R (gate.settle baseline measured) := by
  cases measured with
  | ok ratio => exact told_conclude (hstore ratio) baseline
  | error abort => exact told_breakOff baseline abort

theorem told_proceed (hmeasure : Keeps R gate.measure.run)
    (hstore : ∀ ratio, Keeps R (storeNumeral gate.settings.paths.baseline (.finite ratio))) :
    Keeps R gate.proceed := by
  refine Keeps.bind (told_loadBaseline _) fun baseline => ?_
  exact Keeps.bind hmeasure fun measured => told_settle hstore baseline measured

theorem told_run (hreset : ∀ world, R world { world with phases := [] }) (hstart : Keeps R (Run.enter .start))
    (hproceed : Keeps R gate.proceed) : Keeps R gate.run := by
  rw [run_eq]
  refine Keeps.bind (Keeps.modify hreset) fun _ => ?_
  exact Keeps.bind hstart fun _ => hproceed

end Gatekeeper.Gate
