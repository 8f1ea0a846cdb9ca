import Gatekeeper.Proofs.Baseline.Store
import Gatekeeper.Proofs.Gate.Pass

/-! What a run of a gate does at one location of the disk. Up to the storing of the ratio it changes what
stands there only as its commands do, and when the stale report is removed. The storing changes the
location that the path of the stored ratio names, and that only when it succeeds. -/

namespace Gatekeeper

open Work Files

/-- Whether the commands of a script change a location only as is allowed. -/
def Toolchain.Permits (R : Option Node → Option Node → Prop) (home place : Location)
    (tools : Toolchain) : Prop :=
  ∀ response ∈ tools.responses, ∀ write ∈ response.writes,
    write.2.Permits R (nominal home (Path.ofText write.1)) place

/-- When the log and the commands of a script leave a location to the allowed changes, they go on to do
so, and what stands there has changed only as is allowed. -/
def World.Drifts (R : Option Node → Option Node → Prop) (home place : Location)
    (before after : World) : Prop :=
  before.LogsNoFile → before.tools.Permits R home place →
    after.LogsNoFile ∧ after.tools.Permits R home place ∧
      Disk.Drifts R home place before.disk after.disk

variable {R : Option Node → Option Node → Prop} [Disk.Allowance R] {home place : Location}

instance : Std.Refl (World.Drifts R home place) where
  refl _ hlog htools := ⟨hlog, htools, Std.Refl.refl _⟩

instance : IsTrans World (World.Drifts R home place) where
  trans _ _ _ hfirst hsecond hlog htools :=
    have hmiddle := hfirst hlog htools
    have hlast := hsecond hmiddle.1 hmiddle.2.1
    ⟨hlast.1, hlast.2.1, IsTrans.trans _ _ _ hmiddle.2.2 hlast.2.2⟩

namespace World

omit [Disk.Allowance R] in
theorem drifts_withDisk {world : World} {disk : Disk} (h : Disk.Drifts R home place world.disk disk) :
    Drifts R home place world { world with disk := disk } :=
  fun hlog htools => ⟨hlog, htools, h⟩

theorem drifts_of_rests {before after : World} (h : Rests before after) :
    Drifts R home place before after := by
  intro hlog htools
  obtain ⟨hlater, hdisk, hsame⟩ := h hlog
  rw [hdisk, hsame]
  exact ⟨hlater, htools, Std.Refl.refl _⟩

instance : Overlooks (Drifts R home place) where
  record world entry _ := drifts_of_rests (world.rests_record entry)
  print world line := drifts_of_rests (Overlooks.print world line)
  reach world phase := drifts_of_rests (Overlooks.reach world phase)

end World

namespace Run

theorem keeps_enter (phase : Phase) : Keeps (World.Drifts R home place) (enter phase) :=
  fun world => World.drifts_of_rests (rests_enter phase world)

omit [Disk.Allowance R] in
theorem keeps_files {α : Type} {work : Files α} (h : Keeps (Disk.Drifts R home place) work) :
    Keeps (World.Drifts R home place) (files work) := by
  apply Keeps.getBind
  intro world hlog htools
  cases hrun : work.run world.disk with
  | ok value disk => exact ⟨hlog, htools, h.ofOk hrun⟩
  | error cause disk => exact ⟨hlog, htools, h.ofError hrun⟩

/-- A command changes a location only as the next item of the script does. -/
theorem keeps_command (directory : Path) (argv : List String) :
    Keeps (World.Drifts R home place) (command directory argv) := by
  refine Keeps.bind (Keeps.modify fun _ hlog htools => ⟨hlog, htools, Std.Refl.refl _⟩) fun _ => ?_
  apply Keeps.getBind
  intro world hlog htools
  split
  · exact ⟨hlog, htools, Std.Refl.refl _⟩
  · rename_i response later hresponses
    have hfirst : ∀ write ∈ response.writes,
        write.2.Permits R (nominal home (Path.ofText write.1)) place :=
      htools response (hresponses ▸ List.mem_cons_self)
    have hlater : Toolchain.Permits R home place { world.tools with responses := later } :=
      fun other hother => htools other (hresponses ▸ List.mem_cons_of_mem response hother)
    have hwrites : Keeps (World.Drifts R home place) (do
        files (placeAll response.writes)
        pure response.code) :=
      Keeps.bind (keeps_files (keeps_placeAll fun write hwrite => (hfirst write hwrite).fits)) fun _ => Keeps.pure _
    exact hwrites { world with tools := { world.tools with responses := later } } hlog hlater

end Run

namespace Gate

/-- The removal of a stale report is aimed at the location that its path names. -/
theorem keeps_clearReport {path : Path} (h : place ≠ nominal home path ∨ Disk.AllowsRemoval R) :
    Keeps (World.Drifts R home place) (clearReport path) :=
  told_clearReport (Run.keeps_files (keeps_pathExists path)) (Run.keeps_files (keeps_remove h))
    (Run.keeps_files (keeps_ensureDirectory _))

/-- On the way to the report only the commands and the removal of the stale report change files. -/
theorem keeps_reachReport {gate : Gate}
    (h : place ≠ nominal home gate.settings.paths.report ∨ Disk.AllowsRemoval R) :
    Keeps (World.Drifts R home place) gate.reachReport.run :=
  told_reachReport (fun _ _ hlog htools => ⟨hlog, htools, Std.Refl.refl _⟩) (Run.keeps_command _) (keeps_clearReport h)

theorem keeps_measure {gate : Gate}
    (h : place ≠ nominal home gate.settings.paths.report ∨ Disk.AllowsRemoval R) :
    Keeps (World.Drifts R home place) gate.measure.run :=
  told_measure (keeps_reachReport h)

theorem keeps_storeNumeral {path : Path} (value : Numeral) (h : place ≠ nominal home path) :
    Keeps (World.Drifts R home place) (storeNumeral path value) :=
  told_storeNumeral fun world => World.drifts_withDisk (Baseline.drifts_save h world.disk)

/-- A numeral that is not stored leaves every location alone. -/
theorem keepsOnFailure_storeNumeral (path : Path) (value : Numeral) :
    KeepsOnFailure (World.Drifts R home place) (storeNumeral path value) := by
  intro world after fault h
  rw [run_storeNumeral] at h
  split at h
  · cases h
  · rename_i hsave
    cases h
    exact World.drifts_withDisk (Baseline.drifts_of_save_eq_error hsave)
  · rename_i hsave
    cases h
    exact World.drifts_withDisk (Baseline.drifts_of_save_eq_error hsave)

/-- What holds of the world once a ratio was stored and while nothing else is done to its file. -/
def Stored (path : Path) (ratio : Decimal) (world : World) : Prop :=
  ratio.inUnit = true ∧ world.LogsNoFile ∧ Baseline.Holds world.disk path ratio

omit [Disk.Allowance R] in
theorem of_storeNumeral_eq_ok {path : Path} {ratio : Decimal} {world after : World}
    (hlog : world.LogsNoFile) (h : (storeNumeral path (.finite ratio)).run world = .ok () after) :
    after.disk.home = world.disk.home ∧ Stored path ratio after := by
  rw [run_storeNumeral] at h
  split at h
  · rename_i stored disk hsave
    obtain ⟨hunit, hhome, hholds⟩ := Baseline.of_save_eq_ok hsave
    obtain ⟨hin, rfl⟩ : ratio.inUnit = true ∧ ratio = stored := by
      simpa [Numeral.inUnit?] using hunit
    have hlater : World.LogsNoFile { world with disk := disk } := hlog
    cases h
    rw [Stored, World.LogsNoFile, World.record_logging, World.record_disk hlater]
    exact ⟨hhome, hin, hlog, hholds⟩
  · cases h
  · cases h

theorem keepsOnFailure_updateBaseline (settings : Settings) (verdict : Verdict) (ratio : Decimal)
    (baseline : Option Decimal) :
    KeepsOnFailure (World.Drifts R home place) (updateBaseline settings verdict ratio baseline) := by
  unfold updateBaseline
  split
  · apply KeepsOnFailure.bindOfNeverFails (keepsOnFailure_storeNumeral _ _)
    intro _ world after fault h
    cases h
  · apply KeepsOnFailure.ofKeeps
    exact Keeps.bind (Run.told_log (.inl (by decide)) _) fun _ => Keeps.pure _

theorem keepsOnFailure_conclude (settings : Settings) (ratio : Decimal) (baseline : Option Decimal) :
    KeepsOnFailure (World.Drifts R home place) (conclude settings ratio baseline) := by
  refine KeepsOnFailure.bind (told_checked _) fun percent => ?_
  refine KeepsOnFailure.bind (told_percentText _) fun shown => ?_
  refine KeepsOnFailure.bind (Run.told_print _) fun _ => ?_
  refine KeepsOnFailure.bind (Run.told_enter (by decide)) fun _ => ?_
  refine KeepsOnFailure.bind (told_judge _ _ _ _) fun judgement => ?_
  refine KeepsOnFailure.bind (Run.told_enter (by decide)) fun _ => ?_
  apply KeepsOnFailure.bindOfNeverFails (keepsOnFailure_updateBaseline _ _ _ _)
  intro updated world after fault h
  cases h

/-- A run leaves alone every location but those of the stored ratio and of the report. -/
theorem keeps_run {gate : Gate} (hbaseline : place ≠ nominal home gate.settings.paths.baseline)
    (hreport : place ≠ nominal home gate.settings.paths.report ∨ Disk.AllowsRemoval R) :
    Keeps (World.Drifts R home place) gate.run :=
  told_run (fun _ hlog htools => ⟨hlog, htools, Std.Refl.refl _⟩) (Run.keeps_enter .start)
    (told_proceed (keeps_measure hreport) fun ratio => keeps_storeNumeral (.finite ratio) hbaseline)

/-- A run without an outcome leaves the stored ratio alone too. -/
theorem keepsOnFailure_run {gate : Gate}
    (h : place ≠ nominal home gate.settings.paths.report ∨ Disk.AllowsRemoval R) :
    KeepsOnFailure (World.Drifts R home place) gate.run := by
  refine KeepsOnFailure.bind (Keeps.modify fun _ hlog htools => ⟨hlog, htools, Std.Refl.refl _⟩) fun _ => ?_
  refine KeepsOnFailure.bind (Run.keeps_enter .start) fun _ => ?_
  refine KeepsOnFailure.bind (told_loadBaseline _) fun baseline => ?_
  refine KeepsOnFailure.bind (keeps_measure h) fun measured => ?_
  cases measured with
  | ok ratio => exact keepsOnFailure_conclude _ ratio baseline
  | error abort => exact KeepsOnFailure.ofKeeps (told_breakOff _ _)

end Gate

end Gatekeeper
