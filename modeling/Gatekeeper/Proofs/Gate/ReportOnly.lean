import Gatekeeper.Proofs.Baseline.Extent
import Gatekeeper.Proofs.Gate.Activity
import Gatekeeper.Proofs.Gate.Ending
import Gatekeeper.Proofs.Gate.History
import Gatekeeper.Proofs.Gate.Telling

/-! Report-only mode. A run takes the report as it lies there: it looks up no tool and runs no command, so that neither
the steps nor the script of the tools make a difference to it. However it ends, the disk has changed in no more than
the stored ratio and the directories on the way to it. -/

namespace Gatekeeper

open Work

namespace World

theorem foldl_writeLine_equip (line : String) (tools : Toolchain) (sinks : List Sink) (world : World) :
    sinks.foldl (writeLine line) (world.equip tools) = (sinks.foldl (writeLine line) world).equip tools := by
  induction sinks generalizing world with
  | nil => rfl
  | cons sink rest ih =>
      have hfirst : writeLine line (world.equip tools) sink = (writeLine line world sink).equip tools := by
        cases sink <;> rfl
      rw [List.foldl_cons, List.foldl_cons, hfirst, ih]

theorem record_equip (world : World) (tools : Toolchain) (entry : Record) :
    (world.equip tools).record entry = (world.record entry).equip tools := by
  have hrecord : ∀ before : World, before.record entry =
      if entry.level.severity < before.logging.threshold then { before with records := before.records ++ [entry] }
      else before.logging.sinks.foldl (writeLine entry.line)
        { before with records := before.records ++ [entry] } := fun _ => rfl
  have hlogging : (world.equip tools).logging = world.logging := rfl
  rw [hrecord, hrecord, hlogging]
  split
  · rfl
  · exact foldl_writeLine_equip entry.line tools world.logging.sinks
      { world with records := world.records ++ [entry] }

/-- Two worlds are the same but for the tools, which are given ones in the second. -/
def SameBut (tools : Toolchain) (one other : World) : Prop :=
  other = one.equip tools

instance (tools : Toolchain) : Tells (SameBut tools) where
  print line h := by
    rw [h]
    rfl
  record entry h := by
    rw [h]
    exact record_equip _ tools entry
  enter phase h := by
    rw [h]
    rfl
  phases h := by
    rw [h]
    rfl

/-- As long as no line of the log goes into a file, none does later, and the disk changes by no more than a storing. -/
def Stores (path : Path) (before after : World) : Prop :=
  before.LogsNoFile → after.LogsNoFile ∧ Disk.OnlyStores path before.disk after.disk

instance (path : Path) : Std.Refl (Stores path) where
  refl _ hlog := ⟨hlog, Std.Refl.refl _⟩

instance (path : Path) : IsTrans World (Stores path) where
  trans _ _ _ hfirst hsecond hlog :=
    have hmiddle := hfirst hlog
    have hlast := hsecond hmiddle.1
    ⟨hlast.1, IsTrans.trans _ _ _ hmiddle.2 hlast.2⟩

theorem Rests.stores {before after : World} (h : Rests before after) (path : Path) :
    Stores path before after := by
  intro hlog
  obtain ⟨hlater, hdisk, -⟩ := h hlog
  rw [hdisk]
  exact ⟨hlater, Std.Refl.refl _⟩

instance (path : Path) : Overlooks (Stores path) where
  record world entry _ := (world.rests_record entry).stores path
  print world line := (Overlooks.print world line : Rests _ _).stores path
  reach world phase := (Overlooks.reach world phase : Rests _ _).stores path

end World

namespace Gate

open World

variable {gate : Gate}

theorem stores_run (hskip : gate.settings.skipPipeline = true) :
    Keeps (World.Stores gate.settings.paths.baseline) gate.run := by
  have hstart : Keeps (World.Stores gate.settings.paths.baseline) (Run.enter .start) :=
    fun world => (Run.rests_enter .start world).stores _
  refine told_run (fun _ hlog => ⟨hlog, Std.Refl.refl _⟩) hstart (told_proceed (told_measure_of_skip hskip) ?_)
  exact fun ratio => told_storeNumeral fun _ hlog => ⟨hlog, Baseline.onlyStores_save _ _ _⟩

theorem idle_run (hskip : gate.settings.skipPipeline = true) : Keeps Idle gate.run := by
  have hstart : Keeps Idle (Run.enter .start) :=
    Run.outward_enter (fun _ _ => ⟨rfl, rfl, List.prefix_rfl⟩) .start
  refine told_run (fun _ => ⟨rfl, rfl, List.prefix_rfl⟩) hstart (told_proceed (told_measure_of_skip hskip) ?_)
  exact fun ratio => outward_storeNumeral _ _

/-- In report-only mode the steps are not looked at. -/
theorem run_of_skip (hskip : gate.settings.skipPipeline = true) (steps : List Step) :
    (Gate.mk gate.settings steps).run = gate.run := by
  have hmeasure : (Gate.mk gate.settings steps).measure = gate.measure := by
    rw [measure_eq, measure_eq, reachReport, reachReport, if_pos hskip, if_pos hskip]
    rfl
  rw [run_eq, run_eq, proceed, proceed, hmeasure]
  rfl

theorem respects_run_sameBut (hskip : gate.settings.skipPipeline = true) (tools : Toolchain) :
    Respects (SameBut tools) gate.run := by
  have hdisk : ∀ one other, SameBut tools one other → other.disk = one.disk := by
    rintro one _ rfl
    rfl
  have hmeasure : Relates (SameBut tools) (SameBut tools)
      (Either (SameBut tools) fun _ one other => SameBut tools one other ∧ True) gate.measure.run :=
    relates_measure_of_skip hskip (fun one other hsame => by rw [hdisk one other hsame]) fun _ _ _ _ _ => trivial
  refine relates_run ?_ ?_ hmeasure (fun _ _ => id) (fun _ _ => id) ?_
  · rintro one _ rfl
    rfl
  · intro one other hsame
    rw [hdisk one other hsame]
  · intro ratio _
    refine relates_storeNumeral (fun one other hsame => ?_) fun one other hsame => ?_
    · rw [hdisk one other hsame]
    · rw [hdisk one other hsame, hsame]
      rfl

/-- In report-only mode neither the steps nor the tools make a difference: the run comes to the same end and leaves the
same world, up to the tools themselves. It looks up no tool and runs no command, and the disk has changed in no more
than the stored ratio and the directories on the way to it; so every other file keeps its content. -/
theorem run_reportOnly (hskip : gate.settings.skipPipeline = true) (world : World) (steps : List Step)
    (tools tools' : Toolchain) :
    (Gate.mk gate.settings steps).run.run (world.equip tools') =
        (match gate.run.run (world.equip tools) with
        | .ok outcome after => .ok outcome (after.equip tools')
        | .error fault after => .error fault (after.equip tools')) ∧
      (finish gate.run world).asked = world.asked ∧ (finish gate.run world).commands = world.commands ∧
      (world.LogsNoFile →
        Disk.OnlyStores gate.settings.paths.baseline world.disk (finish gate.run world).disk ∧
        ∀ place bytes, place ≠ Files.nominal world.disk.home gate.settings.paths.baseline →
          world.disk.bytes? place = some bytes → (finish gate.run world).disk.bytes? place = some bytes) := by
  obtain ⟨hasked, hcommands, -⟩ := idle_run hskip world
  refine ⟨?_, hasked, hcommands, fun hlog => ?_⟩
  · have hsame := respects_run_sameBut hskip tools' (world.equip tools) (world.equip tools') rfl
    rw [run_of_skip hskip]
    generalize gate.run.run (world.equip tools) = first, gate.run.run (world.equip tools') = second at hsame ⊢
    cases hsame with
    | ok h => rw [h]
    | error h => rw [h]
  · obtain ⟨-, hstores⟩ := stores_run hskip world hlog
    exact ⟨hstores, fun place bytes hplace hbytes => hstores.bytes?_eq hplace hbytes⟩

/-- A report and a stored ratio lie below the project; the run leaves the report as it was. -/
theorem run_reportOnly_of_failing_script :
    let gate : Gate :=
      ⟨⟨50, .zero, .tarpaulin, "work", "coverage", none, none, 300, .always, true, "INFO"⟩,
        [⟨"Build", ["cargo", "build"], .build, some "cargo", none⟩]⟩
    let report := Text.encodeUtf8 "<a line-rate='0.5'/>"
    let stored := Text.encodeUtf8 "0.9\n"
    let directories :=
      ((Disk.empty ["home"]).put ["home", "work"] .directory).put ["home", "work", "coverage"] .directory
    let disk := (directories.create ["home", "work", "coverage", "cobertura.xml"] false report).create
      ["home", "work", "coverage", "baseline.txt"] false stored
    let world := World.fresh disk ⟨[], []⟩
    gate.settings.skipPipeline = true ∧
      (Gate.mk gate.settings []).run.run (world.equip ⟨[], []⟩) =
        (match gate.run.run (world.equip ⟨["cargo"], [⟨1, [("r.info", .absent)]⟩]⟩) with
        | .ok outcome after => .ok outcome (after.equip ⟨[], []⟩)
        | .error fault after => .error fault (after.equip ⟨[], []⟩)) ∧
      (finish gate.run world).asked = [] ∧ (finish gate.run world).commands = [] ∧
      Disk.OnlyStores gate.settings.paths.baseline world.disk (finish gate.run world).disk ∧
      (finish gate.run world).disk.bytes? ["home", "work", "coverage", "cobertura.xml"] = some report := by
  intro gate report stored directories disk world
  obtain ⟨hsame, hasked, hcommands, hdisk⟩ :=
    @run_reportOnly gate rfl world [] ⟨["cargo"], [⟨1, [("r.info", .absent)]⟩]⟩ ⟨[], []⟩
  obtain ⟨hstores, hkept⟩ := hdisk (World.logsNoFile_fresh _ _)
  have hplace : Files.nominal world.disk.home gate.settings.paths.baseline =
      ["home", "work", "coverage", "baseline.txt"] := by decide +kernel
  refine ⟨rfl, hsame, hasked, hcommands, hstores, hkept _ report ?_ ?_⟩
  · rw [hplace]
    decide
  · clear_value report stored
    cbv

end Gate

end Gatekeeper
