import Gatekeeper.Gate
import Gatekeeper.Proofs.Work

/-! The parts of a run that only look and tell. They keep every relation between worlds that overlooks records, printed
lines and stations. One of these is that, as long as no line of the log goes into a file, the disk and the tools are
left as they are. All of this holds whether the parts succeed or fail. -/

namespace Gatekeeper

open Work

/-- The record of the first station. -/
def Record.opening : Record :=
  ⟨.debug, .gate, "Gate state -> start"⟩

theorem Record.ne_opening {level : Level} {source : Source} (h : level ≠ .debug ∨ source ≠ .gate)
    (message : String) : (⟨level, source, message⟩ : Record) ≠ .opening := by
  rintro ⟨⟩
  exact h.elim (absurd rfl) (absurd rfl)

namespace World

def LogsNoFile (world : World) : Prop :=
  ∀ id, Sink.file id ∉ world.logging.sinks

theorem logsNoFile_fresh (disk : Disk) (tools : Toolchain) : (fresh disk tools).LogsNoFile :=
  fun _ => List.not_mem_nil

theorem foldl_writeLine_eq (line : String) (sinks : List Sink) (world : World) :
    ∃ disk console,
      sinks.foldl (writeLine line) world = { world with disk := disk, console := console } ∧
        ((∀ id, Sink.file id ∉ sinks) → disk = world.disk) := by
  induction sinks generalizing world with
  | nil => exact ⟨world.disk, world.console, rfl, fun _ => rfl⟩
  | cons sink rest ih =>
      obtain ⟨disk, console, heq, hdisk⟩ := ih (writeLine line world sink)
      cases sink with
      | console =>
          refine ⟨disk, console, heq, fun hsinks => hdisk fun id hid => ?_⟩
          exact hsinks id (List.mem_cons_of_mem _ hid)
      | file id =>
          refine ⟨disk, console, heq, fun hsinks => ?_⟩
          exact absurd List.mem_cons_self (hsinks id)

/-- A record is kept, and its line goes into the sinks. -/
theorem record_eq (world : World) (entry : Record) :
    ∃ disk console, world.record entry =
        { world with disk := disk, records := world.records ++ [entry], console := console } ∧
      (world.LogsNoFile → disk = world.disk) := by
  rw [record]
  by_cases hsevere : entry.level.severity < world.logging.threshold
  · exact ⟨world.disk, world.console, if_pos hsevere, fun _ => rfl⟩
  · obtain ⟨disk, console, heq, hdisk⟩ := foldl_writeLine_eq entry.line world.logging.sinks
      { world with records := world.records ++ [entry] }
    exact ⟨disk, console, (if_neg hsevere).trans heq, hdisk⟩

@[simp] theorem record_logging (world : World) (entry : Record) :
    (world.record entry).logging = world.logging := by
  obtain ⟨disk, console, heq, -⟩ := world.record_eq entry
  rw [heq]

@[simp] theorem record_tools (world : World) (entry : Record) :
    (world.record entry).tools = world.tools := by
  obtain ⟨disk, console, heq, -⟩ := world.record_eq entry
  rw [heq]

theorem records_record (world : World) (entry : Record) : (world.record entry).records = world.records ++ [entry] := by
  obtain ⟨disk, console, heq, -⟩ := world.record_eq entry
  rw [heq]

theorem record_disk {world : World} (h : world.LogsNoFile) (entry : Record) :
    (world.record entry).disk = world.disk := by
  obtain ⟨disk, console, heq, hdisk⟩ := world.record_eq entry
  rw [heq]
  exact hdisk h

/-- A relation between worlds that overlooks all records but the one of the first station. -/
class Logged (R : World → World → Prop) : Prop extends Std.Refl R, IsTrans World R where
  record (world : World) {entry : Record} (h : entry ≠ .opening) : R world (world.record entry)

/-- A relation between worlds that overlooks all that a run tells after its first station. -/
class Overlooks (R : World → World → Prop) : Prop extends Logged R where
  print (world : World) (line : String) : R world { world with printed := world.printed ++ [line] }
  reach (world : World) (phase : Phase) : R world { world with phases := world.phases ++ [phase] }

/-- When no line of the log goes into a file, none does later, and the disk and the tools are left alone. -/
def Rests (before after : World) : Prop :=
  before.LogsNoFile → after.LogsNoFile ∧ after.disk = before.disk ∧ after.tools = before.tools

instance : Std.Refl Rests where
  refl _ hlog := ⟨hlog, rfl, rfl⟩

instance : IsTrans World Rests where
  trans _ _ _ hfirst hsecond hlog :=
    have hmiddle := hfirst hlog
    have hlast := hsecond hmiddle.1
    ⟨hlast.1, hlast.2.1.trans hmiddle.2.1, hlast.2.2.trans hmiddle.2.2⟩

theorem rests_record (world : World) (entry : Record) : Rests world (world.record entry) := by
  intro hlog
  rw [LogsNoFile, record_logging, record_tools, record_disk hlog]
  exact ⟨hlog, rfl, rfl⟩

instance : Overlooks Rests where
  record world entry _ := rests_record world entry
  print _ _ hlog := ⟨hlog, rfl, rfl⟩
  reach _ _ hlog := ⟨hlog, rfl, rfl⟩

end World

namespace Run

theorem rests_log (level : Level) (source : Source) (message : String) :
    Keeps World.Rests (log level source message) :=
  Keeps.modify fun world => world.rests_record _

theorem rests_print (line : String) : Keeps World.Rests (print line) :=
  Keeps.modify fun _ hlog => ⟨hlog, rfl, rfl⟩

theorem rests_enter (phase : Phase) : Keeps World.Rests (enter phase) :=
  Keeps.bind (Keeps.modify fun _ hlog => ⟨hlog, rfl, rfl⟩) fun _ => rests_log _ _ _

theorem rests_hasTool (tool : String) : Keeps World.Rests (hasTool tool) :=
  Keeps.bind (Keeps.modify fun _ hlog => ⟨hlog, rfl, rfl⟩) fun _ =>
    Keeps.getBind fun _ => Keeps.pure _ _

variable {R : World → World → Prop}

theorem told_log [World.Logged R] {level : Level} {source : Source} (h : level ≠ .debug ∨ source ≠ .gate)
    (message : String) : Keeps R (log level source message) :=
  Keeps.modify fun world => World.Logged.record world (Record.ne_opening h message)

variable [World.Overlooks R]

theorem told_print (line : String) : Keeps R (print line) :=
  Keeps.modify fun world => World.Overlooks.print world line

theorem told_enter {phase : Phase} (h : phase ≠ .start) : Keeps R (enter phase) := by
  have hlater : (⟨.debug, .gate, "Gate state -> " ++ phase.name⟩ : Record) ≠ .opening := by
    cases phase with
    | start => exact absurd rfl h
    | _ => decide
  refine Keeps.bind (Keeps.modify fun world => World.Overlooks.reach world phase) fun _ => ?_
  exact Keeps.modify fun world => World.Logged.record world hlater

end Run

namespace Gate

variable {R : World → World → Prop}

theorem told_checked [Std.Refl R] {α : Type} (result : Except CheckError α) : Keeps R (checked result) := by
  cases result with
  | ok value => exact Keeps.pure _
  | error cause => exact Keeps.throw _

theorem told_percentText [Std.Refl R] (percent : Int) : Keeps R (percentText percent) := by
  unfold percentText
  cases Number.wholeText? percent with
  | none => exact Keeps.throw _
  | some text => exact Keeps.pure _

theorem told_meetsText [Std.Refl R] [IsTrans World R] (settings : Settings) (percent : Int) :
    Keeps R (meetsText settings percent) := by
  refine Keeps.bind (told_percentText _) fun shown => ?_
  exact Keeps.bind (told_percentText _) fun minimum => Keeps.pure _

theorem told_checkTools [Std.Refl R] [IsTrans World R]
    (hask : ∀ world asked, R world { world with asked := asked }) (tools : List (String × Option String)) :
    Keeps R (checkTools tools).run := by
  induction tools with
  | nil => exact Keeps.pure _
  | cons entry rest ih =>
      obtain ⟨tool, hint⟩ := entry
      have hasked : Keeps R (Run.hasTool tool) :=
        Keeps.bind (Keeps.modify fun world => hask world _) fun _ => Keeps.getBind fun _ => Keeps.pure _ _
      refine Keeps.attemptBind (Keeps.lift hasked) fun found => ?_
      cases found
      · exact Keeps.pure _
      · exact ih

section

variable [World.Logged R]

theorem told_loadBaseline (path : Path) : Keeps R (loadBaseline path) := by
  apply Keeps.getBind
  intro world
  split
  · exact Keeps.pure _ world
  · exact Keeps.bind (Run.told_log (.inl (by decide)) _) (fun _ => Keeps.pure _) world
  · exact Keeps.throw _ world

theorem told_recordReport (report : Report) : Keeps R (recordReport report) :=
  Keeps.bind (Keeps.forM fun _ _ => Run.told_log (.inr (by decide)) _) fun _ => Run.told_log (.inr (by decide)) _

theorem told_fetchReport (path : Path) (asked : String) : Keeps R (fetchReport path asked) := by
  apply Keeps.getBind
  intro world
  cases Report.read world.disk path asked with
  | ok report => exact Keeps.bind (told_recordReport report) (fun _ => Keeps.pure _) world
  | error cause => exact Keeps.bind (Keeps.pure _) (fun _ => Keeps.pure _) world

theorem told_readReport (path : Path) : Keeps R (readReport path).run := by
  refine Keeps.attemptBind (Keeps.lift (told_fetchReport path "")) fun result => ?_
  split
  · exact Keeps.pure _
  · exact Keeps.pure _
  · exact Keeps.pure _
  · exact Keeps.lift (Keeps.throw _)
  · exact Keeps.lift (Keeps.throw _)
  · exact Keeps.lift (Keeps.throw _)

end

variable [World.Overlooks R]

theorem told_passPipeline : Keeps R passPipeline.run :=
  Keeps.attemptBind (Keeps.lift (Run.told_enter (by decide))) fun _ => Keeps.lift (Run.told_enter (by decide))

theorem told_breakOff (baseline : Option Decimal) (abort : Abort) : Keeps R (breakOff baseline abort) := by
  refine Keeps.bind (Run.told_print _) fun _ => ?_
  refine Keeps.bind (Run.told_log (.inl (by decide)) _) fun _ => ?_
  refine Keeps.bind (Run.told_enter (by decide)) fun _ => ?_
  refine Keeps.bind (Run.told_print _) fun _ => ?_
  exact Keeps.getBind fun _ => Keeps.pure _ _

theorem told_judgeRegression (settings : Settings) (ratio : Decimal) (percent : Int)
    (baseline : Option Decimal) : Keeps R (judgeRegression settings ratio percent baseline) := by
  refine Keeps.bind (Run.told_print _) fun _ => ?_
  refine Keeps.bind (Run.told_enter (by decide)) fun _ => ?_
  refine Keeps.bind (told_checked _) fun check => ?_
  split
  · refine Keeps.bind (Run.told_print _) fun _ => ?_
    exact Keeps.bind (told_meetsText _ _) fun meets => Keeps.pure _
  · refine Keeps.bind (told_percentText _) fun earlier => ?_
    refine Keeps.bind (Run.told_print _) fun _ => ?_
    refine Keeps.bind (Run.told_print _) fun _ => ?_
    split
    · refine Keeps.bind (told_meetsText _ _) fun meets => ?_
      exact Keeps.bind (Run.told_print _) fun _ => Keeps.pure _
    · refine Keeps.bind (told_percentText _) fun shown => ?_
      exact Keeps.bind (Run.told_print _) fun _ => Keeps.pure _

theorem told_judge (settings : Settings) (ratio : Decimal) (percent : Int)
    (baseline : Option Decimal) : Keeps R (judge settings ratio percent baseline) := by
  refine Keeps.bind (told_checked _) fun check => ?_
  split
  · exact told_judgeRegression settings ratio percent baseline
  · refine Keeps.bind (told_percentText _) fun shown => ?_
    refine Keeps.bind (told_percentText _) fun minimum => ?_
    exact Keeps.bind (Run.told_print _) fun _ => Keeps.pure _

theorem told_close (ratio : Decimal) (percent : Int) (baseline : Option Decimal)
    (judgement : Judgement) (updated : Bool) : Keeps R (close ratio percent baseline judgement updated) := by
  refine Keeps.bind (Run.told_enter (by decide)) fun _ => ?_
  refine Keeps.bind (Run.told_print _) fun _ => ?_
  exact Keeps.getBind fun _ => Keeps.pure _ _

end Gate

end Gatekeeper
