import Gatekeeper.Proofs.Gate.Pipeline

/-! What is seen of a run from outside, without the log and the files: the lines that are printed, the tools that are
looked up, the commands and the stations. Work that only looks at files, changes them or tells the log shows nothing
of this kind. -/

namespace Gatekeeper

open Work

namespace World

/-- A relation between worlds that says nothing of the disk and of the log. -/
class Outward (R : World → World → Prop) : Prop extends Std.Refl R, IsTrans World R where
  hidden (world : World) (disk : Disk) (records : List Record) (console : String) :
    R world { world with disk := disk, records := records, console := console }

instance (R : World → World → Prop) [Outward R] : Logged R where
  record world entry _ := by
    obtain ⟨disk, console, heq, -⟩ := world.record_eq entry
    rw [heq]
    exact Outward.hidden world disk _ console

def SameTools (before after : World) : Prop :=
  after.tools = before.tools

def SamePhases (before after : World) : Prop :=
  after.phases = before.phases

/-- Nothing was printed, no tool was looked up and no command was run. -/
structure Silent (before after : World) : Prop where
  tools : after.tools = before.tools
  printed : after.printed = before.printed
  asked : after.asked = before.asked
  commands : after.commands = before.commands

/-- No tool was looked up and no command was run; lines may have been printed. -/
structure Idle (before after : World) : Prop where
  asked : after.asked = before.asked
  commands : after.commands = before.commands
  printed : before.printed <+: after.printed

instance : Outward SameTools where
  refl _ := rfl
  trans _ _ _ hfirst hsecond := hsecond.trans hfirst
  hidden _ _ _ _ := rfl

instance : Outward SamePhases where
  refl _ := rfl
  trans _ _ _ hfirst hsecond := hsecond.trans hfirst
  hidden _ _ _ _ := rfl

instance : Outward Silent where
  refl _ := ⟨rfl, rfl, rfl, rfl⟩
  trans _ _ _ hfirst hsecond :=
    ⟨hsecond.tools.trans hfirst.tools, hsecond.printed.trans hfirst.printed, hsecond.asked.trans hfirst.asked,
      hsecond.commands.trans hfirst.commands⟩
  hidden _ _ _ _ := ⟨rfl, rfl, rfl, rfl⟩

instance : Outward Idle where
  refl _ := ⟨rfl, rfl, List.prefix_rfl⟩
  trans _ _ _ hfirst hsecond :=
    ⟨hsecond.asked.trans hfirst.asked, hsecond.commands.trans hfirst.commands,
      hfirst.printed.trans hsecond.printed⟩
  hidden _ _ _ _ := ⟨rfl, rfl, List.prefix_rfl⟩

instance : Overlooks Idle where
  print _ _ := ⟨rfl, rfl, List.prefix_append _ _⟩
  reach _ _ := ⟨rfl, rfl, List.prefix_rfl⟩

end World

variable {R : World → World → Prop} [World.Outward R]

namespace Run

theorem outward_log (level : Level) (source : Source) (message : String) : Keeps R (log level source message) := by
  refine Keeps.modify fun world => ?_
  obtain ⟨disk, console, heq, -⟩ := world.record_eq ⟨level, source, message⟩
  rw [heq]
  exact World.Outward.hidden world disk _ console

theorem outward_files {α : Type} (work : Files α) : Keeps R (files work) := by
  intro world
  rw [files, finish_get_bind]
  cases work.run world.disk with
  | ok value disk => exact World.Outward.hidden world disk world.records world.console
  | error cause disk => exact World.Outward.hidden world disk world.records world.console

/-- Coming to a station is seen in the list of stations only. -/
theorem outward_enter (h : ∀ world phases, R world { world with phases := phases }) (phase : Phase) :
    Keeps R (enter phase) :=
  Keeps.bind (Keeps.modify fun world => h world _) fun _ => outward_log _ _ _

theorem phases_of_enter_eq_ok {phase : Phase} {world after : World}
    (h : (enter phase).run world = .ok () after) : after.phases = world.phases ++ [phase] := by
  obtain ⟨_, noted, hnoted, h⟩ := of_bind_eq_ok h
  have hsame : World.SamePhases noted after := (outward_log _ _ _).ofOk h
  cases hnoted
  exact hsame

end Run

namespace Gate

theorem outward_clearReport (path : Path) : Keeps R (clearReport path) :=
  told_clearReport (Run.outward_files _) (Run.outward_files _) (Run.outward_files _)

theorem outward_storeNumeral (path : Path) (value : Numeral) : Keeps R (storeNumeral path value) :=
  told_storeNumeral fun world => World.Outward.hidden world _ world.records world.console

/-- Once the report is reached a run only tells what it finds. -/
theorem idle_settle (gate : Gate) (baseline : Option Decimal) (measured : Except Abort Decimal) :
    Keeps World.Idle (gate.settle baseline measured) :=
  told_settle (fun _ => outward_storeNumeral _ _) baseline measured

end Gate

end Gatekeeper
