import Gatekeeper.Proofs.Baseline.Twin
import Gatekeeper.Proofs.Files.Tree
import Gatekeeper.Proofs.Gate.Pipeline
import Gatekeeper.Proofs.Gate.Telling

/-! A pipeline from two worlds whose disks differ at the report only. Commands that do not look at the report do the
same in both worlds; then the report is removed, and from there on the disks are the same. -/

namespace Gatekeeper

open Work Files Disk

namespace Disk

/-- Two disks that are the same, or that differ at one location only and have no directory there. -/
def AlikeBut (home place : Location) (one other : Disk) : Prop :=
  Alike home {place} one other ∨ Alike home ∅ one other

end Disk

/-- Whether a command does the same whatever file there is at a location, if any: it comes to the same end, and then
the disks differ at that location only if they still do. -/
def Response.Ignores (home place : Location) (response : Response) : Prop :=
  Relates (Alike home {place}) (AlikeBut home place) (fun _ => AlikeBut home place) (Run.placeAll response.writes)

/-- Whether no command of a script looks at what is at a location. -/
def Toolchain.Ignores (home place : Location) (tools : Toolchain) : Prop :=
  ∀ response ∈ tools.responses, response.Ignores home place

namespace World

/-- Two worlds in which the same was seen of a run, with the same tools at hand and related disks. -/
structure Twin (D : Toolchain → Disk → Disk → Prop) (one other : World) : Prop
    extends Same (D one.tools) one other where
  tools : one.tools = other.tools
  printed : one.printed = other.printed
  asked : one.asked = other.asked
  commands : one.commands = other.commands

variable {D D' : Toolchain → Disk → Disk → Prop} {one one' other other' : World}

theorem Twin.withDisk {disk disk' : Disk} (h : Twin D one other) (hdisk : D' one.tools disk disk') :
    Twin D' { one with disk := disk } { other with disk := disk' } :=
  ⟨⟨h.logsNoFile, h.logsNoFile', hdisk, h.phases⟩, h.tools, h.printed, h.asked, h.commands⟩

theorem Twin.mono (h : Twin D one other) (hD : D one.tools one.disk other.disk → D' one.tools one.disk other.disk) :
    Twin D' one other :=
  h.withDisk (hD h.disk)

@[simp] theorem record_printed (world : World) (entry : Record) : (world.record entry).printed = world.printed := by
  obtain ⟨disk, console, heq, -⟩ := world.record_eq entry
  rw [heq]

@[simp] theorem record_asked (world : World) (entry : Record) : (world.record entry).asked = world.asked := by
  obtain ⟨disk, console, heq, -⟩ := world.record_eq entry
  rw [heq]

@[simp] theorem record_commands (world : World) (entry : Record) :
    (world.record entry).commands = world.commands := by
  obtain ⟨disk, console, heq, -⟩ := world.record_eq entry
  rw [heq]

instance (D : Toolchain → Disk → Disk → Prop) : Tells (Twin D) where
  print line h := ⟨Tells.print line h.toSame, h.tools, congrArg (· ++ _) h.printed, h.asked, h.commands⟩
  record entry h := by
    refine ⟨?_, by simpa using h.tools, by simpa using h.printed, by simpa using h.asked, by simpa using h.commands⟩
    rw [record_tools]
    exact Tells.record entry h.toSame
  enter phase h := ⟨Tells.enter phase h.toSame, h.tools, h.printed, h.asked, h.commands⟩
  phases h := h.phases

/-- What is recorded and done to the disk is not seen otherwise. -/
theorem twin_record {world : World} {disk : Disk} (hlog : world.LogsNoFile) (entry : Record)
    (hdisk : D world.tools world.disk disk) : Twin D world { world.record entry with disk := disk } :=
  ⟨⟨hlog, logsNoFile_record hlog entry, hdisk, (record_phases world entry).symm⟩, (record_tools world entry).symm,
    (record_printed world entry).symm, (record_asked world entry).symm, (record_commands world entry).symm⟩

/-- Worlds to which twins have come while nothing was seen are twins again. -/
theorem Twin.square {B : Toolchain → Disk → Disk → Prop} (h : Twin D one other) (hone : Twin B one one')
    (hother : Twin B other other')
    (hD : ∀ tools, D tools one.disk other.disk → B tools one.disk one'.disk → B tools other.disk other'.disk →
      D' tools one'.disk other'.disk) : Twin D' one' other' where
  logsNoFile := hone.logsNoFile'
  logsNoFile' := hother.logsNoFile'
  disk := hone.tools ▸ hD one.tools h.disk hone.disk (h.tools ▸ hother.disk)
  phases := hone.phases.symm.trans (h.phases.trans hother.phases)
  tools := hone.tools.symm.trans (h.tools.trans hother.tools)
  printed := hone.printed.symm.trans (h.printed.trans hother.printed)
  asked := hone.asked.symm.trans (h.asked.trans hother.asked)
  commands := hone.commands.symm.trans (h.commands.trans hother.commands)

end World

/-- How two worlds are related while a location may still hold different files: their disks differ there only. -/
abbrev World.Parted (home place : Location) : World → World → Prop :=
  World.Twin fun _ => AlikeBut home place

/-- How two worlds are related once nothing differs any more: their disks are the same. -/
abbrev World.Rejoined (home : Location) : World → World → Prop :=
  World.Twin fun _ => Alike home ∅

theorem World.parted_of_rejoined {home place : Location} (one other : World) (h : World.Rejoined home one other) :
    World.Parted home place one other :=
  h.mono .inr

variable {α : Type} {D E : Toolchain → Disk → Disk → Prop} {home place : Location} {path : Path}

namespace Run

/-- Work on files is done in two worlds as on their disks. -/
theorem relates_files {T : α → Toolchain → Disk → Disk → Prop} {work : Files α}
    (h : ∀ tools, Relates (D tools) (E tools) (fun value => T value tools) work) :
    Relates (World.Twin D) (World.Twin E) (fun value => World.Twin (T value)) (files work) := by
  refine Relates.getBind fun one other hstart => ?_
  have hwork := h one.tools _ _ hstart.disk
  generalize work.run one.disk = first, work.run other.disk = second at hwork ⊢
  cases hwork with
  | ok hdisk => exact .ok (hstart.withDisk hdisk)
  | error hdisk => exact .error (hstart.withDisk hdisk)

theorem respects_files {R : Disk → Disk → Prop} {work : Files α} (h : Respects R work) :
    Respects (World.Twin fun _ => R) (files work) :=
  relates_files fun _ => h

theorem respects_hasTool (tool : String) : Respects (World.Twin D) (hasTool tool) := by
  have hask : Respects (World.Twin D)
      (modify fun world => { world with asked := world.asked ++ [tool] } : Run Unit) :=
    Respects.modify fun one other h =>
      ⟨⟨h.logsNoFile, h.logsNoFile', h.disk, h.phases⟩, h.tools, h.printed, congrArg (· ++ _) h.asked, h.commands⟩
  refine Respects.bind hask fun _ => Relates.getBind fun one other h => ?_
  rw [h.tools]
  exact .ok h

/-- A command is run in two worlds as it is on their disks. -/
theorem respects_command
    (h : ∀ tools response later, tools.responses = response :: later →
      Relates (D tools) (D { tools with responses := later }) (fun _ => D { tools with responses := later })
        (placeAll response.writes)) (directory : Path) (argv : List String) :
    Respects (World.Twin D) (command directory argv) := by
  have hnote : Respects (World.Twin D)
      (modify fun world => { world with commands := world.commands ++ [⟨directory, argv⟩] } : Run Unit) :=
    Respects.modify fun one other h =>
      ⟨⟨h.logsNoFile, h.logsNoFile', h.disk, h.phases⟩, h.tools, h.printed, h.asked, congrArg (· ++ _) h.commands⟩
  refine Respects.bind hnote fun _ => Relates.getBind fun one other hstart => ?_
  rw [← hstart.tools]
  cases hresponses : one.tools.responses with
  | nil => exact .ok hstart
  | cons response later =>
      -- The script has lost its first item when the files are written, so the relation has to remember the whole one.
      have hplaced : Relates
          (World.Twin fun tools before after =>
            tools = { one.tools with responses := later } ∧ D one.tools before after)
          (World.Twin D) (fun _ => World.Twin D) (files (placeAll response.writes)) :=
        relates_files fun tools before after ⟨hrest, hdisk⟩ =>
          hrest ▸ h one.tools response later hresponses before after hdisk
      refine Relates.bind hplaced (fun _ => Respects.pure response.code) _ _ ?_
      have htools := congrArg (fun tools : Toolchain => { tools with responses := later }) hstart.tools
      exact ⟨⟨hstart.logsNoFile, hstart.logsNoFile', ⟨rfl, hstart.disk⟩, hstart.phases⟩, htools,
        hstart.printed, hstart.asked, hstart.commands⟩

end Run

namespace Response

theorem respects_alikeEverywhere (response : Response) : Respects (Alike home ∅) (Run.placeAll response.writes) :=
  Run.respects_placeAll fun write _ => write.2.isFirm_empty home _

/-- A command that ignores a location keeps what is the same but for it. -/
theorem Ignores.respects {response : Response} (h : response.Ignores home place) :
    Respects (AlikeBut home place) (Run.placeAll response.writes) := by
  rintro one other (hbut | heverywhere)
  · exact h one other hbut
  · exact (response.respects_alikeEverywhere one other heverywhere).mono (fun _ _ => .inr) fun _ _ _ => .inr

/-- A command ignores a location if it puts nothing below it, and no directory there. -/
theorem ignores_of_isFirm {response : Response}
    (h : ∀ write ∈ response.writes, write.2.IsFirm home {place} (Path.ofText write.1)) :
    response.Ignores home place :=
  (Run.respects_placeAll h).mono (fun _ _ => id) (fun _ _ => .inl) fun _ _ _ => .inl

end Response

namespace Gate

/-- What holds of two disks while a script is run that ignores a location: they differ there only, and what is left of
the script ignores it too. -/
def Before (home place : Location) (tools : Toolchain) (one other : Disk) : Prop :=
  AlikeBut home place one other ∧ tools.Ignores home place

theorem relates_placeAll_before (tools : Toolchain) {response : Response} {later : List Response}
    (hresponses : tools.responses = response :: later) :
    Relates (Before home place tools) (Before home place { tools with responses := later })
      (fun _ => Before home place { tools with responses := later }) (Run.placeAll response.writes) := by
  rintro one other ⟨hdisk, hignores⟩
  have hlater : Toolchain.Ignores home place { tools with responses := later } :=
    fun other hother => hignores other (hresponses ▸ List.mem_cons_of_mem response hother)
  have hfirst : response.Ignores home place := hignores response (hresponses ▸ List.mem_cons_self)
  exact (hfirst.respects one other hdisk).mono (fun _ _ hend => ⟨hend, hlater⟩) fun _ _ _ hend => ⟨hend, hlater⟩

theorem respects_command_before (directory : Path) (argv : List String) :
    Respects (World.Twin (Before home place)) (Run.command directory argv) :=
  Run.respects_command (fun tools _ _ => relates_placeAll_before tools) directory argv

theorem respects_checkTools (needed : List (String × Option String)) :
    Respects (World.Twin D) (checkTools needed).run := by
  induction needed with
  | nil => exact Respects.pure _
  | cons entry rest ih =>
      refine Respects.attemptBind (Respects.lift (Run.respects_hasTool _)) fun found => ?_
      cases found
      · exact Respects.pure _
      · exact ih

theorem respects_runSteps (hcommand : ∀ directory argv, Respects (World.Twin D) (Run.command directory argv))
    (directory : Path) (steps : List Step) : Respects (World.Twin D) (runSteps directory steps).run := by
  induction steps with
  | nil => exact Respects.pure _
  | cons step rest ih =>
      refine Respects.attemptBind (Respects.lift (Run.respects_print _)) fun _ => ?_
      refine Respects.attemptBind (Respects.lift (hcommand _ _)) fun code => ?_
      by_cases hcode : code = 0
      · simp only [if_pos hcode]
        exact ih
      · simp only [if_neg hcode]
        exact Respects.pure _

theorem respects_prepare (hcommand : ∀ directory argv, Respects (World.Twin D) (Run.command directory argv))
    (gate : Gate) : Respects (World.Twin D) gate.prepare.run := by
  refine Respects.attemptBind (respects_checkTools _) fun _ => ?_
  refine Respects.attemptBind (Respects.lift (Run.respects_enter _)) fun _ => ?_
  refine Respects.attemptBind ?_ fun _ => Respects.lift (Run.respects_enter _)
  exact respects_runSteps hcommand _ _

/-- The removal of a report, if there is one, is seen in no other way than that it is gone. -/
theorem exists_run_clearReport {world : World} (hlog : world.LogsNoFile) (hlocate : locate world.disk path = .ok place)
    (hplace : world.disk.node? place ≠ some .directory) :
    ∃ cleared, World.Twin (fun _ before after => after = discarded before place) world cleared ∧
      (clearReport path).run world = (Run.files (ensureDirectory path.parent)).run cleared := by
  have hlooked : (Run.files (pathExists path)).run world = .ok (world.disk.node? place).isSome world :=
    Run.run_files_of_ok (by rw [run_pathExists, Files.lookup, hlocate])
  rw [clearReport, run_bind_of_ok hlooked]
  rcases hnode : world.disk.node? place with _ | _ | ⟨id, executable, bytes⟩
  · refine ⟨world, ?_, rfl⟩
    have hsame : world.disk = discarded world.disk place := by rw [discarded, hnode]
    exact ⟨⟨hlog, hlog, hsame, rfl⟩, rfl, rfl, rfl, rfl⟩
  · exact absurd hnode hplace
  · let noted := world.record ⟨.debug, .gate, "Removing stale report " ++ path.text⟩
    have hnoted : noted.disk = world.disk := World.record_disk hlog _
    have hremoved : (Run.files (remove path)).run noted = .ok () { noted with disk := noted.disk.erase place } :=
      Run.run_files_of_ok (by rw [run_remove, hnoted, hlocate]; simp only [hnode])
    refine ⟨{ noted with disk := noted.disk.erase place }, ?_, ?_⟩
    · refine World.twin_record hlog _ ?_
      rw [hnoted, discarded, hnode]
    · have hlogged : (Run.log .debug .gate ("Removing stale report " ++ path.text)).run world = .ok () noted := rfl
      simp only [Option.isSome_some, if_true]
      rw [run_bind_of_ok hlogged, run_bind_of_ok hremoved]

/-- Where work on files that are alike respects a relation of twins, the removal of a report does so too, if neither
the report nor the way to it is at a loose location. -/
theorem respects_clearReport {loose : Set Location}
    (hfiles : ∀ {α : Type} {work : Files α}, Respects (Alike home loose) work → Respects (World.Twin D) (Run.files work))
    (hroom : IsFirm home loose path.parent) (hplace : nominal home path ∉ loose) :
    Respects (World.Twin D) (clearReport path) := by
  have hmade : Respects (World.Twin D) (Run.files (ensureDirectory path.parent)) :=
    hfiles (respects_ensureDirectory hroom)
  refine Respects.bind (hfiles (respects_pathExists hplace)) fun found => ?_
  cases found
  · exact hmade
  · refine Respects.bind (Run.respects_log _ _ _) fun _ => ?_
    exact Respects.bind (hfiles (respects_remove ⟨wayIsFirm_of_parent hroom, hplace⟩)) fun _ => hmade

/-- After the removal of the stale report the disks are the same, if its path sees what stands at its location. -/
theorem relates_clearReport (path : Path) :
    Relates
      (World.Twin fun _ one other => AlikeBut home (nominal home path) one other ∧ Sees one path ∧ Sees other path)
      (World.Parted home (nominal home path)) (fun _ => World.Rejoined home) (clearReport path) := by
  intro one other h
  obtain ⟨hdisk, hsees, hsees'⟩ := h.disk
  have hparts {work : Run Unit} (hwork : Respects (World.Rejoined home) work) :
      Relates (World.Rejoined home) (World.Parted home (nominal home path)) (fun _ => World.Rejoined home) work :=
    hwork.mono (fun _ _ => id) World.parted_of_rejoined fun _ _ _ => id
  have hsame (hdisks : Alike home ∅ one.disk other.disk) :=
    hparts (respects_clearReport Run.respects_files (isFirm_empty home path.parent)
      (Set.notMem_empty (nominal home path))) one other (h.mono fun _ => hdisks)
  rcases hdisk with hbut | heverywhere
  · rw [Sees, hbut.home_eq] at hsees
    rw [Sees, hbut.home_eq'] at hsees'
    -- a path that leads to its location does so on both disks, so the two ways of seeing it cannot mix
    have hlocated : (one.disk.node? (nominal home path) = none ∧ other.disk.node? (nominal home path) = none) ∨
        locate one.disk path = .ok (nominal home path) ∧ locate other.disk path = .ok (nominal home path) := by
      have hiff : locate one.disk path = .ok (nominal home path) ↔ locate other.disk path = .ok (nominal home path) :=
        locate_eq_ok_iff_of_alike hbut
      tauto
    rcases hlocated with ⟨hnone, hnone'⟩ | ⟨hlocate, hlocate'⟩
    · refine hsame (hbut.everywhere fun place hplace => ?_)
      rw [Set.mem_singleton_iff.mp hplace, seen?, seen?, hnone, hnone']
    · have hone := hbut.loose_ne _ (Set.mem_singleton _)
      have hother := hbut.loose_ne' _ (Set.mem_singleton _)
      obtain ⟨cleared, hcleared, hrun⟩ := exists_run_clearReport h.logsNoFile hlocate hone
      obtain ⟨cleared', hcleared', hrun'⟩ := exists_run_clearReport h.logsNoFile' hlocate' hother
      have hdisks : Alike home ∅ (discarded one.disk (nominal home path))
          (discarded other.disk (nominal home path)) := by
        refine (alike_discarded hbut).everywhere fun place hplace => ?_
        rw [Set.mem_singleton_iff.mp hplace, seen?, seen?, (discarded_of_ne hone).2.1, (discarded_of_ne hother).2.1]
      have htwin : World.Rejoined home cleared cleared' :=
        h.square hcleared hcleared' fun _ _ hfirst hsecond => by rw [hfirst, hsecond]; exact hdisks
      rw [hrun, hrun']
      exact hparts (Run.respects_files (respects_ensureDirectory (isFirm_empty home _))) cleared cleared' htwin
  · exact hsame heverywhere

end Gate

end Gatekeeper
