import Gatekeeper.Proofs.Gate.Course

/-! What a run leaves of the stored ratio. It is replaced, as a whole, by the ratio of an outcome that the
policy lets store; in every other case it is left as it was, also when the run ends without an outcome. No
other file is left behind. -/

namespace Gatekeeper

open Work Files Disk Text

namespace Toolchain

variable {tools : Toolchain} {home place : Location}

/-- Whether no command of a script writes the file at a location, or removes it or a directory above it. -/
def Spares (tools : Toolchain) (home place : Location) : Prop :=
  ∀ response ∈ tools.responses, ∀ write ∈ response.writes,
    write.2.Spares (nominal home (Path.ofText write.1)) place

instance (tools : Toolchain) (home place : Location) : Decidable (tools.Spares home place) :=
  inferInstanceAs (Decidable (∀ response ∈ tools.responses, ∀ write ∈ response.writes, _))

/-- Whether some command of a script writes a file at a location. -/
def Writes (tools : Toolchain) (home place : Location) : Prop :=
  ∃ response ∈ tools.responses, ∃ write ∈ response.writes, ∃ bytes executable,
    write.2 = .file bytes executable ∧ nominal home (Path.ofText write.1) = place

theorem permits_of_spares {R : Option Node → Option Node → Prop} (h : tools.Spares home place) :
    tools.Permits R home place :=
  fun response hresponse write hwrite => Content.permits_of_spares (h response hresponse write hwrite)

theorem permits_of_not_writes (h : ¬tools.Writes home place) : tools.Permits NoNewFile home place := by
  intro response hresponse write hwrite
  cases hcontent : write.2 with
  | absent => exact .inr allowsLoss_noNewFile
  | directory => trivial
  | file bytes executable =>
      refine .inl fun hplace => ?_
      exact h ⟨response, hresponse, write, hwrite, bytes, executable, hcontent, hplace.symm⟩

end Toolchain

namespace Gate

/-- The ratio of an outcome, if it is one that is stored. -/
def storable (settings : Settings) (outcome : Outcome) : Option Decimal :=
  if Stores settings outcome.verdict then outcome.ratio else none

theorem ratio_of_storable_eq_some {settings : Settings} {outcome : Outcome} {ratio : Decimal}
    (h : storable settings outcome = some ratio) : outcome.ratio = some ratio := by
  rw [storable] at h
  split at h
  · exact h
  · cases h

/-- What a run that started with a disk leaves at the location of the stored ratio. -/
def LeavesBaseline (settings : Settings) (place : Location) (disk : Disk) :
    EStateM.Result Fault World Outcome → Prop
  | .ok outcome after =>
    match storable settings outcome with
    | some ratio => outcome.baselineUpdated = true ∧
        after.disk.bytes? place = some (encodeUtf8 (ratio.text ++ "\n"))
    | none => outcome.baselineUpdated = false ∧ after.disk.bytes? place = disk.bytes? place
  | .error _ after => after.disk.bytes? place = disk.bytes? place

/-- Every file is the one at a location, or stood where it stands before, or was written by a command. -/
def LeavesNoOther (place : Location) (before after : World) : Prop :=
  ∀ other, HoldsFile (after.disk.node? other) →
    other = place ∨ HoldsFile (before.disk.node? other) ∨ before.tools.Writes before.disk.home other

/-- The effect of a run with an outcome: the ratio was stored, or a location was changed only by the commands
and by the removal of the stale report. -/
theorem effect_of_run_eq_ok {R : Option Node → Option Node → Prop} [Allowance R] {place : Location}
    {gate : Gate} {outcome : Outcome} {world after : World} (hlog : world.LogsNoFile)
    (htools : world.tools.Permits R world.disk.home place)
    (hreport : place ≠ nominal world.disk.home gate.settings.paths.report ∨ AllowsRemoval R)
    (h : gate.run.run world = .ok outcome after) :
    match storable gate.settings outcome with
    | some ratio => outcome.baselineUpdated = true ∧ after.disk.home = world.disk.home ∧
        Stored gate.settings.paths.baseline ratio after
    | none => outcome.baselineUpdated = false ∧ World.Drifts R world.disk.home place world after := by
  obtain ⟨ready, measured, reached, hready, hmeasured, h⟩ := of_run_eq_ok hlog h
  have hreached : World.Drifts R world.disk.home place world reached := calc
    World.Drifts R world.disk.home place world ready := World.drifts_of_rests hready
    World.Drifts R world.disk.home place _ reached := (keeps_measure hreport).ofOk hmeasured
  obtain ⟨hlater, -, hdrifts⟩ := hreached hlog htools
  cases measured with
  | error abort =>
      have houtcome := of_breakOff_eq_ok h
      have hafter : World.Drifts R world.disk.home place world after := calc
        World.Drifts R world.disk.home place world reached := hreached
        World.Drifts R world.disk.home place _ after :=
          (told_breakOff _ _).ofOk h
      rw [storable, houtcome]
      simp only [ite_self, true_and]
      exact hafter
  | ok ratio =>
      obtain ⟨percent, judgement, _, _, -, -, houtcome, hupdates⟩ := of_conclude_eq_ok h
      rw [storable, houtcome]
      by_cases hstores : Stores gate.settings judgement.verdict
      · rw [decide_eq_true hstores] at hupdates
        obtain ⟨hhome, hstored⟩ := hupdates hlater
        simp only [if_pos hstores]
        exact ⟨decide_eq_true hstores, hhome.trans (hdrifts rfl).1, hstored⟩
      · rw [decide_eq_false hstores] at hupdates
        have hafter : World.Drifts R world.disk.home place world after := calc
          World.Drifts R world.disk.home place world reached := hreached
          World.Drifts R world.disk.home place _ after := World.drifts_of_rests hupdates
        simp only [if_neg hstores]
        exact ⟨decide_eq_false hstores, hafter⟩

theorem leavesBaseline_run {gate : Gate} {world : World} {place : Location} (hlog : world.LogsNoFile)
    (hplace : place = nominal world.disk.home gate.settings.paths.baseline)
    (hreport : place ≠ nominal world.disk.home gate.settings.paths.report)
    (htools : world.tools.Spares world.disk.home place) :
    LeavesBaseline gate.settings place world.disk (gate.run.run world) := by
  have hpermits : world.tools.Permits Stays world.disk.home place := Toolchain.permits_of_spares htools
  cases hrun : gate.run.run world with
  | error fault after =>
      have hdrifts : World.Drifts Stays world.disk.home place world after :=
        keepsOnFailure_run (.inl hreport) _ _ _ hrun
      exact bytes?_of_stays ((hdrifts hlog hpermits).2.2 rfl).2
  | ok outcome after =>
      have heffect := effect_of_run_eq_ok hlog hpermits (.inl hreport) hrun
      rw [LeavesBaseline]
      cases hstorable : storable gate.settings outcome with
      | none =>
          rw [hstorable] at heffect
          obtain ⟨hupdated, hdrifts⟩ := heffect
          simp only
          exact ⟨hupdated, bytes?_of_stays ((hdrifts hlog hpermits).2.2 rfl).2⟩
      | some ratio =>
          rw [hstorable] at heffect
          obtain ⟨hupdated, hhome, -, -, -, hbytes⟩ := heffect
          rw [hhome, ← hplace] at hbytes
          simp only
          exact ⟨hupdated, hbytes⟩

theorem leavesNoOther_run {gate : Gate} {world : World} (hlog : world.LogsNoFile) :
    LeavesNoOther (nominal world.disk.home gate.settings.paths.baseline) world
      (finish gate.run world) := by
  intro other hfile
  by_cases hplace : other = nominal world.disk.home gate.settings.paths.baseline
  · exact .inl hplace
  by_cases hwrites : world.tools.Writes world.disk.home other
  · exact .inr (.inr hwrites)
  have hdrifts : World.Drifts NoNewFile world.disk.home other world (finish gate.run world) :=
    keeps_run hplace (.inr allowsRemoval_noNewFile) world
  have hnew := ((hdrifts hlog (Toolchain.permits_of_not_writes hwrites)).2.2 rfl).2
  exact .inr (.inl (hnew hfile))

/-- A run whose commands leave the stored ratio alone replaces it by the ratio of an outcome that the policy
lets store, and by nothing else; however the run ends, no new file is left but those of the commands. -/
theorem run_leavesBaseline {gate : Gate} {world : World} (hlog : world.LogsNoFile)
    (hpaths : nominal world.disk.home gate.settings.paths.baseline ≠
      nominal world.disk.home gate.settings.paths.report)
    (htools : world.tools.Spares world.disk.home
      (nominal world.disk.home gate.settings.paths.baseline)) :
    LeavesBaseline gate.settings (nominal world.disk.home gate.settings.paths.baseline) world.disk
        (gate.run.run world) ∧
      LeavesNoOther (nominal world.disk.home gate.settings.paths.baseline) world
        (finish gate.run world) :=
  ⟨leavesBaseline_run hlog rfl hpaths htools, leavesNoOther_run hlog⟩

theorem run_leavesBaseline_of_report :
    let gate := Gate.ofSettings
      ⟨50, .zero, .tarpaulin, "work", "coverage", none, none, 300, .passOnly, false, "INFO"⟩
    let report := Content.file (encodeUtf8 "<coverage line-rate=\"0.75\"/>") none
    let tools : Toolchain :=
      ⟨[], List.replicate 4 ⟨0, []⟩ ++ [⟨0, [("work/coverage/cobertura.xml", report)]⟩]⟩
    let world := World.fresh (Disk.empty ["home"]) tools
    let place := ["home", "work", "coverage", "baseline.txt"]
    LeavesBaseline gate.settings place world.disk (gate.run.run world) ∧
      LeavesNoOther place world (finish gate.run world) :=
  run_leavesBaseline (World.logsNoFile_fresh _ _) (by decide) (by decide)

end Gate

end Gatekeeper
