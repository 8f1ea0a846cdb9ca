import Gatekeeper.Proofs.Gate.Certificate
import Gatekeeper.Proofs.Gate.History

/-! How far the stored ratio can fall. When only a pass is stored, every pass lowers the stored percentage by at most
the limit on drops, and nothing else lowers it; so along a history it falls by at most the limit for each pass. -/

namespace Gatekeeper

open Work Files

/-- Whether the percentage of a later ratio is at most so many points below that of an earlier one. -/
def FallsWithin (points : ℚ) (earlier later : Decimal) : Prop :=
  ∃ before now, toPercent (.finite earlier) = .ok before ∧ toPercent (.finite later) = .ok now ∧
    ((before - now : Int) : ℚ) ≤ points

namespace FallsWithin

variable {first second third : Decimal} {points more : ℚ}

theorem refl (hunit : first.inUnit = true) : FallsWithin 0 first first := by
  obtain ⟨percent, hpercent⟩ := exists_toPercent hunit
  exact ⟨percent, percent, hpercent, hpercent, by simp⟩

theorem trans (hfirst : FallsWithin points first second) (hsecond : FallsWithin more second third) :
    FallsWithin (points + more) first third := by
  obtain ⟨before, middle, hbefore, hmiddle, hpoints⟩ := hfirst
  obtain ⟨middle', now, hmiddle', hnow, hmore⟩ := hsecond
  rw [hmiddle] at hmiddle'
  cases hmiddle'
  refine ⟨before, now, hbefore, hnow, ?_⟩
  push_cast at hpoints hmore ⊢
  linarith

end FallsWithin

/-- Whether the gate of an event, if it is a run, has some settings. -/
def Event.RunsWith (settings : Settings) : Event → Prop
  | run gate _ => gate.settings = settings
  | _ => True

instance (settings : Settings) (event : Event) : Decidable (event.RunsWith settings) :=
  match event with
  | .change _ => inferInstanceAs (Decidable True)
  | .renew => inferInstanceAs (Decidable True)
  | .run _ _ => inferInstanceAs (Decidable (_ = _))

namespace Outcome

def isPass (outcome : Outcome) : Bool :=
  outcome.verdict.passed

theorem isPass_eq_true_iff {outcome : Outcome} : outcome.isPass = true ↔ outcome.verdict = .pass := by
  simp [isPass, Verdict.passed]

def passes (outcomes : List Outcome) : Nat :=
  outcomes.countP isPass

theorem passes_append (first rest : List Outcome) : passes (first ++ rest) = passes first + passes rest :=
  List.countP_append

theorem latest_append (counts : Outcome → Bool) (initial : Option Decimal) (first rest : List Outcome) :
    latest counts initial (first ++ rest) = latest counts (latest counts initial first) rest := by
  induction first generalizing initial with
  | nil => rfl
  | cons outcome others ih => rw [List.cons_append, latest_cons, latest_cons, ih]

end Outcome

/-- A pass has a ratio whose percentage is at most the limit below that of the ratio that was stored before. -/
theorem Gate.fallsWithin_of_run_eq_pass {gate : Gate} {outcome : Outcome} {world after : World}
    (hlog : world.LogsNoFile) (hrange : gate.settings.InRange) (h : gate.run.run world = .ok outcome after)
    (hpass : outcome.verdict = .pass) :
    ∃ ratio, outcome.ratio = some ratio ∧
      ∀ earlier, outcome.baseline = some earlier → FallsWithin gate.settings.maxDrop.value earlier ratio := by
  obtain ⟨hway, report, hread, hunit⟩ := of_run_eq_pass hlog h hpass
  obtain ⟨now, hnow⟩ := exists_toPercent hunit
  obtain ⟨hratio, hverdict⟩ := verdict_eq_pass_iff_of_read hlog hrange hway hread hnow h
  refine ⟨report.total, hratio, fun earlier hearlier => ?_⟩
  have hbaseline : earlier.inUnit = true := by
    rw [(outcome_of_run_eq_ok hlog h).1] at hearlier
    exact inUnit_of_known_eq_some hearlier
  obtain ⟨before, hbefore⟩ := exists_toPercent hbaseline
  have hallows := (hverdict.mp hpass).2 earlier before hearlier hbefore
  rw [Binary64.allows_iff_of_isFinite hrange.maxDrop.1] at hallows
  exact ⟨before, now, hbefore, hnow, hallows⟩

namespace World

variable {world : World} {home : Location} {settings : Settings} {earlier : Decimal}

/-- What holds after some outcomes of gates that store passes only: the last pass is stored, or the ratio that was
stored before, and the percentage has fallen by at most the limit for each pass. -/
def Declines (home : Location) (settings : Settings) (earlier : Decimal) (outcomes : List Outcome) (after : World) :
    Prop :=
  ∃ later, after.Continues home settings.paths.baseline (some later) ∧
    FallsWithin (Outcome.passes outcomes * settings.maxDrop.value) earlier later ∧
    Outcome.latest Outcome.isPass (some earlier) outcomes = some later

/-- Without a pass nothing is stored. -/
theorem declines_of_no_pass {outcomes : List Outcome} (hunit : earlier.inUnit = true)
    (hafter : world.Continues home settings.paths.baseline (some earlier))
    (h : ∀ outcome ∈ outcomes, outcome.isPass = false) : world.Declines home settings earlier outcomes := by
  refine ⟨earlier, hafter, ?_, ?_⟩
  · have hnone : Outcome.passes outcomes = 0 := List.countP_eq_zero.mpr (by simpa using h)
    rw [hnone, Nat.cast_zero, zero_mul]
    exact FallsWithin.refl hunit
  · have hnone : outcomes.reverse.find? Outcome.isPass = none := by simpa using h
    rw [Outcome.latest, hnone]

/-- A run leaves the stored ratio, or it is a pass and lowers its percentage by at most the limit. -/
theorem Continues.declines_run {gate : Gate} {tools : Toolchain} (hrange : gate.settings.InRange)
    (hpolicy : gate.settings.baselinePolicy = .passOnly)
    (h : world.Continues home gate.settings.paths.baseline (some earlier))
    (hfair : (Event.run gate tools).IsFair home gate.settings.paths.baseline) :
    match gate.run.run (world.equip tools) with
    | .ok outcome after => after.Declines home gate.settings earlier [outcome]
    | .error _ after => after.Declines home gate.settings earlier [] := by
  have hunit : earlier.inUnit = true := Baseline.inUnit_of_load_eq_some h.isStored
  have hlog : (world.equip tools).LogsNoFile := h.logsNoFile
  have hrun := h.run hfair
  cases hresult : gate.run.run (world.equip tools) with
  | error fault after =>
      rw [hresult] at hrun
      exact declines_of_no_pass hunit hrun (by simp)
  | ok outcome after =>
      rw [hresult] at hrun
      obtain ⟨hbaseline, hafter⟩ := hrun
      have hupdated : outcome.baselineUpdated = outcome.isPass := by
        rw [Gate.baselineUpdated_eq_countsFor hlog hresult, hpolicy]
        rfl
      rw [Outcome.leaves, hupdated] at hafter
      cases hpass : outcome.isPass with
      | false =>
          rw [hpass, if_neg Bool.false_ne_true] at hafter
          exact declines_of_no_pass hunit hafter (by simpa using hpass)
      | true =>
          obtain ⟨ratio, hratio, hfalls⟩ :=
            Gate.fallsWithin_of_run_eq_pass hlog hrange hresult (Outcome.isPass_eq_true_iff.mp hpass)
          rw [hpass, if_pos rfl, hratio] at hafter
          refine ⟨ratio, hafter, ?_, ?_⟩
          · simpa [Outcome.passes, hpass] using hfalls earlier hbaseline
          · simp [Outcome.latest, hpass, hratio]

/-- One event lowers the stored percentage by at most the limit, and only if it is a pass. -/
theorem Continues.declines_step {event : Event} (hrange : settings.InRange)
    (hpolicy : settings.baselinePolicy = .passOnly)
    (h : world.Continues home settings.paths.baseline (some earlier))
    (hfair : event.IsFair home settings.paths.baseline) (hsettings : event.RunsWith settings) :
    (world.after event).Declines home settings earlier (world.outcome? event).toList := by
  have hunit : earlier.inUnit = true := Baseline.inUnit_of_load_eq_some h.isStored
  cases event with
  | change writes => exact declines_of_no_pass hunit (h.step hfair).2 (by simp [outcome?])
  | renew => exact declines_of_no_pass hunit (h.step hfair).2 (by simp [outcome?])
  | run gate tools =>
      obtain rfl : gate.settings = settings := hsettings
      have hrun := h.declines_run hrange hpolicy hfair
      rw [outcome?, EStateM.run', World.after, finish]
      cases hresult : gate.run.run (world.equip tools) with
      | error fault after =>
          rw [hresult] at hrun
          exact hrun
      | ok outcome after =>
          rw [hresult] at hrun
          exact hrun

/-- A history lowers the stored percentage by at most the limit for each pass. -/
theorem Continues.declines_history {events : List Event} (hrange : settings.InRange)
    (hpolicy : settings.baselinePolicy = .passOnly)
    (h : world.Continues home settings.paths.baseline (some earlier))
    (hfair : ∀ event ∈ events, event.IsFair home settings.paths.baseline)
    (hsettings : ∀ event ∈ events, event.RunsWith settings) :
    (events.foldl World.after world).Declines home settings earlier (world.outcomes events) := by
  induction events generalizing world earlier with
  | nil => exact declines_of_no_pass (Baseline.inUnit_of_load_eq_some h.isStored) h (by simp [outcomes])
  | cons event rest ih =>
      obtain ⟨hevent, hrest⟩ := List.forall_mem_cons.mp hfair
      obtain ⟨hgate, hgates⟩ := List.forall_mem_cons.mp hsettings
      obtain ⟨middle, hmiddle, hfalls, hlatest⟩ := h.declines_step hrange hpolicy hevent hgate
      obtain ⟨last, hlast, hmore, hlatest'⟩ := ih hmiddle hrest hgates
      refine ⟨last, hlast, ?_, ?_⟩
      · rw [outcomes, Outcome.passes_append, Nat.cast_add, add_mul]
        exact hfalls.trans hmore
      · rw [outcomes, Outcome.latest_append, hlatest, hlatest']

end World

/-- In a history of gates with the same settings that store passes only, the stored percentage falls by at most the
limit on drops for each pass. The ratio at the end is that of the last pass, or the one from the start: what is no
pass takes nothing away. -/
theorem World.stored_falls_within_passes {world : World} {settings : Settings} {first : Decimal}
    {events : List Event} (hlog : world.LogsNoFile) (hrange : settings.InRange)
    (hpolicy : settings.baselinePolicy = .passOnly)
    (hfirst : Baseline.load world.disk settings.paths.baseline = .ok (some first))
    (hfair : ∀ event ∈ events, event.IsFair world.disk.home settings.paths.baseline)
    (hsettings : ∀ event ∈ events, event.RunsWith settings) :
    ∃ last, Baseline.load (events.foldl World.after world).disk settings.paths.baseline = .ok (some last) ∧
      FallsWithin (Outcome.passes (world.outcomes events) * settings.maxDrop.value) first last ∧
      Outcome.latest Outcome.isPass (some first) (world.outcomes events) = some last := by
  have hstart : world.Continues world.disk.home settings.paths.baseline (some first) := ⟨hlog, rfl, hfirst⟩
  obtain ⟨last, hlast, hfalls, hlatest⟩ := hstart.declines_history hrange hpolicy hfair hsettings
  exact ⟨last, hlast.isStored, hfalls, hlatest⟩

theorem World.stored_falls_within_passes_of_two_runs :
    let settings : Settings :=
      ⟨50, .zero, .llvmCov, "work", "coverage", none, none, 300, .passOnly, true, "INFO"⟩
    let gate := Gate.ofSettings settings
    let report (records : String) : Event :=
      .change [("work/coverage/lcov.info", .file (Text.encodeUtf8 records) none)]
    let events := [report "LF:4\nLH:3\n", .run gate ⟨[], []⟩, report "LF:8\nLH:3\n", .run gate ⟨[], []⟩]
    let bytes := Text.encodeUtf8 "0.75\n"
    let disk := (((Disk.empty ["home"]).put ["home", "work"] .directory).put
      ["home", "work", "coverage"] .directory).create ["home", "work", "coverage", "baseline.txt"] false bytes
    let world := World.fresh disk ⟨[], []⟩
    ∃ last, Baseline.load (events.foldl World.after world).disk settings.paths.baseline = .ok (some last) ∧
      FallsWithin (Outcome.passes (world.outcomes events) * settings.maxDrop.value) ⟨false, 75, -2⟩ last ∧
      Outcome.latest Outcome.isPass (some ⟨false, 75, -2⟩) (world.outcomes events) = some last := by
  intro settings gate report events bytes disk world
  have hlocate : locate disk settings.paths.baseline = .ok ["home", "work", "coverage", "baseline.txt"] := by
    clear_value bytes
    cbv
  have hratio : Baseline.ofBytes bytes = .ok ⟨false, 75, -2⟩ := by decide +kernel
  have hfirst : Baseline.load disk settings.paths.baseline = .ok (some ⟨false, 75, -2⟩) := by
    have hbytes : disk.bytes? ["home", "work", "coverage", "baseline.txt"] = some bytes := rfl
    rw [Baseline.load_of_locate hlocate, hbytes]
    simp only [hratio]
  have hfair : ∀ event ∈ events, event.IsFair world.disk.home settings.paths.baseline := by
    subst events world
    decide
  have hsettings : ∀ event ∈ events, event.RunsWith settings := by
    subst events
    decide
  exact World.stored_falls_within_passes (World.logsNoFile_fresh _ _) (by decide) rfl hfirst hfair hsettings

end Gatekeeper
