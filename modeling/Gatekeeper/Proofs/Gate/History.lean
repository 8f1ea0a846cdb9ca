import Gatekeeper.Proofs.Baseline.Content
import Gatekeeper.Proofs.Gate.Effect
import Gatekeeper.Proofs.Gate.Pipeline
import Gatekeeper.Proofs.Report.Bounds

/-! Histories of runs. Gates are run one after the other, and between the runs files are changed. As long as
nobody else touches the stored ratio, every outcome tells of the last ratio that was stored before, with all
its digits. -/

namespace Gatekeeper

open Work Files Disk Text

/-- What happens to a world in which gates are run: files are changed, a new gate comes that has been at no
station yet, or a gate is run, with tools that answer by a script. -/
inductive Event where
  | change (writes : List (String × Content))
  | renew
  | run (gate : Gate) (tools : Toolchain)

/-- Whether what is put at a location leaves alone the file of a path and the way to it: no file is written in
its place, and nothing is removed there, on the way or above. -/
def Content.SparesPath (home : Location) (path : Path) (target : Location) : Content → Prop
  | absent => ∀ place ∈ nominal home path :: route home path, ¬target <+: place
  | directory => True
  | file .. => nominal home path ≠ target

instance (home : Location) (path : Path) (target : Location) (content : Content) :
    Decidable (content.SparesPath home path target) :=
  match content with
  | .absent => inferInstanceAs (Decidable (∀ place ∈ _ :: _, ¬_))
  | .directory => inferInstanceAs (Decidable True)
  | .file .. => inferInstanceAs (Decidable (_ ≠ _))

/-- Whether several contents leave alone the file of a path and the way to it. -/
def SparePath (home : Location) (path : Path) (writes : List (String × Content)) : Prop :=
  ∀ write ∈ writes, write.2.SparesPath home path (nominal home (Path.ofText write.1))

instance (home : Location) (path : Path) (writes : List (String × Content)) :
    Decidable (SparePath home path writes) :=
  inferInstanceAs (Decidable (∀ write ∈ writes, _))

/-- Whether an event leaves a stored ratio to the gates: all of them store it at the same path, which is not
the one of the report, and neither their tools nor anyone else touch it. -/
def Event.IsFair (home : Location) (path : Path) : Event → Prop
  | change writes => SparePath home path writes
  | renew => True
  | run gate tools => gate.settings.paths.baseline = path ∧
      nominal home path ≠ nominal home gate.settings.paths.report ∧
      ∀ response ∈ tools.responses, SparePath home path response.writes

instance (home : Location) (path : Path) (event : Event) : Decidable (event.IsFair home path) :=
  match event with
  | .change writes => inferInstanceAs (Decidable (SparePath home path writes))
  | .renew => inferInstanceAs (Decidable True)
  | .run _ tools => inferInstanceAs (Decidable (_ ∧ _ ∧ ∀ response ∈ tools.responses, _))

namespace World

/-- The world with tools that answer by a script. -/
def equip (world : World) (tools : Toolchain) : World :=
  { world with tools := tools }

/-- The world after an event; what was done before a failure stays done. -/
def after (world : World) : Event → World
  | .change writes => finish (Run.files (Run.placeAll writes)) world
  | .renew => { world with phases := [] }
  | .run gate tools => finish gate.run (world.equip tools)

/-- The outcome of an event, if it is a run that has one. -/
def outcome? (world : World) : Event → Option Outcome
  | .run gate tools => gate.run.run' (world.equip tools)
  | _ => none

/-- The outcomes of a history, the first one first. -/
def outcomes (world : World) : List Event → List Outcome
  | [] => []
  | event :: rest => (world.outcome? event).toList ++ (world.after event).outcomes rest

end World

namespace Outcome

/-- The ratio of the last one of some outcomes that counts, or else an initial one. -/
def latest (counts : Outcome → Bool) (initial : Option Decimal) (earlier : List Outcome) : Option Decimal :=
  match earlier.reverse.find? counts with
  | some outcome => outcome.ratio
  | none => initial

/-- Whether a policy stores the ratio of an outcome: one that was measured at all, or a pass. -/
def countsFor : BaselinePolicy → Outcome → Bool
  | .always, outcome => outcome.ratio.isSome
  | .passOnly, outcome => outcome.verdict.passed

/-- What is stored after an outcome, if something was stored before. -/
def leaves (stored : Option Decimal) (outcome : Outcome) : Option Decimal :=
  if outcome.baselineUpdated then outcome.ratio else stored

theorem latest_cons (counts : Outcome → Bool) (initial : Option Decimal) (first : Outcome)
    (earlier : List Outcome) :
    latest counts initial (first :: earlier) =
      latest counts (if counts first then first.ratio else initial) earlier := by
  rw [latest, latest, List.reverse_cons, List.find?_append]
  cases earlier.reverse.find? counts with
  | some outcome => rfl
  | none => by_cases hfirst : counts first <;> simp [hfirst]

theorem latest_congr {counts others : Outcome → Bool} {earlier : List Outcome}
    (h : ∀ outcome ∈ earlier, counts outcome = others outcome) (initial : Option Decimal) :
    latest counts initial earlier = latest others initial earlier := by
  induction earlier generalizing initial with
  | nil => rfl
  | cons first rest ih =>
      rw [latest_cons, latest_cons, h first List.mem_cons_self,
        ih fun outcome houtcome => h outcome (List.mem_cons_of_mem first houtcome)]

end Outcome

variable {home : Location} {path : Path} {stored : Option Decimal} {world after : World}

theorem Content.permits_of_sparesPath {content : Content} {target : Location}
    (h : content.SparesPath home path target) :
    content.Permits Stays target (nominal home path) ∧
      ∀ left ∈ route home path, content.Permits StaysDirectory target left := by
  cases content with
  | absent =>
      refine ⟨.inl (h _ List.mem_cons_self), fun left hleft => .inl ?_⟩
      exact h left (List.mem_cons_of_mem _ hleft)
  | directory => exact ⟨trivial, fun _ _ => trivial⟩
  | file bytes executable => exact ⟨.inl h, fun _ _ => .inr allowsWriting_staysDirectory⟩

theorem Toolchain.permits_of_sparePath {tools : Toolchain}
    (h : ∀ response ∈ tools.responses, SparePath home path response.writes) :
    tools.Permits Stays home (nominal home path) ∧
      ∀ left ∈ route home path, tools.Permits StaysDirectory home left := by
  refine ⟨fun response hresponse write hwrite => ?_, fun left hleft response hresponse write hwrite => ?_⟩
  · exact (Content.permits_of_sparesPath (h response hresponse write hwrite)).1
  · exact (Content.permits_of_sparesPath (h response hresponse write hwrite)).2 left hleft

namespace Gate

theorem known_of_isStored {disk : Disk} (h : Baseline.IsStored disk path stored) :
    known disk path = stored := by
  rw [known]
  cases stored with
  | some ratio => rw [show Baseline.load disk path = .ok (some ratio) from h]
  | none => rcases Baseline.load_of_bytes?_eq_none h with hload | hload <;> rw [hload]

/-- A ratio that is stored was the total of a report, so that it can be read back. -/
theorem isBounded_of_run_eq_ok {gate : Gate} {outcome : Outcome} {ratio : Decimal}
    (hlog : world.LogsNoFile) (h : gate.run.run world = .ok outcome after)
    (hratio : outcome.ratio = some ratio) (hunit : ratio.inUnit = true) : ratio.isBounded = true := by
  obtain ⟨ready, measured, reached, hready, hmeasured, h⟩ := of_run_eq_ok hlog h
  cases measured with
  | error abort =>
      rw [of_breakOff_eq_ok h] at hratio
      cases hratio
  | ok total =>
      obtain ⟨percent, judgement, _, _, -, -, houtcome, -⟩ := of_conclude_eq_ok h
      rw [houtcome] at hratio
      cases hratio
      have hmeasure := of_measure_eq_ok (hready hlog).1 hmeasured
      split at hmeasure
      · cases hmeasure
      · obtain ⟨report, hread, rfl⟩ := of_readResult_eq_ok hmeasure.2
        exact Report.isBounded_total hread hunit

/-- A ratio is stored for just those outcomes that count for the policy. -/
theorem baselineUpdated_eq_countsFor {gate : Gate} {outcome : Outcome} (hlog : world.LogsNoFile)
    (h : gate.run.run world = .ok outcome after) :
    outcome.baselineUpdated = Outcome.countsFor gate.settings.baselinePolicy outcome := by
  obtain ⟨-, hupdated, hpass⟩ := outcome_of_run_eq_ok hlog h
  rw [hupdated]
  cases hpolicy : gate.settings.baselinePolicy with
  | always =>
      have hstores : Stores gate.settings outcome.verdict := .inl hpolicy
      rw [decide_eq_true hstores, Bool.and_true, Outcome.countsFor]
  | passOnly =>
      rw [Outcome.countsFor, Verdict.passed]
      by_cases hverdict : outcome.verdict = .pass
      · have hstores : Stores gate.settings outcome.verdict := .inr hverdict
        rw [hpass hverdict, decide_eq_true hstores, decide_eq_true hverdict, Bool.and_true]
      · have hleft : ¬Stores gate.settings outcome.verdict := by
          rintro (halways | hstores)
          · rw [hpolicy] at halways
            cases halways
          · exact hverdict hstores
        rw [decide_eq_false hleft, decide_eq_false hverdict, Bool.and_false]

end Gate

/-- What the events of a history keep: no line of the log goes into a file, the program goes on to run where
it runs, and some ratio is stored, or none. -/
structure World.Continues (home : Location) (path : Path) (stored : Option Decimal) (world : World) :
    Prop where
  logsNoFile : world.LogsNoFile
  home_eq : world.disk.home = home
  isStored : Baseline.IsStored world.disk path stored

namespace World

theorem Continues.of_drifts (h : world.Continues home path stored) (hlog : after.LogsNoFile)
    (hplace : Disk.Drifts Stays home (nominal home path) world.disk after.disk)
    (hroute : ∀ left ∈ route home path, Disk.Drifts StaysDirectory home left world.disk after.disk) :
    after.Continues home path stored := by
  obtain ⟨-, rfl, hstored⟩ := h
  obtain ⟨hhome, hstays⟩ := hplace rfl
  refine ⟨hlog, hhome, Baseline.isStored_of_stays hstored hhome hstays fun left hleft => ?_⟩
  exact (hroute left hleft rfl).2

theorem Continues.change {writes : List (String × Content)} (h : world.Continues home path stored)
    (hwrites : SparePath home path writes) :
    (finish (Run.files (Run.placeAll writes)) world).Continues home path stored := by
  rw [Run.finish_files]
  refine h.of_drifts h.logsNoFile ?_ fun left hleft => ?_
  · exact Run.keeps_placeAll (fun write hwrite => (Content.permits_of_sparesPath (hwrites write hwrite)).1.fits) _
  · exact Run.keeps_placeAll
      (fun write hwrite => ((Content.permits_of_sparesPath (hwrites write hwrite)).2 left hleft).fits) _

theorem Continues.of_run_drifts {tools : Toolchain} (h : world.Continues home path stored)
    (htools : ∀ response ∈ tools.responses, SparePath home path response.writes)
    (hplace : World.Drifts Stays home (nominal home path) (world.equip tools) after)
    (hroute : ∀ left ∈ route home path, World.Drifts StaysDirectory home left (world.equip tools) after) :
    after.Continues home path stored := by
  obtain ⟨hpermits, hway⟩ := Toolchain.permits_of_sparePath htools
  obtain ⟨hlog, -, hdrifts⟩ := hplace h.logsNoFile hpermits
  refine h.of_drifts hlog hdrifts fun left hleft => ?_
  exact (hroute left hleft h.logsNoFile (hway left hleft)).2.2

/-- A run tells of what was stored, and leaves its own ratio when that was stored. -/
theorem Continues.run {gate : Gate} {tools : Toolchain} (h : world.Continues home path stored)
    (hfair : (Event.run gate tools).IsFair home path) :
    match gate.run.run (world.equip tools) with
    | .ok outcome after => outcome.baseline = stored ∧ after.Continues home path (outcome.leaves stored)
    | .error _ after => after.Continues home path stored := by
  obtain ⟨rfl, hreport, htools⟩ := hfair
  obtain rfl : world.disk.home = home := h.home_eq
  obtain ⟨hplace, hway⟩ := Toolchain.permits_of_sparePath htools
  have hlog : (world.equip tools).LogsNoFile := h.logsNoFile
  cases hrun : gate.run.run (world.equip tools) with
  | error fault after =>
      apply h.of_run_drifts htools
      · exact Gate.keepsOnFailure_run (.inl hreport) _ _ _ hrun
      · exact fun left _ =>
          Gate.keepsOnFailure_run (.inr allowsRemoval_staysDirectory) _ _ _ hrun
  | ok outcome after =>
      have heffect := Gate.effect_of_run_eq_ok hlog hplace (.inl hreport) hrun
      have hbaseline : outcome.baseline = stored := by
        rw [(Gate.outcome_of_run_eq_ok hlog hrun).1]
        exact Gate.known_of_isStored h.isStored
      refine ⟨hbaseline, ?_⟩
      cases hstorable : Gate.storable gate.settings outcome with
      | none =>
          rw [hstorable] at heffect
          obtain ⟨hupdated, hdrifts⟩ := heffect
          rw [Outcome.leaves, hupdated, if_neg Bool.false_ne_true]
          apply h.of_run_drifts htools hdrifts
          intro left hleft
          have hleft := Gate.effect_of_run_eq_ok hlog (hway left hleft)
            (.inr allowsRemoval_staysDirectory) hrun
          rw [hstorable] at hleft
          exact hleft.2
      | some ratio =>
          rw [hstorable] at heffect
          obtain ⟨hupdated, hafter, hunit, hlater, hholds⟩ := heffect
          have hratio := Gate.ratio_of_storable_eq_some hstorable
          have hbounded := Gate.isBounded_of_run_eq_ok hlog hrun hratio hunit
          rw [Outcome.leaves, if_pos hupdated, hratio]
          exact ⟨hlater, hafter, Baseline.isStored_of_holds hunit hbounded hholds⟩

/-- One event tells of what was stored before, and leaves what is stored after it. -/
theorem Continues.step {event : Event} (h : world.Continues home path stored)
    (hfair : event.IsFair home path) :
    (∀ outcome ∈ world.outcome? event, outcome.baseline = stored) ∧
      (world.after event).Continues home path
        ((world.outcome? event).elim stored (Outcome.leaves stored)) := by
  have hnone : ∀ outcome ∈ (none : Option Outcome), outcome.baseline = stored := by simp
  cases event with
  | change writes => exact ⟨hnone, h.change hfair⟩
  | renew => exact ⟨hnone, h.logsNoFile, h.home_eq, h.isStored⟩
  | run gate tools =>
      have hrun := h.run hfair
      rw [outcome?, EStateM.run', World.after, finish]
      cases hresult : gate.run.run (world.equip tools) with
      | error fault after =>
          rw [hresult] at hrun
          exact ⟨hnone, hrun⟩
      | ok outcome after =>
          rw [hresult] at hrun
          refine ⟨?_, hrun.2⟩
          rintro _ ⟨⟩
          exact hrun.1

/-- Throughout a history some ratio is stored, or none. -/
theorem Continues.history {events : List Event} (h : world.Continues home path stored)
    (hfair : ∀ event ∈ events, event.IsFair home path) :
    ∃ left, (events.foldl World.after world).Continues home path left := by
  induction events generalizing world stored with
  | nil => exact ⟨stored, h⟩
  | cons event rest ih =>
      obtain ⟨hevent, hrest⟩ := List.forall_mem_cons.mp hfair
      exact ih (h.step hevent).2 hrest

/-- Every outcome of a history is one of a run of some of its gates. -/
theorem Continues.counts_of_mem_outcomes {events : List Event} {outcome : Outcome}
    (h : world.Continues home path stored) (hfair : ∀ event ∈ events, event.IsFair home path)
    (hmem : outcome ∈ world.outcomes events) :
    ∃ gate tools, Event.run gate tools ∈ events ∧
      outcome.baselineUpdated = Outcome.countsFor gate.settings.baselinePolicy outcome := by
  induction events generalizing world stored with
  | nil => cases hmem
  | cons event rest ih =>
      obtain ⟨hevent, hrest⟩ := List.forall_mem_cons.mp hfair
      rw [outcomes, List.mem_append, Option.mem_toList] at hmem
      rcases hmem with hfirst | hlater
      · cases event with
        | run gate tools =>
            refine ⟨gate, tools, List.mem_cons_self, ?_⟩
            rw [outcome?, EStateM.run'] at hfirst
            split at hfirst
            · rename_i hrun
              cases hfirst
              have hequipped : (world.equip tools).LogsNoFile := h.logsNoFile
              exact Gate.baselineUpdated_eq_countsFor hequipped hrun
            · cases hfirst
        | _ => cases hfirst
      · obtain ⟨gate, tools, hrun, hcounts⟩ := ih (h.step hevent).2 hrest hlater
        exact ⟨gate, tools, List.mem_cons_of_mem event hrun, hcounts⟩

/-- Every outcome of a history tells of the last ratio that was stored before. -/
theorem Continues.baseline_eq_latest {events : List Event} {earlier later : List Outcome}
    {outcome : Outcome} (h : world.Continues home path stored)
    (hfair : ∀ event ∈ events, event.IsFair home path)
    (hsplit : world.outcomes events = earlier ++ outcome :: later) :
    outcome.baseline = Outcome.latest Outcome.baselineUpdated stored earlier := by
  induction events generalizing world stored earlier with
  | nil =>
      rw [outcomes] at hsplit
      cases List.append_ne_nil_of_right_ne_nil earlier (List.cons_ne_nil outcome later) hsplit.symm
  | cons event rest ih =>
      obtain ⟨hevent, hrest⟩ := List.forall_mem_cons.mp hfair
      obtain ⟨htells, hstep⟩ := h.step hevent
      rw [outcomes] at hsplit
      cases hfirst : world.outcome? event with
      | none =>
          rw [hfirst] at hstep hsplit
          exact ih hstep hrest hsplit
      | some first =>
          rw [hfirst] at hstep hsplit
          cases earlier with
          | nil =>
              cases hsplit
              exact htells _ hfirst
          | cons _ others =>
              obtain ⟨rfl, hothers⟩ := List.cons.inj hsplit
              rw [Outcome.latest_cons]
              exact ih hstep hrest hothers

end World

/-- In a history of gates that alone store a ratio at a path, every outcome tells of the last ratio that was
stored before, digit by digit, or of the initial one. So with one policy for all it is the ratio of the last
outcome that counts for it; and at no time there is a file without a ratio. -/
theorem World.outcomes_baseline_eq_latest {world : World} {path : Path} {initial : Option Decimal}
    {events : List Event} (hlog : world.LogsNoFile) (hinitial : Baseline.IsStored world.disk path initial)
    (hfair : ∀ event ∈ events, event.IsFair world.disk.home path) :
    (∀ earlier outcome later, world.outcomes events = earlier ++ outcome :: later →
      outcome.baseline = Outcome.latest Outcome.baselineUpdated initial earlier ∧
      ∀ policy, (∀ gate tools, Event.run gate tools ∈ events → gate.settings.baselinePolicy = policy) →
        outcome.baseline = Outcome.latest (Outcome.countsFor policy) initial earlier) ∧
    ∀ before after, events = before ++ after → ∀ content,
      Baseline.load (before.foldl World.after world).disk path ≠ .error (.corrupt content) := by
  have hstart : world.Continues world.disk.home path initial := ⟨hlog, rfl, hinitial⟩
  refine ⟨fun earlier outcome later hsplit => ?_, fun before after hsplit content => ?_⟩
  · have hlatest := hstart.baseline_eq_latest hfair hsplit
    refine ⟨hlatest, fun policy hpolicy => ?_⟩
    rw [hlatest]
    apply Outcome.latest_congr
    intro other hother
    have hmem : other ∈ world.outcomes events := hsplit ▸ List.mem_append_left _ hother
    obtain ⟨gate, tools, hrun, hcounts⟩ := hstart.counts_of_mem_outcomes hfair hmem
    rw [hcounts, hpolicy gate tools hrun]
  · have hbefore : ∀ event ∈ before, event.IsFair world.disk.home path :=
      fun event hevent => hfair event (hsplit ▸ List.mem_append_left after hevent)
    obtain ⟨left, hleft⟩ := hstart.history hbefore
    exact Baseline.load_ne_corrupt_of_isStored hleft.isStored content

theorem World.outcomes_baseline_eq_latest_of_two_runs :
    let gate := Gate.ofSettings
      ⟨50, .zero, .llvmCov, "work", "coverage", none, none, 300, .always, true, "INFO"⟩
    let report (records : String) : Event :=
      .change [("work/coverage/lcov.info", .file (encodeUtf8 records) none)]
    let events := [report "LF:4\nLH:3\n", .run gate ⟨[], []⟩, .renew, report "LF:8\nLH:7\n",
      .run gate ⟨[], []⟩]
    let world := World.fresh (Disk.empty ["home"]) ⟨[], []⟩
    (∀ earlier outcome later, world.outcomes events = earlier ++ outcome :: later →
      outcome.baseline = Outcome.latest Outcome.baselineUpdated none earlier ∧
      ∀ policy, (∀ gate tools, Event.run gate tools ∈ events → gate.settings.baselinePolicy = policy) →
        outcome.baseline = Outcome.latest (Outcome.countsFor policy) none earlier) ∧
    ∀ before after, events = before ++ after → ∀ content,
      Baseline.load (before.foldl World.after world).disk gate.settings.paths.baseline ≠
        .error (.corrupt content) := by
  intro gate report events world
  have hinitial : world.disk.bytes? (nominal world.disk.home gate.settings.paths.baseline) = none := by
    subst gate world
    decide
  have hfair : ∀ event ∈ events, event.IsFair world.disk.home gate.settings.paths.baseline := by
    subst gate report events world
    decide
  have hstored : Baseline.IsStored world.disk gate.settings.paths.baseline none := hinitial
  exact World.outcomes_baseline_eq_latest (World.logsNoFile_fresh _ _) hstored hfair

end Gatekeeper
