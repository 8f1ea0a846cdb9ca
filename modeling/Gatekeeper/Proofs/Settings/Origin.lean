import Gatekeeper.CommandLine
import Gatekeeper.Proofs.Work

/-! Where settings come from, and the ranges of the numbers among them, which are those of the checks. A given value
has passed its check; a value of the environment has not, so that a setting lies in its range just when it is given or
the environment has a value in that range for it. The two settings with a few choices are always one of them, whatever
the environment says. -/

namespace Gatekeeper

open Work

namespace Settings

/-- Whether the numbers among some settings lie in the ranges of their checks. -/
structure InRange (settings : Settings) : Prop where
  minCoverage : 0 ≤ settings.minCoverage ∧ settings.minCoverage ≤ 100
  maxDrop : settings.maxDrop.isFinite = true ∧ settings.maxDrop.isBelowZero = false
  coverageTimeout : 1 ≤ settings.coverageTimeout

/-- A check that answers the value that it is given accepts it just when its test holds. -/
theorem ite_eq_ok_iff {ε α : Type} {test : Bool} {given value : α} {cause : ε} :
    (if test = true then .ok given else .error cause : Except ε α) = .ok value ↔
      given = value ∧ test = true := by
  cases test <;> simp

theorem checkMinimum_eq_ok_iff {given value : Int} :
    checkMinimum given = .ok value ↔ given = value ∧ 0 ≤ value ∧ value ≤ 100 := by
  rw [checkMinimum, ite_eq_ok_iff, Bool.and_eq_true, decide_eq_true_eq, decide_eq_true_eq]
  exact and_congr_right fun h => h ▸ Iff.rfl

theorem checkMaxDrop_eq_ok_iff {given value : Binary64} :
    checkMaxDrop given = .ok value ↔
      given = value ∧ value.isFinite = true ∧ value.isBelowZero = false := by
  rw [checkMaxDrop, ite_eq_ok_iff, Bool.and_eq_true, Bool.not_eq_true']
  exact and_congr_right fun h => h ▸ Iff.rfl

instance (settings : Settings) : Decidable settings.InRange :=
  decidable_of_iff (_ ∧ _ ∧ _) ⟨fun h => ⟨h.1, h.2.1, h.2.2⟩, fun h => ⟨h.1, h.2, h.3⟩⟩

end Settings

namespace Checked

variable {ε α β : Type}

/-- A function is accepted together with its argument when both are. -/
theorem seq_eq_accepted_iff {f : Checked ε (α → β)} {x : Checked ε α} {result : β} :
    f <*> x = accepted result ↔ ∃ g value, f = accepted g ∧ x = accepted value ∧ result = g value := by
  change f.apply x = _ ↔ _
  cases f <;> cases x <;> simp [apply, both, map, eq_comm]

theorem map_eq_accepted_iff {f : α → β} {x : Checked ε α} {result : β} :
    f <$> x = accepted result ↔ ∃ value, x = accepted value ∧ result = f value := by
  change (pure f : Checked ε (α → β)) <*> x = _ ↔ _
  rw [seq_eq_accepted_iff]
  constructor
  · rintro ⟨_, value, ⟨⟩, hvalue, hresult⟩
    exact ⟨value, hvalue, hresult⟩
  · rintro ⟨value, hvalue, hresult⟩
    exact ⟨f, value, rfl, hvalue, hresult⟩

end Checked

namespace Settings

variable {α : Type} {given : GivenValues} {setting : String} {env : Environment} {settings : Settings}

theorem take_eq_accepted_iff {fromGiven : Given → Except Complaint α} {otherwise : Except EnvironmentError α}
    {value : α} :
    take given setting fromGiven otherwise = .accepted value ↔
      (∃ raw, given.lookup setting = some raw ∧ fromGiven raw = .ok value) ∨
        (given.lookup setting = none ∧ otherwise = .ok value) := by
  rw [take]
  cases given.lookup setting with
  | some raw => cases hraw : fromGiven raw <;> simp [Checked.ofCheck, hraw]
  | none => cases otherwise <;> simp [Checked.ofExcept, Except.mapError]

/-- Whether a setting is given, or else comes from the environment with some property. -/
def Covers (given : GivenValues) (setting : String) (fromEnvironment : Except EnvironmentError α)
    (holds : α → Prop) : Prop :=
  given.lookup setting = none → ∃ value, fromEnvironment = .ok value ∧ holds value

/-- What every check of a given value ensures holds of a setting unless it comes from the environment without
that property. -/
theorem holds_iff_covers {fromGiven : Given → Except Complaint α} {otherwise : Except EnvironmentError α}
    {value : α} (holds : α → Prop) (hchecked : ∀ raw value, fromGiven raw = .ok value → holds value)
    (h : take given setting fromGiven otherwise = .accepted value) :
    holds value ↔ Covers given setting otherwise holds := by
  rw [take_eq_accepted_iff] at h
  rw [Covers]
  rcases h with ⟨raw, hlookup, hraw⟩ | ⟨hlookup, hvalue⟩
  · simp [hlookup, hchecked raw value hraw]
  · simp [hlookup, hvalue]

theorem mem_logLevels_of_checkLogLevel {given level : String} (h : checkLogLevel given = .ok level) :
    level ∈ logLevels := by
  rw [checkLogLevel, ite_eq_ok_iff] at h
  rw [← h.1]
  exact List.contains_iff_mem.mp h.2

/-- A number is checked after it was taken from a given value. -/
theorem exists_of_bind_eq_ok {β ε : Type} {first : Except ε α} {next : α → Except ε β} {value : β}
    (h : first.bind next = .ok value) : ∃ middle, next middle = .ok value := by
  cases first with
  | error cause => cases h
  | ok middle => exact ⟨middle, h⟩

theorem validate_of_make_eq_ok [Coercions] (h : make given env = .ok settings) :
    validate given env = .accepted settings := by
  unfold make at h
  generalize validate given env = checked at h ⊢
  cases checked with
  | accepted made => rw [Except.ok.inj h]
  | refused problems => cases h
  | failed cause => cases h

/-- Settings that were made were taken one by one. -/
theorem of_make_eq_ok [Coercions] (h : make given env = .ok settings) :
    take given "min_coverage" (fun value => (Coercions.integer value).bind checkMinimum)
        (env.integer "COVGATE_MIN_COVERAGE" "20") = .accepted settings.minCoverage ∧
      take given "max_drop" (fun value => (Coercions.number value).bind checkMaxDrop)
        (env.number "COVGATE_MAX_DROP" "10") = .accepted settings.maxDrop ∧
      take given "coverage_timeout" (fun value => (Coercions.integer value).map (max 1))
        (env.integer "COVGATE_COVERAGE_TIMEOUT" "300") = .accepted settings.coverageTimeout ∧
      take given "log_level" (fun value => value.toText.bind checkLogLevel)
        (.ok (env.getOr "COVGATE_LOG_LEVEL" "INFO")) = .accepted settings.logLevel := by
  have hvalid := validate_of_make_eq_ok h
  simp only [validate, Checked.seq_eq_accepted_iff, Checked.map_eq_accepted_iff] at hvalid
  obtain ⟨_, level, ⟨_, skip, ⟨_, policy, ⟨_, timeout, ⟨_, baseline, ⟨_, report, ⟨_, output, ⟨_, project,
    ⟨_, engine, ⟨_, drop, ⟨minimum, hminimum, rfl⟩, hdrop, rfl⟩, -, rfl⟩, -, rfl⟩, -, rfl⟩, -, rfl⟩, -, rfl⟩,
    htimeout, rfl⟩, -, rfl⟩, -, rfl⟩, hlevel, rfl⟩ := hvalid
  exact ⟨hminimum, hdrop, htimeout, hlevel⟩

theorem ends_openLog {level : String} (h : level ∈ logLevels) : Ends (CommandLine.openLog level none) := by
  have hknown : ∀ level ∈ logLevels, (severities.lookup level).isSome = true := by decide
  rw [CommandLine.openLog]
  cases hlookup : severities.lookup level with
  | none =>
      have hsome := hknown level h
      rw [hlookup] at hsome
      cases hsome
  | some threshold => exact Ends.bind (Ends.modify _) fun _ => Ends.pure _

/-- Of settings that were made, each lies in its range just when it is given, in whatever way, or the environment
has a value in that range for it; those with a few choices are one of them in any case. The log can be opened at
each of the levels that may be given. -/
theorem make_in_range_iff [Coercions] (h : make given env = .ok settings) :
    (0 ≤ settings.minCoverage ∧ settings.minCoverage ≤ 100 ↔
      Covers given "min_coverage" (env.integer "COVGATE_MIN_COVERAGE" "20") fun n => 0 ≤ n ∧ n ≤ 100) ∧
    (settings.maxDrop.isFinite = true ∧ settings.maxDrop.isBelowZero = false ↔
      Covers given "max_drop" (env.number "COVGATE_MAX_DROP" "10") fun x =>
        x.isFinite = true ∧ x.isBelowZero = false) ∧
    (1 ≤ settings.coverageTimeout ↔
      Covers given "coverage_timeout" (env.integer "COVGATE_COVERAGE_TIMEOUT" "300") fun n => 1 ≤ n) ∧
    (settings.logLevel ∈ logLevels ↔
      Covers given "log_level" (.ok (env.getOr "COVGATE_LOG_LEVEL" "INFO")) fun level => level ∈ logLevels) ∧
    settings.engine.name ∈ ["tarpaulin", "llvm-cov"] ∧
    settings.baselinePolicy.name ∈ ["always", "pass-only"] ∧
    (settings.logLevel ∈ logLevels → Ends (CommandLine.openLog settings.logLevel none)) := by
  obtain ⟨hminimum, hdrop, htimeout, hlevel⟩ := of_make_eq_ok h
  refine ⟨?_, ?_, ?_, ?_, ?_, ?_, ends_openLog⟩
  · refine holds_iff_covers (fun n => 0 ≤ n ∧ n ≤ 100) (fun raw value hraw => ?_) hminimum
    obtain ⟨_, hchecked⟩ := exists_of_bind_eq_ok hraw
    exact (checkMinimum_eq_ok_iff.mp hchecked).2
  · refine holds_iff_covers (fun x => x.isFinite = true ∧ x.isBelowZero = false)
      (fun raw value hraw => ?_) hdrop
    obtain ⟨_, hchecked⟩ := exists_of_bind_eq_ok hraw
    exact (checkMaxDrop_eq_ok_iff.mp hchecked).2
  · refine holds_iff_covers (fun n => 1 ≤ n) (fun raw value hraw => ?_) htimeout
    cases hnumber : Coercions.integer raw with
    | error cause =>
        rw [hnumber] at hraw
        cases hraw
    | ok n =>
        rw [hnumber] at hraw
        cases hraw
        exact le_max_left 1 n
  · refine holds_iff_covers (fun level => level ∈ logLevels) (fun raw value hraw => ?_) hlevel
    obtain ⟨_, hchecked⟩ := exists_of_bind_eq_ok hraw
    exact mem_logLevels_of_checkLogLevel hchecked
  · cases settings.engine <;> decide
  · cases settings.baselinePolicy <;> decide

/-- A minimum above one hundred is taken from the environment as it is, next to a level that was given and
checked. -/
theorem make_in_range_iff_of_unchecked_minimum :
    let given : GivenValues := [("log_level", .text "debug")]
    let env : Environment := [("COVGATE_MIN_COVERAGE", "150"), ("COVGATE_LOG_LEVEL", "loud")]
    ∃ settings, make given env = .ok settings ∧
      ¬(0 ≤ settings.minCoverage ∧ settings.minCoverage ≤ 100) ∧ settings.logLevel ∈ logLevels := by
  intro given env
  have hmade : ((make given env).toOption.map Settings.logLevel) = some "DEBUG" := by decide +kernel
  have hnumber : env.integer "COVGATE_MIN_COVERAGE" "20" = .ok 150 := by decide +kernel
  cases hmake : make given env with
  | error cause =>
      rw [hmake] at hmade
      cases hmade
  | ok settings =>
      obtain ⟨hminimum, -, -, hlevel, -⟩ := make_in_range_iff hmake
      refine ⟨settings, rfl, ?_, hlevel.mpr nofun⟩
      rw [hminimum, Covers, hnumber]
      intro hcovers
      obtain ⟨n, hn, hrange⟩ := hcovers rfl
      cases hn
      exact absurd hrange.2 (by decide)

end Settings

end Gatekeeper
