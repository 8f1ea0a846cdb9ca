import Gatekeeper.CommandLine
import Gatekeeper.Proofs.CommandLine.Words

/-! Flags before the environment. Settings depend on the environment through the settings that are not given only, so
that a call does not depend on what the environment has for a setting whose flag is named in it. -/

namespace Gatekeeper

section Congruence

variable {env env' : Environment} {name : String}

theorem Environment.getOr_congr (h : env.lookup name = env'.lookup name) (fallback : String) :
    env.getOr name fallback = env'.getOr name fallback := by
  rw [getOr, getOr, h]

theorem Environment.integer_congr (h : env.lookup name = env'.lookup name) (fallback : String) :
    env.integer name fallback = env'.integer name fallback := by
  rw [integer, integer, getOr_congr h]

theorem Environment.number_congr (h : env.lookup name = env'.lookup name) (fallback : String) :
    env.number name fallback = env'.number name fallback := by
  rw [number, number, getOr_congr h]

theorem Environment.lower_congr (h : env.lookup name = env'.lookup name) (fallback : String) :
    env.lower name fallback = env'.lower name fallback := by
  rw [lower, lower, getOr_congr h]

end Congruence

namespace Settings

open CommandLine

variable {α : Type} {given : GivenValues} {setting : String} {env env' : Environment}

/-- What a setting would otherwise be does not matter when it is given. -/
theorem take_congr {otherwise otherwise' : Except EnvironmentError α}
    (h : given.lookup setting = none → otherwise = otherwise') (fromGiven : Given → Except Complaint α) :
    take given setting fromGiven otherwise = take given setting fromGiven otherwise' := by
  rw [take, take]
  cases hlookup : given.lookup setting with
  | none => rw [h hlookup]
  | some value => rfl

theorem takeChoice_congr {otherwise otherwise' : α} (h : given.lookup setting = none → otherwise = otherwise')
    (choices : List String) (ofName? : String → Option α) :
    takeChoice given setting choices ofName? otherwise = takeChoice given setting choices ofName? otherwise' := by
  rw [takeChoice, takeChoice]
  cases hlookup : given.lookup setting with
  | none => rw [h hlookup]
  | some value => cases value <;> rfl

/-- Whether two environments have the same texts for the settings that are not given. -/
def Agree (given : GivenValues) (env env' : Environment) : Prop :=
  ∀ flag : Flag, ∀ setting variableName, flag.masks? = some (setting, variableName) →
    given.lookup setting = none → env.lookup variableName = env'.lookup variableName

/-- Given values, and the texts for the settings that are not given, determine all settings. -/
theorem validate_congr [Coercions] (h : Agree given env env') : validate given env = validate given env' := by
  have hminimum (hnone : given.lookup "min_coverage" = none) :=
    Environment.integer_congr (h .minimum _ _ rfl hnone) "20"
  have hdrop (hnone : given.lookup "max_drop" = none) :=
    Environment.number_congr (h .maxDrop _ _ rfl hnone) "10"
  have hengine (hnone : given.lookup "engine" = none) : environmentEngine env = environmentEngine env' := by
    rw [environmentEngine, environmentEngine, Environment.lower_congr (h .engine _ _ rfl hnone)]
  have hproject (hnone : given.lookup "project_dir" = none) :=
    Environment.getOr_congr (h .projectDir _ _ rfl hnone) "."
  have houtput (hnone : given.lookup "output_dir" = none) :=
    Environment.getOr_congr (h .outputDir _ _ rfl hnone) "coverage"
  have hreport (hnone : given.lookup "report_path" = none) := h .report _ _ rfl hnone
  have hbaseline (hnone : given.lookup "baseline_path" = none) := h .baseline _ _ rfl hnone
  have htimeout (hnone : given.lookup "coverage_timeout" = none) :=
    Environment.integer_congr (h .coverageTimeout _ _ rfl hnone) "300"
  have hpolicy (hnone : given.lookup "baseline_policy" = none) :
      environmentPolicy env = environmentPolicy env' := by
    rw [environmentPolicy, environmentPolicy, Environment.lower_congr (h .baselinePolicy _ _ rfl hnone)]
  have hlevel (hnone : given.lookup "log_level" = none) :=
    Environment.getOr_congr (h .logLevel _ _ rfl hnone) "INFO"
  rw [validate, validate, take_congr hminimum, take_congr hdrop, takeChoice_congr hengine,
    take_congr fun hnone => congrArg Except.ok (hproject hnone),
    take_congr fun hnone => congrArg Except.ok (houtput hnone),
    take_congr fun hnone => congrArg Except.ok (hreport hnone),
    take_congr fun hnone => congrArg Except.ok (hbaseline hnone),
    take_congr htimeout, takeChoice_congr hpolicy,
    take_congr fun hnone => congrArg Except.ok (hlevel hnone)]

theorem make_congr [Coercions] (h : Agree given env env') : make given env = make given env' := by
  unfold make
  rw [validate_congr h]

end Settings

namespace CommandLine

variable {words : List String} {env env' : Environment}

/-- Whether two environments have the same texts for the settings whose flags no word of a command line names. -/
def AgreeBeside (words : List String) (env env' : Environment) : Prop :=
  ∀ flag : Flag, ∀ setting variableName, flag.masks? = some (setting, variableName) →
    (∀ word ∈ words, ¬flag.IsNamedBy word) → env.lookup variableName = env'.lookup variableName

/-- Environments that agree beside the flags agree on what is not given by them. -/
theorem AgreeBeside.agree (h : AgreeBeside words env env') {options : Options}
    (hwords : Request.ofWords words = .ok (.run options)) : Settings.Agree options.given env env' := by
  intro flag setting variableName hmasks hnone
  refine h flag setting variableName hmasks fun word hword hnamed => ?_
  exact Options.gives_iff_lookup.mp (gives_of_ofWords_eq_run hwords hmasks hword hnamed) hnone

/-- A flag masks its text in the environment completely. In two environments that have the same texts for the flags
that no word of a command line names, the call is one and the same program: from every world it comes to the same
exit code or the same failure and leaves the same world, whatever the texts for the other flags are, and whatever
values these are given, the empty text among them. -/
theorem call_eq_of_agreeBeside [Coercions] (h : AgreeBeside words env env') : call env words = call env' words := by
  rw [call, call]
  cases hwords : Request.ofWords words with
  | error cause => rfl
  | ok request =>
      cases request with
      | help => rfl
      | run options =>
          show runOptions env options = runOptions env' options
          unfold runOptions
          rw [Settings.make_congr (h.agree hwords)]

/-- A minimum that cannot be read and the path of another report are masked, the path by the empty text. -/
theorem call_eq_of_agreeBeside_of_garbage :
    let words := ["--min", "50", "--report=", "--report-only"]
    let env : Environment :=
      [("COVGATE_MIN_COVERAGE", "many"), ("COVGATE_REPORT_PATH", "other.xml"), ("COVGATE_ENGINE", "llvm-cov")]
    let env' : Environment := [("COVGATE_ENGINE", "llvm-cov")]
    AgreeBeside words env env' ∧ (env.integer "COVGATE_MIN_COVERAGE" "20").toOption = none ∧
      call env words = call env' words := by
  intro words env env'
  have hminimum : Flag.minimum.IsNamedBy "--min" := by
    refine .inr ⟨by decide, fun other => ?_⟩
    cases other <;> decide
  have hreport : Flag.report.IsNamedBy "--report=" := .inl (by decide)
  have hagree : AgreeBeside words env env' := by
    intro flag setting variableName hmasks habsent
    cases flag with
    | minimum => exact absurd hminimum (habsent _ (by decide))
    | report => exact absurd hreport (habsent _ (by decide))
    | help | reportOnly | logFile => cases hmasks
    | _ =>
        cases hmasks
        rfl
  exact ⟨hagree, by decide +kernel, call_eq_of_agreeBeside hagree⟩

end CommandLine

end Gatekeeper
