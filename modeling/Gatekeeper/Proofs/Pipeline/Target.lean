import Gatekeeper.Pipeline
import Gatekeeper.Proofs.Files.Locate
import Gatekeeper.Proofs.Number.DecimalText
import Gatekeeper.Proofs.Settings.Paths

/-! Where the commands write the report. They are told the path at which the gate looks for it, but they read this
path from the project directory, and the gate reads it from where it runs itself. -/

namespace Gatekeeper

open Number

namespace Files

variable {one other : Location} {path : Path}

/-- How far parts lead up from the place where they start, beyond the names that they add themselves. -/
def climb : List String → Nat
  | [] => 0
  | part :: rest => if part = ".." then climb rest + 1 else climb rest - 1

/-- The same parts lead to one location from two places just when the places are equal above the climb. -/
theorem foldl_step_eq_iff (parts : List String) :
    parts.foldl step one = parts.foldl step other ↔
      one.rdrop (climb parts) = other.rdrop (climb parts) := by
  induction parts generalizing one other with
  | nil => rw [climb, List.rdrop_zero, List.rdrop_zero, List.foldl_nil, List.foldl_nil]
  | cons part rest ih =>
      rw [List.foldl_cons, List.foldl_cons, ih, climb]
      by_cases hup : part = ".."
      · have hdrop : ∀ place : Location, (step place part).rdrop (climb rest) = place.rdrop (climb rest + 1) := by
          intro place
          rw [step, if_pos hup, List.rdrop, List.rdrop, List.length_dropLast, List.dropLast_eq_take,
            List.take_take]
          congr 1
          omega
        rw [if_pos hup, hdrop, hdrop]
      · have hname : ∀ place : Location, step place part = place ++ [part] := fun place => if_neg hup
        rw [if_neg hup, hname, hname]
        cases climb rest with
        | zero => simp
        | succ count => simp [List.rdrop_concat_succ]

theorem nominal_eq_iff : nominal one path = nominal other path ↔
    path.isAbsolute = true ∨ one.rdrop (climb path.parts) = other.rdrop (climb path.parts) := by
  rw [nominal, nominal]
  by_cases habsolute : path.isAbsolute = true
  · simp [habsolute]
  · rw [if_neg habsolute, if_neg habsolute, foldl_step_eq_iff, or_iff_right habsolute]

end Files

theorem signedText_ne_of_mem {text : String} {c : Char} (hsign : c ≠ '-') (hdigit : isAsciiDigit c = false)
    (hc : c ∈ text.toList) (n : Int) : signedText n ≠ text := by
  rintro rfl
  have hnot : c ∉ digitChars n.natAbs := fun hmem => by
    simp [isAsciiDigit_of_mem_digitChars hmem] at hdigit
  rw [signedText, String.toList_ofList] at hc
  split at hc
  · rcases List.mem_cons.mp hc with hminus | hmem
    · exact hsign hminus
    · exact hnot hmem
  · exact hnot hc

namespace Pipeline

open Files

variable {settings : Settings}

/-- The word that follows an option. -/
def valueOf? (option : String) : List String → Option String
  | word :: value :: rest => if word = option then some value else valueOf? option (value :: rest)
  | _ => none

/-- The first word that follows an option in some steps, as a path. -/
def pathAfter? (option : String) (steps : List Step) : Option Path :=
  (steps.findSome? fun step => valueOf? option step.argv).map Path.ofText

/-- Where the commands are told to write the report. One engine is told the file, the other one the directory, in
which it chooses the name itself. -/
def target? (settings : Settings) : Option Path :=
  match settings.engine with
  | .llvmCov => pathAfter? "--output-path" (steps settings)
  | .tarpaulin => (pathAfter? "--output-dir" (steps settings)).map fun directory => directory.child "cobertura.xml"

/-- The commands are told the path of the report as the gate has it. -/
theorem target?_eq (h : settings.engine = .tarpaulin → settings.reportPath.getD "" = "") :
    target? settings = some settings.paths.report := by
  rw [target?]
  cases hengine : settings.engine with
  | llvmCov =>
      have hargument : pathAfter? "--output-path" (steps settings) =
          some (Path.ofText settings.paths.report.text) := by
        rw [steps, hengine]
        rfl
      exact hargument.trans (congrArg some (Path.ofText_text settings.isReadable_paths_report))
  | tarpaulin =>
      have houtput : settings.paths.outputDir.IsReadable :=
        (Path.isReadable_ofText _).join (Path.isReadable_ofText _)
      have htimeout : signedText settings.coverageTimeout ≠ "--output-dir" :=
        signedText_ne_of_mem (show 'o' ≠ '-' by decide) (by decide) (by decide) _
      have hargument : pathAfter? "--output-dir" (steps settings) = some settings.paths.outputDir := by
        rw [steps, hengine, ← Path.ofText_text houtput]
        simp [pathAfter?, buildSteps, buildStep, tarpaulinSteps, valueOf?, htimeout, Path.ofText_text houtput]
      have hreport : settings.paths.report = settings.paths.outputDir.child "cobertura.xml" := by
        rw [Settings.paths_report_of_default (h hengine), hengine]
        rfl
      simp only
      rw [hargument, hreport]
      rfl

/-- The commands write the report where the gate looks for it just when its path is absolute, or when the project
directory and the place where the gate runs are the same as far as the path does not lead above both. -/
theorem target_eq_report_iff (settings : Settings) (home : Location)
    (h : settings.engine = .tarpaulin → settings.reportPath.getD "" = "") :
    ∃ target, target? settings = some target ∧
      (nominal (nominal home settings.paths.projectDir) target = nominal home settings.paths.report ↔
        settings.paths.report.isAbsolute = true ∨
          (nominal home settings.paths.projectDir).rdrop (climb settings.paths.report.parts) =
            home.rdrop (climb settings.paths.report.parts)) :=
  ⟨settings.paths.report, target?_eq h, nominal_eq_iff⟩

theorem target_eq_report_iff_of_relative_project :
    let settings : Settings :=
      ⟨20, .zero, .llvmCov, "work", "coverage", none, none, 300, .always, false, "INFO"⟩
    ∃ target, target? settings = some target ∧
      nominal (nominal ["home"] settings.paths.projectDir) target ≠
        nominal ["home"] settings.paths.report := by
  intro settings
  obtain ⟨target, htarget, hiff⟩ := target_eq_report_iff settings ["home"] (by decide)
  exact ⟨target, htarget, fun hsame => absurd (hiff.mp hsame) (by decide)⟩

end Pipeline

end Gatekeeper
