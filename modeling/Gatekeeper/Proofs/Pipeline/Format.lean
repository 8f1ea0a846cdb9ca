import Gatekeeper.Proofs.Pipeline.Target
import Gatekeeper.Proofs.Report.Range

/-! The format of the report. The commands are asked for it in their words, and the gate guesses it from the end of
the path. Unless a path of its own is given, the report has the name that goes with the engine, in whatever
directory it lies, and the two formats are one. -/

namespace Gatekeeper

open Number

/-- The format in which an engine writes. -/
def Engine.format : Engine → ReportFormat
  | .tarpaulin => .cobertura
  | .llvmCov => .lcov

namespace ReportFormat

/-- Directories have no say in the format of a file. -/
theorem ofPath_congr {path other : Path} (h : path.name = other.name) : ofPath path = ofPath other := by
  unfold ofPath Path.suffix
  rw [h]

theorem ofPath_child_reportName (directory : Path) (engine : Engine) :
    ofPath (directory.child engine.reportName) = engine.format := by
  have hname : (directory.child engine.reportName).name = Path.name ⟨.relative, [engine.reportName]⟩ :=
    Path.name_child directory engine.reportName
  rw [ofPath_congr hname]
  cases engine <;> decide

end ReportFormat

namespace Pipeline

variable {settings : Settings}

/-- The format that the words of a command ask for. -/
def formatIn? (argv : List String) : Option ReportFormat :=
  if valueOf? "--out" argv = some "xml" then some .cobertura
  else if "--lcov" ∈ argv then some .lcov
  else none

/-- The format that the commands ask for. -/
def askedFormat? (settings : Settings) : Option ReportFormat :=
  (steps settings).findSome? fun step => formatIn? step.argv

/-- Whatever the paths of the settings are, no command takes them for words that ask for another format. -/
theorem askedFormat?_eq (settings : Settings) : askedFormat? settings = some settings.engine.format := by
  have hbuild : buildSteps.findSome? (fun step => formatIn? step.argv) = none := by decide +kernel
  unfold askedFormat? steps
  cases hengine : settings.engine with
  | tarpaulin =>
      have htimeout : signedText settings.coverageTimeout ≠ "--out" :=
        signedText_ne_of_mem (show 'o' ≠ '-' by decide) (by decide) (by decide) _
      simp only [List.findSome?_append, hbuild]
      simp [tarpaulinSteps, formatIn?, valueOf?, htimeout, Engine.format]
  | llvmCov =>
      simp only [List.findSome?_append, hbuild]
      have hclean : formatIn? ["cargo", "llvm-cov", "clean", "--workspace"] = none := by decide +kernel
      have hmeasure : formatIn? ["cargo", "llvm-cov", "--workspace", "--all-targets", "--no-report"] = none := by
        decide +kernel
      have hexport (text : String) : formatIn? ["cargo", "llvm-cov", "report", "--lcov", "--output-path", text,
          "--ignore-filename-regex", ignoredFiles] = some .lcov := by
        by_cases htext : text = "--out"
        · subst htext
          decide +kernel
        · simp [formatIn?, valueOf?, htext]
      simp only [llvmCovSteps, llvmCovStep, List.findSome?_cons, hclean, hmeasure, hexport]
      rfl

end Pipeline

namespace Settings

variable {settings : Settings}

/-- Unless the report has a path of its own, its path shows the format in which the engine writes, and so does the
path that is read back from its text. This is the format that the commands ask for, and the one in which the gate
reads what stands at the path. -/
theorem format_of_default (h : settings.reportPath.getD "" = "") :
    ReportFormat.ofPath settings.paths.report = settings.engine.format ∧
    ReportFormat.ofPath (Path.ofText settings.paths.report.text) = settings.engine.format ∧
    Pipeline.askedFormat? settings = some settings.engine.format ∧
    ∀ disk bytes, Files.content? disk settings.paths.report = some bytes →
      Report.read disk settings.paths.report "" =
        Report.ofBytes settings.paths.report settings.engine.format bytes := by
  have hformat : ReportFormat.ofPath settings.paths.report = settings.engine.format := by
    rw [paths_report_of_default h]
    exact ReportFormat.ofPath_child_reportName _ _
  refine ⟨hformat, ?_, Pipeline.askedFormat?_eq settings, fun disk bytes hcontent => ?_⟩
  · rwa [Path.ofText_text settings.isReadable_paths_report]
  · rw [Report.read_of_content?_eq_some hcontent, ReportFormat.resolve, if_pos (by decide), hformat]

/-- The directories have dots and suffixes of their own, and the output directory could be taken for an option. -/
theorem format_of_default_of_suffixed :
    let settings : Settings :=
      ⟨20, .zero, .tarpaulin, "//a.info/../b.lcov/", "./--lcov//x.info/.", some "", none, 300, .always, false, "INFO"⟩
    settings.paths.report.text = "//a.info/../b.lcov/--lcov/x.info/cobertura.xml" ∧
      ReportFormat.ofPath settings.paths.report = .cobertura ∧
      ReportFormat.ofPath (Path.ofText settings.paths.report.text) = .cobertura ∧
      Pipeline.askedFormat? settings = some .cobertura := by
  intro settings
  obtain ⟨hpath, hread, hasked, -⟩ := format_of_default (show settings.reportPath.getD "" = "" by decide)
  exact ⟨by decide +kernel, hpath, hread, hasked⟩

end Settings

end Gatekeeper
