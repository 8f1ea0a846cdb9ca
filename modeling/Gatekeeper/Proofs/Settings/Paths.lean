import Gatekeeper.Proofs.Files.Written
import Gatekeeper.Proofs.Settings.Origin

/-! Where the files of a gate lie. With a project directory that starts at a root, so do all four paths, and each of
the others depends on the project directory just when the text that it comes from is relative. The paths can be given
as settings again: their texts are read back, and whatever the other settings are, they lead to the same four paths. -/

namespace Gatekeeper

namespace Path

theorem text_ne_empty (path : Path) : path.text ≠ "" := by
  have hbody : ∀ body : String, (if body.isEmpty then "." else body) ≠ "" := by
    intro body
    split
    · decide
    · rename_i hbody
      simpa using hbody
  exact hbody _

theorem isAbsolute_child (path : Path) (name : String) : (path.child name).isAbsolute = path.isAbsolute :=
  rfl

/-- A place that starts at a root, and does so as seen from a relative path only if it is fixed, is the same from
everywhere just when it is fixed. -/
theorem forall_place_eq_iff {base : Path} {place : Path → Path} {isFixed : Bool} (hbase : base.isAbsolute = true)
    (hstart : ∀ project, (place project).isAbsolute = (project.isAbsolute || isFixed))
    (hfixed : isFixed = true → ∀ project, place project = place base) :
    (∀ project, place (.ofText project) = place base) ↔ isFixed = true := by
  refine ⟨fun hsame => ?_, fun h project => hfixed h _⟩
  have hempty := congrArg isAbsolute (hsame "")
  rw [hstart, hstart, hbase, Bool.true_or] at hempty
  simpa [show (ofText "").isAbsolute = false by decide] using hempty

end Path

namespace GatePaths

structure AreAbsolute (paths : GatePaths) : Prop where
  projectDir : paths.projectDir.isAbsolute = true
  outputDir : paths.outputDir.isAbsolute = true
  report : paths.report.isAbsolute = true
  baseline : paths.baseline.isAbsolute = true

/-- The texts of the paths, given as the settings that they come from. -/
def given (paths : GatePaths) : GivenValues := [
  ("project_dir", .text paths.projectDir.text),
  ("output_dir", .text paths.outputDir.text),
  ("report_path", .text paths.report.text),
  ("baseline_path", .text paths.baseline.text)]

end GatePaths

namespace Settings

variable {settings other : Settings} {given : GivenValues} {env : Environment}

/-- The text that a path of a file comes from: its own if one is given, else the one of the output directory. -/
def source (settings : Settings) : Option String → String
  | some own => if own.isEmpty then settings.outputDir else own
  | none => settings.outputDir

/-- Where a file lies as seen from a project: at its own path if one is given, else in the output directory. -/
def located (settings : Settings) (project : Path) (text : Option String) (name : String) : Path :=
  placed project text ((project.join (.ofText settings.outputDir)).child name)

def inProject (settings : Settings) (project : String) : Settings :=
  { settings with projectDir := project }

/-- The settings with the texts of some paths. -/
def withPaths (settings : Settings) (paths : GatePaths) : Settings :=
  { settings with
    projectDir := paths.projectDir.text
    outputDir := paths.outputDir.text
    reportPath := some paths.report.text
    baselinePath := some paths.baseline.text }

theorem paths_report (settings : Settings) : settings.paths.report =
    settings.located (.ofText settings.projectDir) settings.reportPath settings.engine.reportName :=
  rfl

theorem paths_baseline (settings : Settings) : settings.paths.baseline =
    settings.located (.ofText settings.projectDir) settings.baselinePath "baseline.txt" :=
  rfl

theorem paths_report_of_default (h : settings.reportPath.getD "" = "") :
    settings.paths.report = settings.paths.outputDir.child settings.engine.reportName := by
  rw [paths_report]
  unfold located placed
  split
  · rename_i text htext
    have hempty : text.isEmpty = true := by simpa [htext] using h
    rw [if_pos hempty]
    rfl
  · rfl

/-- A file lies at its own path, or by its name in the directory that the source of its path names. -/
theorem located_cases (settings : Settings) (project : Path) (text : Option String) (name : String) :
    settings.located project text name = project.join (.ofText (settings.source text)) ∨
      settings.located project text name = (project.join (.ofText (settings.source text))).child name := by
  unfold located placed source
  cases text with
  | none => exact .inr rfl
  | some own => cases hempty : own.isEmpty <;> simp [hempty]

theorem isAbsolute_located (settings : Settings) (project : Path) (text : Option String) (name : String) :
    (settings.located project text name).isAbsolute =
      (project.isAbsolute || (Path.ofText (settings.source text)).isAbsolute) := by
  rcases settings.located_cases project text name with hown | hdefault
  · rw [hown, Path.isAbsolute_join]
  · rw [hdefault, Path.isAbsolute_child, Path.isAbsolute_join]

theorem isReadable_located {project : Path} (h : project.IsReadable) (text : Option String) {name : String}
    (hname : Path.IsName name) : (settings.located project text name).IsReadable := by
  have hsource : (project.join (.ofText (settings.source text))).IsReadable := h.join (Path.isReadable_ofText _)
  rcases settings.located_cases project text name with hown | hdefault
  · rwa [hown]
  · rw [hdefault]
    exact hsource.child hname

/-- A file with an absolute source lies at the same place as seen from every project. -/
theorem located_congr {text : Option String} (h : (Path.ofText (settings.source text)).isAbsolute = true)
    (project project' : Path) (name : String) :
    settings.located project text name = settings.located project' text name := by
  have hjoin (base : Path) : base.join (.ofText (settings.source text)) = .ofText (settings.source text) :=
    Path.join_of_isAbsolute h base
  unfold located placed source at *
  cases text with
  | none => simp [hjoin]
  | some own => cases hempty : own.isEmpty <;> simp_all

theorem areAbsolute_paths (h : (Path.ofText settings.projectDir).isAbsolute = true) :
    settings.paths.AreAbsolute where
  projectDir := h
  outputDir := by simp [paths, Path.isAbsolute_join, h]
  report := by rw [paths_report, isAbsolute_located, h, Bool.true_or]
  baseline := by rw [paths_baseline, isAbsolute_located, h, Bool.true_or]

theorem isReadable_paths_report (settings : Settings) : settings.paths.report.IsReadable :=
  isReadable_located (Path.isReadable_ofText _) _ (by cases settings.engine <;> decide)

theorem isReadable_paths_baseline (settings : Settings) : settings.paths.baseline.IsReadable :=
  isReadable_located (Path.isReadable_ofText _) _ (by decide)

theorem placed_text {project path : Path} (habsolute : path.isAbsolute = true) (hreadable : path.IsReadable)
    (otherwise : Path) : placed project (some path.text) otherwise = path := by
  have hgiven : path.text.isEmpty = false := by simpa using path.text_ne_empty
  simp [placed, hgiven, Path.ofText_text hreadable, Path.join_of_isAbsolute habsolute]

/-- Paths that are all absolute are the same when they are given as settings. -/
theorem paths_withPaths (h : (Path.ofText settings.projectDir).isAbsolute = true) (other : Settings) :
    (other.withPaths settings.paths).paths = settings.paths := by
  obtain ⟨hproject, houtput, hreport, hbaseline⟩ := areAbsolute_paths h
  have hprojectText : Path.ofText settings.paths.projectDir.text = settings.paths.projectDir :=
    Path.ofText_text (Path.isReadable_ofText _)
  have houtputText : Path.ofText settings.paths.outputDir.text = settings.paths.outputDir :=
    Path.ofText_text ((Path.isReadable_ofText _).join (Path.isReadable_ofText _))
  have hreportPlace (project otherwise : Path) :
      placed project (some settings.paths.report.text) otherwise = settings.paths.report :=
    placed_text hreport settings.isReadable_paths_report otherwise
  have hbaselinePlace (project otherwise : Path) :
      placed project (some settings.paths.baseline.text) otherwise = settings.paths.baseline :=
    placed_text hbaseline settings.isReadable_paths_baseline otherwise
  generalize settings.paths = resolved at *
  simp [paths, withPaths, hprojectText, houtputText, hreportPlace, hbaselinePlace, Path.join_of_isAbsolute houtput]

/-- In settings that were made, the paths can be made of other values. -/
theorem seq_withPaths {minimum timeout : Validated Int} {drop : Validated Binary64} {engine : Validated Engine}
    {project output level : Validated String} {report baseline : Validated (Option String)}
    {policy : Validated BaselinePolicy} {skip : Validated Bool}
    (h : Settings.mk <$> minimum <*> drop <*> engine <*> project <*> output <*> report <*> baseline <*> timeout <*>
      policy <*> skip <*> level = .accepted settings) (paths : GatePaths) :
    Settings.mk <$> minimum <*> drop <*> engine <*> .accepted paths.projectDir.text <*>
      .accepted paths.outputDir.text <*> .accepted (some paths.report.text) <*>
      .accepted (some paths.baseline.text) <*> timeout <*> policy <*> skip <*> level =
        .accepted (settings.withPaths paths) := by
  simp only [Checked.seq_eq_accepted_iff, Checked.map_eq_accepted_iff] at h
  obtain ⟨_, _, ⟨_, _, ⟨_, _, ⟨_, _, ⟨_, _, ⟨_, _, ⟨_, _, ⟨_, _, ⟨_, _, ⟨_, _, ⟨_, rfl, rfl⟩, rfl, rfl⟩, rfl, rfl⟩,
    rfl, rfl⟩, rfl, rfl⟩, rfl, rfl⟩, rfl, rfl⟩, rfl, rfl⟩, rfl, rfl⟩, rfl, rfl⟩, rfl, rfl⟩ := h
  rfl

theorem take_append {α : Type} {first : GivenValues} {setting : String} (h : first.lookup setting = none)
    (given : GivenValues) (fromGiven : Given → Except Complaint α) (otherwise : Except EnvironmentError α) :
    take (first ++ given) setting fromGiven otherwise = take given setting fromGiven otherwise := by
  rw [take, take, List.lookup_append, h, Option.none_or]

theorem takeChoice_append {α : Type} {first : GivenValues} {setting : String} (h : first.lookup setting = none)
    (given : GivenValues) (choices : List String) (ofName? : String → Option α) (otherwise : α) :
    takeChoice (first ++ given) setting choices ofName? otherwise =
      takeChoice given setting choices ofName? otherwise := by
  rw [takeChoice, takeChoice, List.lookup_append, h, Option.none_or]

theorem take_append_of_lookup {α : Type} {first : GivenValues} {setting : String} {raw : Given} {value : α}
    {fromGiven : Given → Except Complaint α} (h : first.lookup setting = some raw) (hraw : fromGiven raw = .ok value)
    (given : GivenValues) (otherwise : Except EnvironmentError α) :
    take (first ++ given) setting fromGiven otherwise = .accepted value := by
  rw [take_eq_accepted_iff, List.lookup_append, h, Option.some_or]
  exact .inl ⟨raw, rfl, hraw⟩

/-- Paths that are given before other values take the place of the paths that these lead to, and of nothing else. -/
theorem make_given_append [Coercions] (h : make given env = .ok other) (paths : GatePaths) :
    make (paths.given ++ given) env = .ok (other.withPaths paths) := by
  have hvalid := validate_of_make_eq_ok h
  have hproject (fallback : Except EnvironmentError String) : take (paths.given ++ given) "project_dir" Given.toText
      fallback = .accepted paths.projectDir.text := take_append_of_lookup (by rfl) (by rfl) given fallback
  have houtput (fallback : Except EnvironmentError String) : take (paths.given ++ given) "output_dir" Given.toText
      fallback = .accepted paths.outputDir.text := take_append_of_lookup (by rfl) (by rfl) given fallback
  have hreport (fallback : Except EnvironmentError (Option String)) : take (paths.given ++ given) "report_path"
      Given.toOptionalText fallback = .accepted (some paths.report.text) := take_append_of_lookup (by rfl) (by rfl) given fallback
  have hbaseline (fallback : Except EnvironmentError (Option String)) :
      take (paths.given ++ given) "baseline_path" Given.toOptionalText fallback =
        .accepted (some paths.baseline.text) := take_append_of_lookup (by rfl) (by rfl) given fallback
  have htaken : validate (paths.given ++ given) env = .accepted (other.withPaths paths) := by
    rw [validate, hproject, houtput, hreport, hbaseline]
    rw [take_append rfl, take_append rfl, takeChoice_append rfl, take_append rfl, takeChoice_append rfl,
      take_append rfl, take_append rfl]
    exact seq_withPaths hvalid paths
  unfold make
  rw [htaken]

/-- With a project directory that starts at a root all paths do. The output directory, the report and the stored ratio
are then independent of the project directory just when the text that the path comes from starts at a root itself. And
the four paths, given as texts before the values of any settings, lead to the same four paths. -/
theorem paths_stable [Coercions] (h : (Path.ofText settings.projectDir).isAbsolute = true) :
    settings.paths.AreAbsolute ∧
    ((∀ project, (settings.inProject project).paths.outputDir = settings.paths.outputDir) ↔
      (Path.ofText settings.outputDir).isAbsolute = true) ∧
    ((∀ project, (settings.inProject project).paths.report = settings.paths.report) ↔
      (Path.ofText (settings.source settings.reportPath)).isAbsolute = true) ∧
    ((∀ project, (settings.inProject project).paths.baseline = settings.paths.baseline) ↔
      (Path.ofText (settings.source settings.baselinePath)).isAbsolute = true) ∧
    ∀ given env other, make given env = .ok other →
      ∃ again, make (settings.paths.given ++ given) env = .ok again ∧ again.paths = settings.paths := by
  refine ⟨areAbsolute_paths h, ?_, ?_, ?_, ?_⟩
  · have houtput : (Path.ofText settings.outputDir).isAbsolute = true → ∀ project : Path,
        project.join (.ofText settings.outputDir) = settings.paths.outputDir := by
      intro habsolute project
      rw [paths, Path.join_of_isAbsolute habsolute, Path.join_of_isAbsolute habsolute]
    exact Path.forall_place_eq_iff h (fun project => Path.isAbsolute_join project (.ofText settings.outputDir)) houtput
  · exact Path.forall_place_eq_iff h (fun _ => isAbsolute_located _ _ settings.reportPath _)
      fun hsource project => located_congr hsource project _ settings.engine.reportName
  · exact Path.forall_place_eq_iff h (fun _ => isAbsolute_located _ _ settings.baselinePath _)
      fun hsource project => located_congr hsource project _ "baseline.txt"
  · intro given env other hmake
    exact ⟨other.withPaths settings.paths, make_given_append hmake settings.paths, paths_withPaths h other⟩

/-- The project directory has two slashes in front, the report no path of its own, and the stored ratio an absolute
one. -/
theorem paths_stable_of_double_root :
    let settings : Settings :=
      ⟨20, .zero, .llvmCov, "//srv/./app/", "out/../cov", some "", some "/var//base.txt", 300, .always, true, "INFO"⟩
    settings.paths.AreAbsolute ∧ settings.paths.report.text = "//srv/app/out/../cov/lcov.info" ∧
      (∀ project, (settings.inProject project).paths.baseline = settings.paths.baseline) ∧
      (¬∀ project, (settings.inProject project).paths.report = settings.paths.report) ∧
      ∃ again, make (settings.paths.given ++ [("engine", .text "llvm-cov")]) [] = .ok again ∧
        again.paths = settings.paths := by
  intro settings
  obtain ⟨habsolute, -, hreport, hbaseline, hagain⟩ :=
    paths_stable (show (Path.ofText settings.projectDir).isAbsolute = true by decide)
  have hmade : (make [("engine", .text "llvm-cov")] []).toOption.isSome = true := by decide +kernel
  cases hmake : make [("engine", .text "llvm-cov")] [] with
  | error cause =>
      rw [hmake] at hmade
      cases hmade
  | ok other =>
      refine ⟨habsolute, by decide +kernel, hbaseline.mpr (by decide), ?_, hagain _ _ _ hmake⟩
      rw [hreport]
      decide

end Settings

end Gatekeeper
