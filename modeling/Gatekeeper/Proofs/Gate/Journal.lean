import Gatekeeper.Proofs.Files.Numbered
import Gatekeeper.Proofs.Gate.Activity
import Gatekeeper.Proofs.Gate.Effect

/-! The log of a run that writes it to the console and perhaps to a file. Every record that is severe enough comes to
either of them as one line, in the order of the records. Nothing else comes there, as long as the file is none that the
run writes or removes itself; and any other location is left alone by the log. This holds however the run ends. -/

namespace Gatekeeper

open Work Disk Files Text

/-- The lines of the records that are severe enough, in their order. -/
def Record.lines (threshold : Nat) (entries : List Record) : String :=
  String.join ((entries.filter fun entry => threshold ≤ entry.level.severity).map Record.line)

namespace Record

theorem lines_nil (threshold : Nat) : lines threshold [] = "" :=
  rfl

theorem lines_append (threshold : Nat) (first second : List Record) :
    lines threshold (first ++ second) = lines threshold first ++ lines threshold second := by
  rw [lines, List.filter_append, List.map_append, String.join_append]
  rfl

theorem lines_singleton (threshold : Nat) (entry : Record) :
    lines threshold [entry] = if entry.level.severity < threshold then "" else entry.line := by
  by_cases hsevere : entry.level.severity < threshold
  · simp [lines, hsevere]
  · simp [lines, hsevere, not_lt.mp hsevere]

end Record

theorem Text.encodeUtf8_append (first second : String) :
    encodeUtf8 (first ++ second) = encodeUtf8 first ++ encodeUtf8 second := by
  simp [encodeUtf8]

/-- Where the lines go while a run is logged: to the console, and then to a file if there is one. -/
def Logging.toConsole (threshold : Nat) (file? : Option Nat) : Logging :=
  ⟨threshold, .console :: (file?.map Sink.file).toList⟩

/-- What is left of a node when bytes are added to the file of a number, if there is one. -/
def Node.extended (file? : Option Nat) (more : List UInt8) (node : Node) : Node :=
  match file? with
  | some id => node.grown id more
  | none => node

theorem Node.map_extended_none (more : List UInt8) (found : Option Node) : found.map (extended none more) = found := by
  cases found <;> rfl

theorem Node.extended_nil (file? : Option Nat) (node : Node) : node.extended file? [] = node := by
  cases file? with
  | none => rfl
  | some id => cases node <;> simp [extended, grown]

theorem Node.extended_extended (file? : Option Nat) (first second : List UInt8) (node : Node) :
    (node.extended file? first).extended file? second = node.extended file? (first ++ second) := by
  cases file? with
  | none => rfl
  | some id =>
      cases node with
      | directory => rfl
      | file other executable bytes =>
          by_cases hother : other = id
          · simp [extended, grown, hother]
          · simp [extended, grown, hother]

namespace Disk

/-- A location changes by no more than that bytes are added to an open file, or that a directory is made. -/
def Grows (file? : Option Nat) (more : List UInt8) (before after : Option Node) : Prop :=
  Stays (before.map (Node.extended file? more)) after

theorem Grows.of_stays {file? : Option Nat} {before after : Option Node} (h : Stays before after) :
    Grows file? [] before after := by
  have hsame : before.map (Node.extended file? []) = before := by
    cases before <;> simp [Node.extended_nil]
  rwa [Grows, hsame]

theorem Grows.append {file? : Option Nat} {first second : List UInt8} {before middle after : Option Node}
    (hfirst : Grows file? first before middle) (hsecond : Grows file? second middle after) :
    Grows file? (first ++ second) before after := by
  unfold Grows at *
  cases before with
  | none =>
      rcases hfirst with rfl | ⟨-, rfl⟩
      · exact hsecond
      · have hdirectory : Node.directory.extended file? second = .directory := by
          cases file? <;> rfl
        exact .inr ⟨rfl, by simpa [Stays, hdirectory] using hsecond⟩
  | some node =>
      obtain rfl : middle = some (node.extended file? first) := by simpa [Stays] using hfirst
      rwa [Option.map_some, Node.extended_extended] at hsecond

end Disk

namespace World

/-- A location that a run leaves to the log: it holds neither the report nor the stored ratio, and no command of the
script writes a file there or takes it away. -/
structure LeavesToLog (paths : GatePaths) (home place : Location) (world : World) : Prop where
  home_eq : world.disk.home = home
  report : place ≠ nominal home paths.report
  baseline : place ≠ nominal home paths.baseline
  tools : world.tools.Spares home place

/-- Some records were told: their lines have come to the console, and to the file if that is where a location grows. -/
structure Adds (threshold : Nat) (file? : Option Nat) (paths : GatePaths) (home place : Location)
    (entries : List Record) (before after : World) : Prop where
  logging_eq : after.logging = before.logging
  records_eq : after.records = before.records ++ entries
  console_eq : after.console = before.console ++ Record.lines threshold entries
  grows : LeavesToLog paths home place before → LeavesToLog paths home place after ∧
    Grows file? (encodeUtf8 (Record.lines threshold entries)) (before.disk.node? place) (after.disk.node? place)

/-- While the lines go to the console and perhaps to a file, they are all that the log adds. -/
def Writes (threshold : Nat) (file? : Option Nat) (paths : GatePaths) (home place : Location)
    (before after : World) : Prop :=
  before.logging = .toConsole threshold file? → ∃ entries, Adds threshold file? paths home place entries before after

variable {threshold : Nat} {file? : Option Nat} {paths : GatePaths} {home place : Location}
  {before middle after : World}

theorem Adds.append {first second : List Record} (hfirst : Adds threshold file? paths home place first before middle)
    (hsecond : Adds threshold file? paths home place second middle after) :
    Adds threshold file? paths home place (first ++ second) before after where
  logging_eq := hsecond.logging_eq.trans hfirst.logging_eq
  records_eq := by rw [hsecond.records_eq, hfirst.records_eq, List.append_assoc]
  console_eq := by rw [hsecond.console_eq, hfirst.console_eq, Record.lines_append, String.append_assoc]
  grows hleaves := by
    obtain ⟨hmiddle, hgrown⟩ := hfirst.grows hleaves
    obtain ⟨hlast, hgrown'⟩ := hsecond.grows hmiddle
    rw [Record.lines_append, encodeUtf8_append]
    exact ⟨hlast, hgrown.append hgrown'⟩

/-- Work that tells no record is left to what it does at the location. -/
theorem writes_of_silent (hlogging : after.logging = before.logging) (hrecords : after.records = before.records)
    (hconsole : after.console = before.console)
    (hnode : LeavesToLog paths home place before → LeavesToLog paths home place after ∧
      Stays (before.disk.node? place) (after.disk.node? place)) :
    Writes threshold file? paths home place before after := by
  intro _
  refine ⟨[], hlogging, by simpa using hrecords, by simpa [Record.lines_nil] using hconsole, fun hleaves => ?_⟩
  obtain ⟨hlater, hstays⟩ := hnode hleaves
  exact ⟨hlater, .of_stays hstays⟩

/-- What is printed, looked up and visited is not told to the log. -/
theorem writes_of_seen (h : after = { before with
    printed := after.printed, asked := after.asked, phases := after.phases }) :
    Writes threshold file? paths home place before after := by
  rw [h]
  exact writes_of_silent rfl rfl rfl fun hleaves =>
    ⟨⟨hleaves.home_eq, hleaves.report, hleaves.baseline, hleaves.tools⟩, .inl rfl⟩

instance : Std.Refl (Writes threshold file? paths home place) where
  refl _ := writes_of_seen rfl

instance : IsTrans World (Writes threshold file? paths home place) where
  trans _ _ _ hfirst hsecond hlogging := by
    obtain ⟨first, hadds⟩ := hfirst hlogging
    obtain ⟨second, hadds'⟩ := hsecond (hadds.logging_eq.trans hlogging)
    exact ⟨first ++ second, hadds.append hadds'⟩

/-- The line of a record that is severe enough comes to the console once, and once to the file. -/
theorem grows_record {world : World} (hlogging : world.logging = .toConsole threshold file?) (entry : Record) :
    (world.record entry).console = world.console ++ Record.lines threshold [entry] ∧
      (world.record entry).disk.home = world.disk.home ∧
      Grows file? (encodeUtf8 (Record.lines threshold [entry])) (world.disk.node? place)
        ((world.record entry).disk.node? place) := by
  rw [Record.lines_singleton]
  by_cases hsevere : entry.level.severity < threshold
  · have hrecord : world.record entry = { world with records := world.records ++ [entry] } :=
      if_pos (by rwa [hlogging])
    rw [hrecord, if_pos hsevere]
    exact ⟨String.append_empty.symm, rfl, .of_stays (.inl rfl)⟩
  · have hrecord : world.record entry =
        (Logging.toConsole threshold file?).sinks.foldl (writeLine entry.line)
          { world with records := world.records ++ [entry] } := by
      rw [← hlogging]
      exact if_neg (by rwa [hlogging])
    rw [hrecord, if_neg hsevere]
    cases file? with
    | none => exact ⟨rfl, rfl, .inl (Node.map_extended_none _ _).symm⟩
    | some id => exact ⟨rfl, rfl, .inl (node?_append _ _ _ _)⟩

theorem writes_record (world : World) (entry : Record) :
    Writes threshold file? paths home place world (world.record entry) := by
  intro hlogging
  obtain ⟨hconsole, hhome, hgrows⟩ := grows_record hlogging entry
  refine ⟨[entry], record_logging world entry, records_record world entry, hconsole, fun hleaves => ⟨?_, hgrows⟩⟩
  exact ⟨hhome.trans hleaves.home_eq, hleaves.report, hleaves.baseline, record_tools world entry ▸ hleaves.tools⟩

instance : Overlooks (Writes threshold file? paths home place) where
  record world entry _ := writes_record world entry
  print _ _ := writes_of_seen rfl
  reach _ _ := writes_of_seen rfl

end World

namespace Run

open World

variable {threshold : Nat} {file? : Option Nat} {paths : GatePaths} {home place : Location}

theorem disk_finish_command (directory : Path) (argv : List String) (world : World) :
    (finish (command directory argv) world).disk = match world.tools.responses with
      | [] => world.disk
      | response :: _ => finish (placeAll response.writes) world.disk := by
  rw [command, finish_modify_bind, finish_get_bind]
  simp only
  cases world.tools.responses with
  | nil => rfl
  | cons response later =>
      simp only
      rw [finish_modify_bind, finish_bind_pure, finish_files]

theorem writes_files {α : Type} {work : Files α} (h : place ≠ nominal home paths.report →
      place ≠ nominal home paths.baseline → Keeps (Disk.Drifts Stays home place) work) :
    Keeps (Writes threshold file? paths home place) (files work) := by
  intro world
  rw [finish_files]
  refine writes_of_silent rfl rfl rfl fun hleaves => ?_
  obtain ⟨hhome, hstays⟩ := h hleaves.report hleaves.baseline world.disk hleaves.home_eq
  exact ⟨⟨hhome, hleaves.report, hleaves.baseline, hleaves.tools⟩, hstays⟩

/-- A command leaves a location that none of the script touches, and the rest of the script does so too. -/
theorem writes_command (directory : Path) (argv : List String) :
    Keeps (Writes threshold file? paths home place) (command directory argv) := by
  intro world
  have hfinish := finish_command directory argv world
  refine writes_of_silent (by rw [hfinish]) (by rw [hfinish]) (by rw [hfinish]) fun hleaves => ?_
  have htools : (world.tools.after 1).Spares home place := fun response hresponse =>
    hleaves.tools response (List.mem_of_mem_drop hresponse)
  have hdisk : Disk.Drifts Stays home place world.disk (finish (command directory argv) world).disk := by
    rw [disk_finish_command]
    cases hresponses : world.tools.responses with
    | nil => exact Std.Refl.refl _
    | cons response later =>
        refine keeps_placeAll (fun write hwrite => ?_) world.disk
        exact (Content.permits_of_spares (hleaves.tools response (by simp [hresponses]) write hwrite)).fits
  obtain ⟨hhome, hstays⟩ := hdisk hleaves.home_eq
  refine ⟨⟨hhome, hleaves.report, hleaves.baseline, ?_⟩, hstays⟩
  rw [hfinish]
  exact htools

theorem numbers_files {α : Type} {work : Files α} (h : Keeps (Lasts (IsNumbered home)) work) :
    Keeps (Lasts fun world : World => world.disk.IsNumbered home) (files work) := by
  intro world hnumbers
  rw [finish_files]
  exact h world.disk hnumbers

theorem numbers_command (directory : Path) (argv : List String) :
    Keeps (Lasts fun world : World => world.disk.IsNumbered home) (command directory argv) := by
  intro world hnumbers
  rw [disk_finish_command]
  split
  · exact hnumbers
  · exact keepsNumbers_placeAll _ _ hnumbers

end Run

namespace World

variable {home : Location}

theorem isNumbered_foldl_writeLine (line : String) (sinks : List Sink) {world : World}
    (h : world.disk.IsNumbered home) : (sinks.foldl (writeLine line) world).disk.IsNumbered home := by
  induction sinks generalizing world with
  | nil => exact h
  | cons sink rest ih =>
      apply ih
      cases sink with
      | console => exact h
      | file id => exact h.append id _

theorem isNumbered_record {world : World} (h : world.disk.IsNumbered home) (entry : Record) :
    (world.record entry).disk.IsNumbered home := by
  unfold record
  simp only
  split
  · exact h
  · exact isNumbered_foldl_writeLine entry.line _ h

instance : Overlooks (Lasts fun world : World => world.disk.IsNumbered home) where
  record _ entry _ h := isNumbered_record h entry
  print _ _ := id
  reach _ _ := id

end World

namespace Gate

open World

variable {threshold : Nat} {file? : Option Nat} {home place : Location}

/-- However a run ends, all that its log adds are the lines of its records. -/
theorem writes_run (gate : Gate) : Keeps (Writes threshold file? gate.settings.paths home place) gate.run := by
  have hclear : Keeps (Writes threshold file? gate.settings.paths home place)
      (clearReport gate.settings.paths.report) :=
    told_clearReport (Run.writes_files fun _ _ => keeps_pathExists _)
      (Run.writes_files fun hreport _ => keeps_remove (.inl hreport))
      (Run.writes_files fun _ _ => keeps_ensureDirectory _)
  have hsave (ratio : Decimal) : Keeps (Writes threshold file? gate.settings.paths home place)
      (storeNumeral gate.settings.paths.baseline (.finite ratio)) := by
    refine told_storeNumeral fun world => writes_of_silent rfl rfl rfl fun hleaves => ?_
    have hdrifts : Disk.Drifts Stays home place world.disk
        (Baseline.save world.disk gate.settings.paths.baseline (.finite ratio)).2 :=
      Baseline.drifts_save hleaves.baseline world.disk
    obtain ⟨hhome, hstays⟩ := hdrifts hleaves.home_eq
    exact ⟨⟨hhome, hleaves.report, hleaves.baseline, hleaves.tools⟩, hstays⟩
  have hstart : Keeps (Writes threshold file? gate.settings.paths home place) (Run.enter .start) :=
    Keeps.bind (Keeps.modify fun world => Overlooks.reach world .start) fun _ =>
      Keeps.modify fun world => writes_record world _
  have hreach : Keeps (Writes threshold file? gate.settings.paths home place) gate.reachReport.run :=
    told_reachReport (fun _ _ => writes_of_seen rfl) (Run.writes_command _) hclear
  exact told_run (fun _ => writes_of_seen rfl) hstart (told_proceed (told_measure hreach) hsave)

theorem numbers_run (gate : Gate) : Keeps (Lasts fun world : World => world.disk.IsNumbered home) gate.run := by
  have hclear : Keeps (Lasts fun world : World => world.disk.IsNumbered home)
      (clearReport gate.settings.paths.report) :=
    told_clearReport (Run.numbers_files (keepsNumbers_pathExists _)) (Run.numbers_files (keepsNumbers_remove _))
      (Run.numbers_files (keepsNumbers_ensureDirectory _))
  have hstart : Keeps (Lasts fun world : World => world.disk.IsNumbered home) (Run.enter .start) :=
    Keeps.bind (Keeps.modify fun _ => id) fun _ => Keeps.modify fun _ h => isNumbered_record h _
  have hreach : Keeps (Lasts fun world : World => world.disk.IsNumbered home) gate.reachReport.run :=
    told_reachReport (fun _ _ => id) (Run.numbers_command _) hclear
  refine told_run (fun _ => id) hstart (told_proceed (told_measure hreach) fun ratio => ?_)
  exact told_storeNumeral fun world h => Baseline.isNumbered_save h _ _

end Gate

end Gatekeeper
