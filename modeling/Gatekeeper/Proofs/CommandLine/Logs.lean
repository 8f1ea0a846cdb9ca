import Gatekeeper.Proofs.CommandLine.Answer
import Gatekeeper.Proofs.Gate.History
import Gatekeeper.Proofs.Gate.Journal

/-! The logs of several calls in one process. Each call directs its lines anew, also after a call that failed while it
did so; so the lines of a call come to the console and to the log file that it names, once and in order, and to no other
log file. What is in a log file in the end is what was in it, and the lines of the calls that named it. -/

namespace Gatekeeper

open Work Disk Files Text CommandLine

namespace Disk

variable {home place : Location} {before after : Disk}

/-- The bytes of what stands somewhere; only a file has some. -/
def bytesOf : Option Node → List UInt8
  | some (.file _ _ bytes) => bytes
  | _ => []

def content (disk : Disk) (place : Location) : List UInt8 :=
  bytesOf (disk.node? place)

/-- No file has another content; an empty one may be new, as may a directory. -/
structure SameContents (home : Location) (before after : Disk) : Prop where
  isNumbered : before.IsNumbered home → after.IsNumbered home
  content_eq (place : Location) : after.content place = before.content place

instance : Std.Refl (SameContents home) where
  refl _ := ⟨id, fun _ => rfl⟩

instance : IsTrans Disk (SameContents home) where
  trans _ _ _ hfirst hsecond :=
    ⟨hsecond.isNumbered ∘ hfirst.isNumbered, fun place => (hsecond.content_eq place).trans (hfirst.content_eq place)⟩

/-- What comes to stand without any bytes where nothing stood changes no content. -/
theorem content_put {disk : Disk} {target : Location} {node : Node} (hnone : disk.node? target = none)
    (hnode : bytesOf (some node) = []) (place : Location) :
    (disk.put target node).content place = disk.content place := by
  unfold content
  by_cases hplace : place = target
  · rw [hplace, node?_put_self, hnone, hnode]
    rfl
  · rw [node?_put_of_ne hplace]

/-- The content of a location grows by the bytes that are added to an open file just when that is the file there. -/
theorem content_of_grows {file? : Option Nat} {more : List UInt8}
    (h : Grows file? more (before.node? place) (after.node? place)) :
    after.content place = before.content place ++
      if ∃ id, file? = some id ∧ before.number? place = some id then more else [] := by
  have hbytes : after.content place = bytesOf ((before.node? place).map (Node.extended file? more)) := by
    unfold content
    rcases h with hsame | ⟨hnone, hdirectory⟩
    · rw [hsame]
    · rw [hnone, hdirectory]
      rfl
  rw [hbytes, content, number?]
  cases before.node? place with
  | none => simp [bytesOf]
  | some node =>
      cases node with
      | directory => cases file? <;> simp [bytesOf, Node.extended, Node.grown, Node.number?]
      | file id executable bytes =>
          cases file? with
          | none => simp [bytesOf, Node.extended]
          | some opened =>
              by_cases hid : id = opened <;> simp [bytesOf, Node.extended, Node.grown, Node.number?, hid]

end Disk

namespace Files

variable {home : Location}

theorem sameContents_makeDirectory (path : Path) : Keeps (SameContents home) (makeDirectory path) :=
  keeps_makeDirectory_of fun _ _ _ hnone => ⟨fun h => h.put nofun, content_put hnone rfl⟩

theorem sameContents_ensureDirectory (path : Path) : Keeps (SameContents home) (ensureDirectory path) :=
  keeps_ensureDirectory_of_makeDirectory sameContents_makeDirectory path

theorem sameContents_openAppend (path : Path) : Keeps (SameContents home) (openAppend path) := by
  apply keeps_resolveAbsolute_bind
  intro disk
  rw [finish_get_bind]
  split
  · exact Std.Refl.refl disk
  · exact Std.Refl.refl disk
  · rename_i hnone
    exact ⟨fun h => h.create _ false [], content_put hnone rfl⟩

/-- The file that is opened is the one at the location that the path names. -/
theorem number?_of_openAppend_eq_ok {path : Path} {disk after : Disk} {id : Nat}
    (h : (openAppend path).run disk = .ok id after) : after.number? (nominal disk.home path) = some id := by
  rw [openAppend, EStateM.run_bind, run_resolveAbsolute] at h
  cases hlocate : locate disk (absolute disk.home path) with
  | error cause =>
      rw [hlocate] at h
      cases h
  | ok _ =>
      rw [hlocate] at h
      simp only [EStateM.run_bind, EStateM.run_get] at h
      split at h
      · rename_i hfile
        cases h
        exact number?_of_node? hfile
      · cases h
      · cases h
        exact number?_of_node? (node?_create_self disk _ false [])

end Files

namespace CommandLine

/-- The name of a log file, unless it is empty. -/
def logName? (options : Options) : Option String :=
  options.logFile.filter fun name => !name.isEmpty

def logPlace? (home : Location) (options : Options) : Option Location :=
  (logName? options).map fun name => nominal home (Path.ofText name)

/-- The log is opened: nothing has happened but that lines go to the console and to the file of a number. -/
structure Opens (home : Location) (before after : World) : Prop where
  only : World.OnlyOpens before after
  disk : SameContents home before.disk after.disk

instance (home : Location) : Std.Refl (Opens home) where
  refl _ := ⟨rfl, Std.Refl.refl _⟩

instance (home : Location) : IsTrans World (Opens home) where
  trans _ _ _ hfirst hsecond :=
    ⟨IsTrans.trans _ _ _ hfirst.only hsecond.only, IsTrans.trans _ _ _ hfirst.disk hsecond.disk⟩

variable {home : Location}

theorem opens_files {α : Type} {work : Files α} (h : Keeps (SameContents home) work) :
    Keeps (Opens home) (Run.files work) := by
  intro world
  rw [Run.finish_files]
  exact ⟨rfl, h world.disk⟩

/-- Has the lines go to a file as well. -/
def addFile (name : String) : Run Unit := do
  Run.files (ensureDirectory (Path.ofText name).parent)
  let id ← Run.files (openAppend (Path.ofText name))
  modify fun world => { world with logging := { world.logging with sinks := world.logging.sinks ++ [.file id] } }

theorem openLog_eq {level : String} {threshold : Nat} (h : severities.lookup level = some threshold)
    (options : Options) :
    openLog level options.logFile = (do
      modify fun world => { world with logging := .toConsole threshold none }
      match logName? options with
      | none => pure ()
      | some name => addFile name) := by
  unfold openLog logName?
  rw [h]
  cases options.logFile with
  | none => rfl
  | some name =>
      rw [Option.filter_some]
      simp only
      split <;> rfl

theorem opens_addFile (name : String) : Keeps (Opens home) (addFile name) := by
  refine Keeps.bind (opens_files (sameContents_ensureDirectory _)) fun _ => ?_
  refine Keeps.bind (opens_files (sameContents_openAppend _)) fun id => ?_
  exact Keeps.modify fun _ => ⟨rfl, Std.Refl.refl _⟩

theorem opens_openLog (level : String) (options : Options) : Keeps (Opens home) (openLog level options.logFile) := by
  cases hlevel : severities.lookup level with
  | none =>
      unfold openLog
      rw [hlevel]
      exact Keeps.throw _
  | some threshold =>
      rw [openLog_eq hlevel]
      refine Keeps.bind (Keeps.modify fun _ => ⟨rfl, Std.Refl.refl _⟩) fun _ => ?_
      cases logName? options with
      | none => exact Keeps.pure _
      | some name => exact opens_addFile name

theorem of_addFile_eq_ok {name : String} {threshold : Nat} {world opened : World}
    (hnumbers : world.disk.IsNumbered home) (hlogging : world.logging = .toConsole threshold none)
    (h : (addFile name).run world = .ok () opened) :
    ∃ id, opened.logging = .toConsole threshold (some id) ∧
      opened.disk.number? (nominal home (Path.ofText name)) = some id := by
  obtain ⟨_, made, hmade, h⟩ := of_bind_eq_ok h
  obtain ⟨id, ready, hready, h⟩ := of_bind_eq_ok h
  obtain ⟨disk, hensured, rfl⟩ := Run.of_files_eq_ok hmade
  obtain ⟨disk', hid, rfl⟩ := Run.of_files_eq_ok hready
  cases h
  have hhome : disk.home = home := (((sameContents_ensureDirectory _).ofOk hensured).isNumbered hnumbers).home_eq
  refine ⟨id, ?_, hhome ▸ number?_of_openAppend_eq_ok hid⟩
  show Logging.mk world.logging.threshold (world.logging.sinks ++ [.file id]) = _
  rw [hlogging]
  rfl

/-- A log that could be opened has all lines go to the console, and to the file that is named, if one is. -/
theorem of_openLog_eq_ok {level : String} {options : Options} {world opened : World}
    (hnumbers : world.disk.IsNumbered home) (h : (openLog level options.logFile).run world = .ok () opened) :
    ∃ threshold file?, severities.lookup level = some threshold ∧ opened.logging = .toConsole threshold file? ∧
      ∀ place, (∃ id, file? = some id ∧ opened.disk.number? place = some id) ↔ logPlace? home options = some place := by
  have hopened : opened.disk.IsNumbered home := ((opens_openLog level options).ofOk h).disk.isNumbered hnumbers
  cases hlevel : severities.lookup level with
  | none =>
      unfold openLog at h
      rw [hlevel] at h
      cases h
  | some threshold =>
      rw [openLog_eq hlevel] at h
      obtain ⟨_, directed, hdirected, h⟩ := of_bind_eq_ok h
      have hlogging : directed.logging = .toConsole threshold none := by
        cases hdirected
        rfl
      have hdisk : directed.disk.IsNumbered home := by
        cases hdirected
        exact hnumbers
      cases hname : logName? options with
      | none =>
          rw [hname] at h
          cases h
          exact ⟨threshold, none, rfl, hlogging, by simp [logPlace?, hname]⟩
      | some name =>
          rw [hname] at h
          obtain ⟨id, hlogging, hnumber⟩ := of_addFile_eq_ok hdisk hlogging h
          refine ⟨threshold, some id, rfl, hlogging, fun place => ?_⟩
          rw [logPlace?, hname, Option.map_some, Option.some.injEq]
          -- no other location has the number of the file
          constructor
          · rintro ⟨_, ⟨⟩, hsame⟩
            exact hopened.place_eq hnumber hsame
          · rintro rfl
            exact ⟨id, rfl, hnumber⟩

end CommandLine

/-- One call: its words, the environment in which it is made, and the tools that it finds. -/
structure Invocation where
  env : Environment
  words : List String
  tools : Toolchain

namespace Invocation

variable [Coercions]

def answer (call : Invocation) : Answer :=
  CommandLine.answer call.env call.words

def complaint (call : Invocation) : String :=
  match call.answer with
  | .refusal complaint => complaint
  | _ => ""

/-- The least severity of the lines of a call: that of its level, and warnings where its level sets none. -/
def threshold (call : Invocation) : Nat :=
  match call.answer with
  | .run _ settings => (severities.lookup settings.logLevel).getD 0
  | _ => 0

/-- The location of the log file that a call names, if it names one and is not refused. -/
def logPlace? (home : Location) (call : Invocation) : Option Location :=
  match call.answer with
  | .run options _ => CommandLine.logPlace? home options
  | _ => none

/-- Where the files of a call lie, if it runs the gate. -/
def paths? (call : Invocation) : Option GatePaths :=
  match call.answer with
  | .run _ settings => some settings.paths
  | _ => none

/-- Whether a call leaves a location to the log: neither its report nor its stored ratio is there, and none of its
commands writes a file there or takes it away. -/
def LeavesToLog (home place : Location) (call : Invocation) : Prop :=
  ∀ paths ∈ call.paths?, place ≠ nominal home paths.report ∧ place ≠ nominal home paths.baseline ∧
    call.tools.Spares home place

instance (home place : Location) (call : Invocation) : Decidable (call.LeavesToLog home place) :=
  inferInstanceAs (Decidable (∀ paths ∈ call.paths?, _ ∧ _ ∧ _))

end Invocation

namespace World

section

variable [Coercions]

/-- The world after a call; what was done before a failure stays done. -/
def act (world : World) (call : Invocation) : World :=
  finish (CommandLine.call call.env call.words) (world.equip call.tools)

def told (world : World) (call : Invocation) : List Record :=
  (world.act call).records.drop world.records.length

def lines (world : World) (call : Invocation) : String :=
  Record.lines call.threshold (world.told call)

/-- What a call adds to the file at a location, if that is its log file. -/
def adds (home place : Location) (world : World) (call : Invocation) : List UInt8 :=
  if call.logPlace? home = some place then encodeUtf8 (world.lines call) else []

/-- What several calls add to the file at a location, one after the other. -/
def addsAll (home place : Location) : World → List Invocation → List UInt8
  | _, [] => []
  | world, call :: later => world.adds home place call ++ addsAll home place (world.act call) later

/-- A call has told some records: each one that is severe enough is one line on the console, and one line in the log
file of the call. No other location takes part in the log. -/
structure LogsOnce (home : Location) (world : World) (call : Invocation) : Prop where
  records_eq : (world.act call).records = world.records ++ world.told call
  console_eq : (world.act call).console = world.console ++ call.complaint ++ world.lines call
  content_eq (place : Location) : call.LeavesToLog home place →
    (world.act call).disk.content place = world.disk.content place ++ world.adds home place call

variable {home : Location} {world : World} {call : Invocation}

/-- What a call has to do so that it logs once, when it has told some records. -/
theorem logsOnce_of_entries {entries : List Record} (hrecords : (world.act call).records = world.records ++ entries)
    (hconsole : (world.act call).console = world.console ++ call.complaint ++ Record.lines call.threshold entries)
    (hcontent : ∀ place, call.LeavesToLog home place → (world.act call).disk.content place =
      world.disk.content place ++
        if call.logPlace? home = some place then encodeUtf8 (Record.lines call.threshold entries) else []) :
    LogsOnce home world call := by
  have htold : world.told call = entries := by rw [told, hrecords, List.drop_left]
  refine ⟨by rw [htold, hrecords], by rw [lines, htold, hconsole], fun place hplace => ?_⟩
  rw [adds, lines, htold]
  exact hcontent place hplace

/-- A call that tells nothing logs once. -/
theorem logsOnce_of_silent (hrecords : (world.act call).records = world.records)
    (hconsole : (world.act call).console = world.console ++ call.complaint)
    (hcontent : ∀ place, (world.act call).disk.content place = world.disk.content place) :
    LogsOnce home world call := by
  have hnone : (world.act call).records = world.records ++ [] := by rw [hrecords, List.append_nil]
  have hnothing : encodeUtf8 (Record.lines call.threshold []) = [] := rfl
  refine logsOnce_of_entries hnone ?_ fun place _ => ?_
  · rw [Record.lines_nil, String.append_empty, hconsole]
  · rw [hnothing, ite_self, List.append_nil, hcontent]

/-- What is done for the answer to a call. -/
theorem act_eq (world : World) (call : Invocation) :
    world.act call = finish call.answer.perform (world.equip call.tools) := by
  rw [act, call_eq_perform]
  rfl

/-- A call that runs the gate does no more than to try to open the log, or it opens it, and all that follows is the
run. -/
theorem act_of_run {options : Options} {settings : Settings} (h : call.answer = .run options settings) :
    Opens home (world.equip call.tools) (world.act call) ∨
    ∃ opened, (openLog settings.logLevel options.logFile).run (world.equip call.tools) = .ok () opened ∧
      world.act call = finish (Gate.ofSettings settings).run opened := by
  have hopens : Keeps (Opens home) (openLog settings.logLevel options.logFile) := opens_openLog _ options
  rw [act_eq, h, Answer.perform]
  cases hopen : (openLog settings.logLevel options.logFile).run (world.equip call.tools) with
  | error cause failed =>
      rw [finish_bind_of_error hopen]
      exact .inl (hopens.ofError hopen)
  | ok _ opened =>
      rw [finish_bind_of_ok hopen, finish_bind_pure]
      exact .inr ⟨opened, rfl, rfl⟩

theorem act_of_help (h : call.answer = .help) :
    world.act call = { world.equip call.tools with printed := world.printed ++ helpLines } := by
  rw [act_eq, h, finish_of_ok (run_perform_help _)]
  rfl

theorem isNumbered_act (h : world.disk.IsNumbered home) (call : Invocation) :
    (world.act call).disk.IsNumbered home := by
  cases hanswer : call.answer with
  | refusal complaint =>
      rw [act_eq, hanswer]
      exact h
  | help =>
      rw [act_of_help hanswer]
      exact h
  | run options settings =>
      rcases act_of_run hanswer with hfailed | ⟨opened, hopened, hact⟩
      · exact hfailed.disk.isNumbered h
      · rw [hact]
        exact (Gate.ofSettings settings).numbers_run opened (((opens_openLog _ options).ofOk hopened).disk.isNumbered h)

/-- A call whose log could be opened logs what its run tells. -/
theorem logsOnce_of_opened {options : Options} {settings : Settings} {opened : World}
    (h : world.disk.IsNumbered home) (hanswer : call.answer = .run options settings)
    (hopened : (openLog settings.logLevel options.logFile).run (world.equip call.tools) = .ok () opened)
    (hact : world.act call = finish (Gate.ofSettings settings).run opened) : LogsOnce home world call := by
  obtain ⟨honly, hsame⟩ : Opens home (world.equip call.tools) opened := (opens_openLog _ options).ofOk hopened
  have hnumbers : (world.equip call.tools).disk.IsNumbered home := h
  obtain ⟨threshold, file?, hlevel, hlogging, hfile⟩ := of_openLog_eq_ok hnumbers hopened
  have hthreshold : call.threshold = threshold := by
    rw [Invocation.threshold, hanswer]
    simp only
    rw [hlevel, Option.getD_some]
  have hcomplaint : call.complaint = "" := by rw [Invocation.complaint, hanswer]
  have hplace : call.logPlace? home = CommandLine.logPlace? home options := by
    rw [Invocation.logPlace?, hanswer]
  have htools : opened.tools = call.tools := by
    rw [honly]
    rfl
  have hwrites (place : Location) :
      ∃ entries, Adds threshold file? settings.paths home place entries opened (world.act call) := by
    rw [hact]
    exact (Gate.ofSettings settings).writes_run opened hlogging
  obtain ⟨entries, hadds⟩ := hwrites []
  have hrecords : (world.act call).records = world.records ++ entries := by
    rw [hadds.records_eq, honly]
    rfl
  refine logsOnce_of_entries hrecords ?_ fun place hleaves => ?_
  · rw [hadds.console_eq, hthreshold, hcomplaint, String.append_empty, honly]
    rfl
  · -- at each location the same records were told
    obtain ⟨others, hadds'⟩ := hwrites place
    obtain rfl : others = entries := List.append_cancel_left (hadds'.records_eq.symm.trans hadds.records_eq)
    have hpaths : settings.paths ∈ call.paths? := by
      rw [Invocation.paths?, hanswer]
      rfl
    obtain ⟨hreport, hbaseline, hspares⟩ := hleaves settings.paths hpaths
    obtain ⟨-, hgrows⟩ := hadds'.grows ⟨(hsame.isNumbered h).home_eq, hreport, hbaseline, htools ▸ hspares⟩
    have hmore : (if ∃ id, file? = some id ∧ opened.disk.number? place = some id then
        encodeUtf8 (Record.lines threshold others) else []) =
        if CommandLine.logPlace? home options = some place then encodeUtf8 (Record.lines threshold others) else [] :=
      if_congr (hfile place) rfl rfl
    rw [content_of_grows hgrows, hsame.content_eq place, hthreshold, hplace, hmore]
    rfl

/-- Every call logs once. -/
theorem logsOnce_act (h : world.disk.IsNumbered home) (call : Invocation) : LogsOnce home world call := by
  cases hanswer : call.answer with
  | refusal complaint =>
      have hact : world.act call = { world.equip call.tools with console := world.console ++ complaint } := by
        rw [act_eq, hanswer]
        rfl
      have hcomplaint : call.complaint = complaint := by rw [Invocation.complaint, hanswer]
      exact logsOnce_of_silent (by rw [hact]; rfl) (by rw [hact, hcomplaint]) fun place => by rw [hact]; rfl
  | help =>
      have hact := @act_of_help _ world call hanswer
      have hcomplaint : call.complaint = "" := by rw [Invocation.complaint, hanswer]
      have hconsole : (world.act call).console = world.console ++ call.complaint := by
        rw [hact, hcomplaint, String.append_empty]
        rfl
      exact logsOnce_of_silent (by rw [hact]; rfl) hconsole fun place => by rw [hact]; rfl
  | run options settings =>
      rcases @act_of_run _ home world call _ _ hanswer with ⟨honly, hsame⟩ | ⟨opened, hopened, hact⟩
      · have hcomplaint : call.complaint = "" := by rw [Invocation.complaint, hanswer]
        have hconsole : (world.act call).console = world.console ++ call.complaint := by
          rw [honly, hcomplaint, String.append_empty]
          rfl
        exact logsOnce_of_silent (by rw [honly]; rfl) hconsole hsame.content_eq
      · exact logsOnce_of_opened h hanswer hopened hact

theorem isNumbered_foldl_act (h : world.disk.IsNumbered home) (calls : List Invocation) :
    (calls.foldl act world).disk.IsNumbered home := by
  induction calls generalizing world with
  | nil => exact h
  | cons call later ih => exact ih (isNumbered_act h call)

theorem content_foldl_act {place : Location} (h : world.disk.IsNumbered home) {calls : List Invocation}
    (hleaves : ∀ call ∈ calls, call.LeavesToLog home place) :
    (calls.foldl act world).disk.content place = world.disk.content place ++ addsAll home place world calls := by
  induction calls generalizing world with
  | nil => exact (List.append_nil _).symm
  | cons call later ih =>
      obtain ⟨hcall, hlater⟩ := List.forall_mem_cons.mp hleaves
      rw [List.foldl_cons, ih (isNumbered_act h call) hlater, (logsOnce_act h call).content_eq place hcall, addsAll,
        List.append_assoc]

/-- In a process that makes several calls, whatever becomes of them, each call logs once: every record that is severe
enough for the level of the call is one line on the console, and one in the log file that the call names, in order, and
no line of it comes to another log file. In the end a log file that no call works on otherwise holds what it held at
first, and then the lines of the calls that named it, one call after the other. -/
theorem foldl_act_logsOnce (h : world.disk.IsNumbered home) (calls : List Invocation) :
    (∀ first call later, calls = first ++ call :: later → LogsOnce home (first.foldl act world) call) ∧
    ∀ place, (∀ call ∈ calls, call.LeavesToLog home place) →
      (calls.foldl act world).disk.content place = world.disk.content place ++ addsAll home place world calls :=
  ⟨fun first call _ _ => logsOnce_act (isNumbered_foldl_act h first) call, fun _ => content_foldl_act h⟩

end

/-- One call logs to a file, the next one is refused, the third one fails as its level has no meaning, and the last one
logs to another file. -/
theorem foldl_act_logsOnce_of_failures :
    let world := World.fresh (Disk.empty ["home"]) ⟨[], []⟩
    let calls : List Invocation := [
      ⟨[], ["--log-file=a.log"], ⟨["cargo"], []⟩⟩,
      ⟨[], ["--log-file=a.log", "--minimum=150"], ⟨[], []⟩⟩,
      ⟨[("COVGATE_LOG_LEVEL", "loud")], ["--log-file=a.log"], ⟨[], []⟩⟩,
      ⟨[], ["--log-file=logs/b.log"], ⟨["cargo"], [⟨0, [("b.log", .directory)]⟩]⟩⟩]
    calls.map (Invocation.logPlace? ["home"]) =
      [some ["home", "a.log"], none, some ["home", "a.log"], some ["home", "logs", "b.log"]] ∧
    LogsOnce ["home"] (world.act ⟨[], ["--log-file=a.log"], ⟨["cargo"], []⟩⟩)
      ⟨[], ["--log-file=a.log", "--minimum=150"], ⟨[], []⟩⟩ ∧
    ∀ place ∈ [["home", "a.log"], ["home", "logs", "b.log"]],
      (calls.foldl act world).disk.content place = addsAll ["home"] place world calls := by
  intro world calls
  obtain ⟨honce, hcontent⟩ := @foldl_act_logsOnce _ ["home"] world (isNumbered_empty ["home"]) calls
  have hleaves : ∀ place ∈ [["home", "a.log"], ["home", "logs", "b.log"]],
      ∀ call ∈ calls, call.LeavesToLog ["home"] place := by decide +kernel
  refine ⟨by decide +kernel, honce [_] _ _ rfl, fun place hplace => ?_⟩
  have hnone : world.disk.content place = [] := by
    fin_cases hplace <;> rfl
  rw [hcontent place (hleaves place hplace), hnone, List.nil_append]

end World

end Gatekeeper
