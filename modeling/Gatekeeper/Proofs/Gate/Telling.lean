import Gatekeeper.Proofs.Gate.Frame
import Gatekeeper.Proofs.Twin

/-! A run from two worlds at once. What a run looks at is the disk, the tools and the stations that it has been at;
so as long as two worlds give the same answers to what it looks up, it tells the same in both and comes to the same
outcome. -/

namespace Gatekeeper

open Work

namespace World

/-- A relation between worlds that lasts while the same is told in both, and under which both have been at the same
stations. -/
class Tells (R : World → World → Prop) : Prop where
  print {one other : World} (line : String) : R one other →
    R { one with printed := one.printed ++ [line] } { other with printed := other.printed ++ [line] }
  record {one other : World} (entry : Record) : R one other → R (one.record entry) (other.record entry)
  enter {one other : World} (phase : Phase) : R one other →
    R { one with phases := one.phases ++ [phase] } { other with phases := other.phases ++ [phase] }
  phases {one other : World} : R one other → one.phases = other.phases

/-- Two worlds in which no line of the log goes into a file, with related disks, after the same stations. -/
structure Same (D : Disk → Disk → Prop) (one other : World) : Prop where
  logsNoFile : one.LogsNoFile
  logsNoFile' : other.LogsNoFile
  disk : D one.disk other.disk
  phases : one.phases = other.phases

theorem logsNoFile_record {world : World} (h : world.LogsNoFile) (entry : Record) :
    (world.record entry).LogsNoFile := by
  rwa [LogsNoFile, record_logging]

@[simp] theorem record_phases (world : World) (entry : Record) : (world.record entry).phases = world.phases := by
  obtain ⟨disk, console, heq, -⟩ := world.record_eq entry
  rw [heq]

instance (D : Disk → Disk → Prop) : Tells (Same D) where
  print _ h := ⟨h.logsNoFile, h.logsNoFile', h.disk, h.phases⟩
  record entry h := by
    refine ⟨logsNoFile_record h.logsNoFile entry, logsNoFile_record h.logsNoFile' entry, ?_, ?_⟩
    · rw [record_disk h.logsNoFile, record_disk h.logsNoFile']
      exact h.disk
    · rw [record_phases, record_phases, h.phases]
  enter _ h := ⟨h.logsNoFile, h.logsNoFile', h.disk, congrArg (· ++ _) h.phases⟩
  phases h := h.phases

end World

variable {R : World → World → Prop} [World.Tells R]

namespace Run

theorem respects_print (line : String) : Respects R (print line) :=
  Respects.modify fun _ _ => World.Tells.print line

theorem respects_log (level : Level) (source : Source) (message : String) : Respects R (log level source message) :=
  Respects.modify fun _ _ => World.Tells.record _

theorem respects_enter (phase : Phase) : Respects R (enter phase) :=
  Respects.bind (Respects.modify fun _ _ => World.Tells.enter phase) fun _ => respects_log _ _ _

/-- What is told of the stations is the same in both worlds. -/
theorem respects_get_phases {α : Type} (value : List Phase → α) :
    Respects R (do pure (value (← get).phases) : Run α) := by
  refine Relates.getBind fun one other h => ?_
  rw [World.Tells.phases h]
  exact .ok h

end Run

namespace Gate

omit [World.Tells R] in
theorem respects_checked {α : Type} (result : Except CheckError α) : Respects R (checked result) := by
  cases result with
  | ok value => exact Respects.pure _
  | error cause => exact Respects.throw _

omit [World.Tells R] in
theorem respects_percentText (percent : Int) : Respects R (percentText percent) := by
  unfold percentText
  cases Number.wholeText? percent with
  | none => exact Respects.throw _
  | some text => exact Respects.pure _

omit [World.Tells R] in
theorem respects_meetsText (settings : Settings) (percent : Int) : Respects R (meetsText settings percent) := by
  refine Respects.bind (respects_percentText _) fun shown => ?_
  exact Respects.bind (respects_percentText _) fun minimum => Respects.pure _

theorem respects_judgeRegression (settings : Settings) (ratio : Decimal) (percent : Int)
    (baseline : Option Decimal) : Respects R (judgeRegression settings ratio percent baseline) := by
  refine Respects.bind (Run.respects_print _) fun _ => ?_
  refine Respects.bind (Run.respects_enter _) fun _ => ?_
  refine Respects.bind (respects_checked _) fun check => ?_
  split
  · refine Respects.bind (Run.respects_print _) fun _ => ?_
    exact Respects.bind (respects_meetsText _ _) fun meets => Respects.pure _
  · refine Respects.bind (respects_percentText _) fun earlier => ?_
    refine Respects.bind (Run.respects_print _) fun _ => ?_
    refine Respects.bind (Run.respects_print _) fun _ => ?_
    split
    · refine Respects.bind (respects_meetsText _ _) fun meets => ?_
      exact Respects.bind (Run.respects_print _) fun _ => Respects.pure _
    · refine Respects.bind (respects_percentText _) fun shown => ?_
      exact Respects.bind (Run.respects_print _) fun _ => Respects.pure _

theorem respects_judge (settings : Settings) (ratio : Decimal) (percent : Int) (baseline : Option Decimal) :
    Respects R (judge settings ratio percent baseline) := by
  refine Respects.bind (respects_checked _) fun check => ?_
  split
  · exact respects_judgeRegression settings ratio percent baseline
  · refine Respects.bind (respects_percentText _) fun shown => ?_
    refine Respects.bind (respects_percentText _) fun minimum => ?_
    exact Respects.bind (Run.respects_print _) fun _ => Respects.pure _

theorem respects_close (ratio : Decimal) (percent : Int) (baseline : Option Decimal) (judgement : Judgement)
    (updated : Bool) : Respects R (close ratio percent baseline judgement updated) := by
  refine Respects.bind (Run.respects_enter _) fun _ => ?_
  refine Respects.bind (Run.respects_print _) fun _ => ?_
  exact Run.respects_get_phases _

theorem respects_breakOff (baseline : Option Decimal) (abort : Abort) : Respects R (breakOff baseline abort) := by
  refine Respects.bind (Run.respects_print _) fun _ => ?_
  refine Respects.bind (Run.respects_log _ _ _) fun _ => ?_
  refine Respects.bind (Run.respects_enter _) fun _ => ?_
  refine Respects.bind (Run.respects_print _) fun _ => ?_
  exact Run.respects_get_phases _

theorem respects_passPipeline : Respects R passPipeline.run :=
  Respects.attemptBind (Respects.lift (Run.respects_enter _)) fun _ => Respects.lift (Run.respects_enter _)

theorem respects_recordReport (report : Report) : Respects R (recordReport report) :=
  Respects.bind (Respects.forM fun _ _ => Run.respects_log _ _ _) fun _ => Run.respects_log _ _ _

theorem respects_loadBaseline {path : Path}
    (h : ∀ one other, R one other → Baseline.load one.disk path = Baseline.load other.disk path) :
    Respects R (loadBaseline path) := by
  refine Relates.getBind fun one other hstart => ?_
  rw [h one other hstart]
  cases Baseline.load other.disk path with
  | ok ratio => exact .ok hstart
  | error cause =>
      cases cause with
      | corrupt content => exact Respects.bind (Run.respects_log _ _ _) (fun _ => Respects.pure _) one other hstart
      | file cause => exact .error hstart

/-- A report that is read from two worlds in the same way is measured in both, and so are the facts that hold of
every report read from such worlds. -/
theorem relates_readReport {path : Path} {p : Decimal → Prop}
    (h : ∀ one other, R one other → Report.read one.disk path "" = Report.read other.disk path "")
    (hp : ∀ one other report, R one other → Report.read one.disk path "" = .ok report → p report.total) :
    Relates R R (Either R fun ratio one other => R one other ∧ p ratio) (readReport path).run := by
  have hfetch : Relates R R (fun result one other => R one other ∧ ∀ report, result = .ok report → p report.total)
      (fetchReport path "") := by
    refine Relates.getBind fun one other hstart => ?_
    have hreport := hp one other
    rw [h one other hstart] at hreport
    simp only [h one other hstart]
    generalize Report.read other.disk path "" = result at hreport ⊢
    cases result with
    | ok report =>
        refine Relates.bind (respects_recordReport report) (fun _ => ?_) one other hstart
        refine Relates.pure fun _ _ hlater => ⟨hlater, ?_⟩
        rintro _ ⟨⟩
        exact hreport report hstart rfl
    | error cause => exact .ok ⟨hstart, fun _ hnone => by cases hnone⟩
  refine Relates.attemptBind (Relates.lift hfetch) fun result => ?_
  split
  · exact Relates.pure fun _ _ hread => ⟨hread.1, hread.2 _ rfl⟩
  · exact Relates.pure fun _ _ hread => hread.1
  · exact Relates.pure fun _ _ hread => hread.1
  · exact Relates.lift (Relates.throw fun _ _ hread => hread.1)
  · exact Relates.lift (Relates.throw fun _ _ hread => hread.1)
  · exact Relates.lift (Relates.throw fun _ _ hread => hread.1)

variable {S T : World → World → Prop} [World.Tells S] [World.Tells T]

omit [World.Tells S] in
/-- A numeral is stored in the same way from two worlds if it is so on their disks. -/
theorem relates_storeNumeral {path : Path} {value : Numeral}
    (hresult : ∀ one other, S one other →
      (Baseline.save one.disk path value).1 = (Baseline.save other.disk path value).1)
    (hdisk : ∀ one other, S one other → T { one with disk := (Baseline.save one.disk path value).2 }
      { other with disk := (Baseline.save other.disk path value).2 }) :
    Relates S T (fun _ => T) (storeNumeral path value) := by
  intro one other hstart
  have hsame := hresult one other hstart
  have hlater := hdisk one other hstart
  rw [run_storeNumeral, run_storeNumeral]
  generalize Baseline.save one.disk path value = first, Baseline.save other.disk path value = second
    at hsame hlater ⊢
  obtain ⟨result, disk⟩ := first
  obtain ⟨result', disk'⟩ := second
  obtain rfl : result = result' := hsame
  rcases result with (_ | _) | _
  · exact .error hlater
  · exact .error hlater
  · exact .ok (World.Tells.record _ hlater)

/-- A ratio comes to the same conclusion from two worlds if its storing does. -/
theorem relates_conclude {settings : Settings} {ratio : Decimal} (baseline : Option Decimal)
    (hclose : ∀ one other, T one other → S one other)
    (hstore : Relates T S (fun _ => S) (storeNumeral settings.paths.baseline (.finite ratio))) :
    Relates T S (fun _ => S) (conclude settings ratio baseline) := by
  have hquiet {α : Type} {work : Run α} (h : Respects T work) : Relates T S (fun _ => T) work :=
    h.mono (fun _ _ => id) hclose fun _ _ _ => id
  refine Relates.bind (hquiet (respects_checked _)) fun percent => ?_
  refine Relates.bind (hquiet (respects_percentText _)) fun shown => ?_
  refine Relates.bind (hquiet (Run.respects_print _)) fun _ => ?_
  refine Relates.bind (hquiet (Run.respects_enter _)) fun _ => ?_
  refine Relates.bind (hquiet (respects_judge _ _ _ _)) fun judgement => ?_
  refine Relates.bind (hquiet (Run.respects_enter _)) fun _ => ?_
  refine Relates.bind ?_ fun updated => respects_close _ _ _ _ _
  unfold updateBaseline
  split
  · refine Relates.bind hstore fun _ => ?_
    exact Respects.bind (Run.respects_log _ _ _) fun _ => Respects.pure _
  · refine Respects.bind (Run.respects_log _ _ _) (fun _ => Respects.pure _) |>.mono hclose (fun _ _ => id)
      fun _ _ _ => id

/-- A run comes to the same outcome, or to the same failure, from two worlds in which it goes on with the same stored
ratio, and the same is measured and stored. -/
theorem relates_run_of_loadBaseline {gate : Gate} {S₀ S' E : World → World → Prop} [World.Tells E]
    {p : Decimal → Prop}
    (hreset : ∀ one other, S₀ one other → S { one with phases := [] } { other with phases := [] })
    (hload : Relates S E (fun _ => S') (loadBaseline gate.settings.paths.baseline))
    (hmeasure : Relates S' E (Either E fun ratio one other => T one other ∧ p ratio) gate.measure.run)
    (hbreak : ∀ one other, S one other → E one other) (hclose : ∀ one other, T one other → E one other)
    (hstore : ∀ ratio, p ratio →
      Relates T E (fun _ => E) (storeNumeral gate.settings.paths.baseline (.finite ratio))) :
    Relates S₀ E (fun _ => E) gate.run := by
  have hstart : Relates S E (fun _ => S) (Run.enter .start) :=
    (Run.respects_enter .start).mono (fun _ _ => id) hbreak fun _ _ _ => id
  have hreset : Relates S₀ E (fun _ => S) (modify fun world => { world with phases := [] } : Run Unit) :=
    Relates.modify hreset
  refine Relates.bind hreset fun _ => ?_
  refine Relates.bind hstart fun _ => ?_
  refine Relates.bind hload fun baseline => ?_
  refine Relates.bind hmeasure fun measured => ?_
  cases measured with
  | ok ratio =>
      intro one other hmeasured
      exact relates_conclude baseline hclose (hstore ratio hmeasured.2) one other hmeasured.1
  | error abort =>
      have hbroken : Respects E (breakOff baseline abort) := respects_breakOff _ _
      exact hbroken

/-- A run comes to the same outcome, or to the same failure, from two worlds in which the same is loaded, measured
and stored. -/
theorem relates_run {gate : Gate} {S₀ E : World → World → Prop} [World.Tells E] {p : Decimal → Prop}
    (hreset : ∀ one other, S₀ one other → S { one with phases := [] } { other with phases := [] })
    (hload : ∀ one other, S one other →
      Baseline.load one.disk gate.settings.paths.baseline = Baseline.load other.disk gate.settings.paths.baseline)
    (hmeasure : Relates S E (Either E fun ratio one other => T one other ∧ p ratio) gate.measure.run)
    (hbreak : ∀ one other, S one other → E one other) (hclose : ∀ one other, T one other → E one other)
    (hstore : ∀ ratio, p ratio →
      Relates T E (fun _ => E) (storeNumeral gate.settings.paths.baseline (.finite ratio))) :
    Relates S₀ E (fun _ => E) gate.run :=
  relates_run_of_loadBaseline hreset
    ((respects_loadBaseline hload).mono (fun _ _ => id) hbreak fun _ _ _ => id) hmeasure hbreak hclose hstore

/-- In report-only mode a run measures what is read in both worlds. -/
theorem relates_measure_of_skip {gate : Gate} {p : Decimal → Prop} (hskip : gate.settings.skipPipeline = true)
    (h : ∀ one other, R one other →
      Report.read one.disk gate.settings.paths.report "" = Report.read other.disk gate.settings.paths.report "")
    (hp : ∀ one other report, R one other →
      Report.read one.disk gate.settings.paths.report "" = .ok report → p report.total) :
    Relates R R (Either R fun ratio one other => R one other ∧ p ratio) gate.measure.run := by
  rw [measure, reachReport, if_pos hskip]
  refine Relates.attemptBind respects_passPipeline.attempt fun _ => ?_
  refine Relates.attemptBind (Relates.lift (Run.respects_enter _)) fun _ => ?_
  refine Relates.attemptBind (Relates.lift (Run.respects_print _)) fun _ => ?_
  exact relates_readReport h hp

end Gate

end Gatekeeper
