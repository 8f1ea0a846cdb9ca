import Gatekeeper.Proofs.Report.Counters
import Gatekeeper.Proofs.Text.Lines

/-! Line records as a collection of counts. Their totals, and with them all that is found out about a report, do not
depend on the order of its lines, on what ends them, on the blanks around them, or on lines that count nothing.
The totals of two texts in a row are the sums of theirs. -/

namespace Gatekeeper

open Number Text

namespace Lcov

def Totals.join (x y : Totals) : Totals :=
  ⟨x.found + y.found, x.hit + y.hit, x.isCounted || y.isCounted⟩

instance : RightCommutative withCount where
  right_comm totals entry entry' := by
    obtain ⟨kind, count⟩ := entry
    obtain ⟨kind', count'⟩ := entry'
    cases totals <;> cases count <;> cases count' <;> try rfl
    cases kind <;> cases kind' <;>
      simp [withCount, Totals.add, Except.toOption, Int.add_right_comm]

/-- The order of counter lines does not matter. -/
theorem tally_eq_of_perm {counts counts' : List (Counter × Except WholeError Int)} (h : counts.Perm counts') :
    tally counts = tally counts' :=
  h.foldl_eq (some Totals.initial)

theorem withCount_join (x : Totals) (y : Option Totals) (entry : Counter × Except WholeError Int) :
    withCount (y.map x.join) entry = (withCount y entry).map x.join := by
  obtain ⟨kind, count⟩ := entry
  cases y <;> cases count <;> try rfl
  cases kind <;> simp [withCount, Totals.add, Totals.join, Except.toOption, Int.add_assoc]

theorem foldl_withCount_join (counts : List (Counter × Except WholeError Int)) (x : Totals) (y : Option Totals) :
    counts.foldl withCount (y.map x.join) = (counts.foldl withCount y).map x.join := by
  induction counts generalizing y with
  | nil => rfl
  | cons entry counts ih => rw [List.foldl_cons, List.foldl_cons, withCount_join, ih]

/-- Counter lines in a row add up. -/
theorem tally_append {counts counts' : List (Counter × Except WholeError Int)} {x y : Totals}
    (hx : tally counts = some x) (hy : tally counts' = some y) : tally (counts ++ counts') = some (x.join y) := by
  have hstart : some x = (some Totals.initial).map x.join := by
    simp [Totals.join, Totals.initial]
  rw [tally, List.foldl_append, ← tally, hx, hstart, foldl_withCount_join, ← tally, hy]
  rfl

theorem lineCounts_text (layout : Layout) :
    lineCounts layout.text = layout.lines.filterMap fun line => lineCount? line.chars :=
  filterMap_lines_text rfl layout

theorem lineCounts_append {text : List Char} (hend : ∃ front, ∃ mark : LineEnd, text = front ++ mark.chars)
    (other : List Char) : lineCounts (text ++ other) = lineCounts text ++ lineCounts other :=
  filterMap_lines_append rfl hend other

/-- A line that counts nothing: without the blanks around it, it begins with the mark of neither kind. -/
def IsSilent (line : Line) : Prop :=
  ¬ "LF:".toList <+: trim line.chars ∧ ¬ "LH:".toList <+: trim line.chars

instance (line : Line) : Decidable (IsSilent line) :=
  inferInstanceAs (Decidable (_ ∧ _))

theorem lineCount?_eq_none_of_isSilent {line : Line} (h : IsSilent line) : lineCount? line.chars = none := by
  rw [lineCount?, Option.map_eq_none_iff]
  unfold counter?
  split
  · rename_i count hline
    exact absurd ⟨count, hline.symm⟩ h.1
  · rename_i count hline
    exact absurd ⟨count, hline.symm⟩ h.2
  · rfl

/-- A change of the lines of a text that leaves its counter lines as they are. -/
inductive Edit : List Line → List Line → Prop
  /-- The lines come in another order. -/
  | reorder {lines lines' : List Line} (h : lines.Perm lines') : Edit lines lines'
  /-- There are more blanks around a line. -/
  | pad (before after : List Line) (line : Line) {front back : List Char} (hfront : ∀ c ∈ front, IsInline c)
      (hback : ∀ c ∈ back, IsInline c) (hblank : ∀ c ∈ front ++ back, isBlank c = true) :
      Edit (before ++ line :: after) (before ++ line.pad front back hfront hback :: after)
  /-- There is one more line that counts nothing. -/
  | insert (before after : List Line) {line : Line} (h : IsSilent line) :
      Edit (before ++ after) (before ++ line :: after)

/-- The counter lines of an edited text are the same ones. -/
theorem Edit.filterMap_perm {lines lines' : List Line} (h : Edit lines lines') :
    (lines.filterMap fun line => lineCount? line.chars).Perm (lines'.filterMap fun line => lineCount? line.chars) := by
  cases h with
  | reorder h => exact h.filterMap _
  | pad before after line hfront hback hblank =>
      have hline : lineCount? (line.pad _ _ hfront hback).chars = lineCount? line.chars := by
        rw [lineCount?, Line.pad, trim_append, lineCount?]
        · exact fun c hc => hblank c (List.mem_append_left _ hc)
        · exact fun c hc => hblank c (List.mem_append_right _ hc)
      simp [List.filterMap_append, List.filterMap_cons, hline]
  | insert before after h =>
      simp [List.filterMap_append, lineCount?_eq_none_of_isSilent h]

/-- Whether one text comes from another one by one edit of its lines, with any ends of lines in both. -/
def Edited (text text' : List Char) : Prop :=
  ∃ layout layout' : Layout, layout.text = text ∧ layout'.text = text' ∧ Edit layout.lines layout'.lines

/-- Whether one text comes from another one by edits and by their undoing. -/
def Rearranged : List Char → List Char → Prop :=
  Relation.EqvGen Edited

theorem lineCounts_perm_of_rearranged {text text' : List Char} (h : Rearranged text text') :
    (lineCounts text).Perm (lineCounts text') := by
  induction h with
  | rel _ _ hedited =>
      obtain ⟨layout, layout', rfl, rfl, hedit⟩ := hedited
      rw [lineCounts_text, lineCounts_text]
      exact hedit.filterMap_perm
  | refl _ => exact .refl _
  | symm _ _ _ ih => exact ih.symm
  | trans _ _ _ _ _ ih ih' => exact ih.trans ih'

end Lcov

inductive ReportError.Kind where
  | missing
  | unreadable
  | charset
  | longNumber
  | file
deriving DecidableEq

def ReportError.kind : ReportError → Kind
  | missing => .missing
  | unreadable _ => .unreadable
  | charset _ => .charset
  | longNumber => .longNumber
  | file _ => .file

namespace Report

/-- What is found out about a report: its ratios, or the kind of the failure to read it. -/
def outcome (result : Except ReportError Report) : Except ReportError.Kind (List Decimal) :=
  (result.map ratios).mapError ReportError.kind

/-- What is found out from totals; there are none when a count cannot be read. -/
def outcomeOfTotals : Option Lcov.Totals → Except ReportError.Kind (List Decimal)
  | none => .error .unreadable
  | some totals =>
    match Lcov.ratio totals with
    | .ok total => .ok [total]
    | .error defect => .error (failure defect).kind

theorem outcome_ofRecords (path : Path) (bytes : List UInt8) :
    outcome (ofRecords path bytes) = outcomeOfTotals (Lcov.tally (Lcov.lineCounts (decodeUtf8Lossy bytes))) := by
  obtain ⟨totals, htotals, htally⟩ | ⟨line, htotals, htally⟩ := Lcov.totals_cases (decodeUtf8Lossy bytes)
  · rw [ofRecords, Lcov.read, htotals, htally, outcomeOfTotals, Except.bind]
    cases Lcov.ratio totals <;> rfl
  · rw [ofRecords, Lcov.read, htotals, htally]
    rfl

theorem exists_tally_of_ofRecords_eq_ok {path : Path} {bytes : List UInt8} {report : Report}
    (h : ofRecords path bytes = .ok report) :
    ∃ totals, Lcov.tally (Lcov.lineCounts (decodeUtf8Lossy bytes)) = some totals := by
  have houtcome := outcome_ofRecords path bytes
  rw [h] at houtcome
  rw [← Option.isSome_iff_exists, ← Option.ne_none_iff_isSome]
  intro htally
  rw [htally] at houtcome
  cases houtcome

variable {disk disk' : Disk} {path path' : Path} {asked asked' : String} {bytes bytes' : List UInt8}

theorem read_eq_ofRecords (hcontent : Files.content? disk path = some bytes)
    (hformat : ReportFormat.resolve path asked = .lcov) : read disk path asked = ofRecords path bytes := by
  rw [read_of_content?_eq_some hcontent, hformat]
  rfl

/-- Two reports of line records with the same counter lines, in any order, come out alike. So do two reports whose
texts differ in the order of lines, in their ends, in the blanks around them and in lines that count nothing.
The totals of two good texts in a row are the sums of theirs when the first one ends with a line end. -/
theorem outcome_read_of_counts (hcontent : Files.content? disk path = some bytes)
    (hcontent' : Files.content? disk' path' = some bytes')
    (hformat : ReportFormat.resolve path asked = .lcov) (hformat' : ReportFormat.resolve path' asked' = .lcov) :
    let text := decodeUtf8Lossy bytes
    let text' := decodeUtf8Lossy bytes'
    ((Lcov.lineCounts text).Perm (Lcov.lineCounts text') →
        outcome (read disk path asked) = outcome (read disk' path' asked')) ∧
      (Lcov.Rearranged text text' → outcome (read disk path asked) = outcome (read disk' path' asked')) ∧
      ∀ report report', read disk path asked = .ok report → read disk' path' asked' = .ok report' →
        (∃ front, ∃ mark : LineEnd, text = front ++ mark.chars) →
          ∃ x y, Lcov.totals text = .ok x ∧ Lcov.totals text' = .ok y ∧
            Lcov.totals (text ++ text') = .ok (x.join y) := by
  intro text text'
  rw [read_eq_ofRecords hcontent hformat, read_eq_ofRecords hcontent' hformat']
  have hperm (h : (Lcov.lineCounts text).Perm (Lcov.lineCounts text')) :
      outcome (ofRecords path bytes) = outcome (ofRecords path' bytes') := by
    rw [outcome_ofRecords, outcome_ofRecords, Lcov.tally_eq_of_perm h]
  refine ⟨hperm, fun h => hperm (Lcov.lineCounts_perm_of_rearranged h), ?_⟩
  intro report report' hreport hreport' hend
  obtain ⟨x, hx⟩ := exists_tally_of_ofRecords_eq_ok hreport
  obtain ⟨y, hy⟩ := exists_tally_of_ofRecords_eq_ok hreport'
  refine ⟨x, y, Lcov.totals_eq_ok_iff.mpr hx, Lcov.totals_eq_ok_iff.mpr hy, Lcov.totals_eq_ok_iff.mpr ?_⟩
  rw [Lcov.lineCounts_append hend, Lcov.tally_append hx hy]

/-- The same two counter lines in another order and with other ends, and a line with a separator that is no
end. -/
theorem outcome_read_of_counts_of_reordered :
    let bytes := encodeUtf8 "LF:4\nLH:3\n"
    let bytes' := encodeUtf8 "LH:3\rLF:4\r\nSF:a\u2028LF:9\n"
    let disk := (Disk.empty ["home"]).create ["home", "r.info"] false bytes
    let disk' := (Disk.empty ["home"]).create ["home", "r.info"] false bytes'
    Lcov.Rearranged (decodeUtf8Lossy bytes) (decodeUtf8Lossy bytes') ∧
      outcome (read disk (Path.ofText "r.info") "") = outcome (read disk' (Path.ofText "r.info") "") ∧
      ∃ x y, Lcov.totals (decodeUtf8Lossy bytes) = .ok x ∧ Lcov.totals (decodeUtf8Lossy bytes') = .ok y ∧
        Lcov.totals (decodeUtf8Lossy bytes ++ decodeUtf8Lossy bytes') = .ok (x.join y) := by
  intro bytes bytes' disk disk'
  let reached : Line := ⟨"LF:4".toList, by simp [IsInline]⟩
  let hit : Line := ⟨"LH:3".toList, by simp [IsInline]⟩
  let source : Line := ⟨"SF:a\u2028LF:9".toList, by simp [IsInline]⟩
  have hsilent : Lcov.IsSilent source := by decide +kernel
  have htext : decodeUtf8Lossy bytes = Layout.text ⟨[(reached, .lineFeed), (hit, .lineFeed)], .empty⟩ := by
    decide +kernel
  have htext' : decodeUtf8Lossy bytes' =
      Layout.text ⟨[(hit, .carriageReturn), (reached, .pair), (source, .lineFeed)], .empty⟩ := by
    decide +kernel
  have hrearranged : Lcov.Rearranged (decodeUtf8Lossy bytes) (decodeUtf8Lossy bytes') := by
    refine .trans _ (Layout.text ⟨[(hit, .lineFeed), (reached, .lineFeed)], .empty⟩) _ (.rel _ _ ?_) (.rel _ _ ?_)
    · exact ⟨_, _, htext.symm, rfl, .reorder (.swap hit reached [.empty])⟩
    · exact ⟨_, _, rfl, htext'.symm, .insert [hit, reached] [.empty] hsilent⟩
  have hcontent : Files.content? disk (Path.ofText "r.info") = some bytes := by
    clear_value bytes
    cbv
  have hcontent' : Files.content? disk' (Path.ofText "r.info") = some bytes' := by
    clear_value bytes'
    cbv
  have hformat : ReportFormat.resolve (Path.ofText "r.info") "" = .lcov := by decide
  have hratio : Lcov.read bytes = .ok (Decimal.quotient 3 4) := by decide +kernel
  have hratio' : Lcov.read bytes' = .ok (Decimal.quotient 3 4) := by decide +kernel
  obtain ⟨-, hsame, hjoined⟩ := outcome_read_of_counts hcontent hcontent' hformat hformat
  refine ⟨hrearranged, hsame hrearranged, hjoined ?_ ?_ ?_ ?_ ⟨"LF:4\nLH:3".toList, .lineFeed, by decide +kernel⟩⟩
  · exact ⟨Path.ofText "r.info", .lcov, Decimal.quotient 3 4, [], []⟩
  · exact ⟨Path.ofText "r.info", .lcov, Decimal.quotient 3 4, [], []⟩
  · rw [read_eq_ofRecords hcontent hformat, ofRecords, hratio]
  · rw [read_eq_ofRecords hcontent' hformat, ofRecords, hratio']

end Report

end Gatekeeper
