import Gatekeeper.Proofs.Number.QuotientValue
import Gatekeeper.Proofs.Policy
import Gatekeeper.Proofs.Report.Range

/-! Line records whose counts are whole numbers. Their totals are sums, and as long as these are not too large
the rounding of their quotient is not to be seen: a report is refused when more lines were reached than
could be, and else its percentage and every check of it are those of whole numbers. -/

namespace Gatekeeper

open Number Text

namespace Lcov

/-- The kind of a counter line and its count, if it can be read. -/
def lineCount? (line : List Char) : Option (Counter × Except WholeError Int) :=
  (counter? (trim line)).map fun (kind, count) => (kind, wholeOfText (String.ofList count))

/-- The counter lines of a text, in their order. -/
def lineCounts (text : List Char) : List (Counter × Except WholeError Int) :=
  (lines text).filterMap lineCount?

/-- A count that can be read, as the entry of a counter line. -/
def readable (count : Counter × Nat) : Counter × Except WholeError Int :=
  (count.1, .ok count.2)

/-- The sum of the counts of one kind. -/
def sum (kind : Counter) (counts : List (Counter × Nat)) : Nat :=
  ((counts.filter fun count => count.1 = kind).map Prod.snd).sum

/-- The totals of some lines when others have come before. -/
def Totals.plus (start : Totals) (counts : List (Counter × Nat)) : Totals :=
  ⟨start.found + sum .found counts, start.hit + sum .hit counts,
    start.isCounted || counts.any fun count => count.1 = .found⟩

theorem Totals.add_plus (start : Totals) (kind : Counter) (count : Nat) (counts : List (Counter × Nat)) :
    (start.add count kind).plus counts = start.plus ((kind, count) :: counts) := by
  cases kind <;> simp [plus, add, sum, Int.add_assoc]

theorem addLine_of_lineCount?_eq_none {line : List Char} (h : lineCount? line = none) (start : Totals) :
    start.addLine line = .ok start := by
  rw [lineCount?, Option.map_eq_none_iff] at h
  simp only [Totals.addLine, h]

theorem addLine_of_lineCount?_eq_some {line : List Char} {kind : Counter} {count : Int}
    (h : lineCount? line = some (kind, .ok count)) (start : Totals) :
    start.addLine line = .ok (start.add count kind) := by
  obtain ⟨⟨_, text⟩, hcounter, hentry⟩ := Option.map_eq_some_iff.mp h
  obtain ⟨rfl, hcount⟩ := Prod.mk.inj hentry
  simp only [Totals.addLine, hcounter, hcount]

theorem addLine_of_lineCount?_eq_error {line : List Char} {kind : Counter} {cause : WholeError}
    (h : lineCount? line = some (kind, .error cause)) (start : Totals) :
    start.addLine line = .error (.badCounter (String.ofList (trim line))) := by
  obtain ⟨⟨_, text⟩, hcounter, hentry⟩ := Option.map_eq_some_iff.mp h
  obtain ⟨rfl, hcount⟩ := Prod.mk.inj hentry
  simp only [Totals.addLine, hcounter, hcount]

/-- The totals with one more counter line, as long as all counts can be read. -/
def withCount (totals : Option Totals) (entry : Counter × Except WholeError Int) : Option Totals :=
  totals.bind fun totals => entry.2.toOption.map fun n => totals.add n entry.1

/-- The totals of counter lines, if all of their counts can be read. -/
def tally (counts : List (Counter × Except WholeError Int)) : Option Totals :=
  counts.foldl withCount (some Totals.initial)

theorem foldl_withCount_none (counts : List (Counter × Except WholeError Int)) :
    counts.foldl withCount none = none := by
  induction counts with
  | nil => rfl
  | cons entry counts ih => exact ih

/-- The totals of lines are those of their counter lines. There are none when a count cannot be read. -/
theorem foldlM_addLine_cases (texts : List (List Char)) (start : Totals) :
    (∃ totals, texts.foldlM Totals.addLine start = .ok totals ∧
      (texts.filterMap lineCount?).foldl withCount (some start) = some totals) ∨
    (∃ line, texts.foldlM Totals.addLine start = .error (.badCounter line) ∧
      (texts.filterMap lineCount?).foldl withCount (some start) = none) := by
  induction texts generalizing start with
  | nil => exact .inl ⟨start, rfl, rfl⟩
  | cons line rest ih =>
      rw [List.foldlM_cons]
      cases hentry : lineCount? line with
      | none =>
          rw [List.filterMap_cons_none hentry, addLine_of_lineCount?_eq_none hentry]
          exact ih start
      | some entry =>
          obtain ⟨kind, count⟩ := entry
          rw [List.filterMap_cons_some hentry, List.foldl_cons]
          cases count with
          | error cause =>
              rw [addLine_of_lineCount?_eq_error hentry]
              exact .inr ⟨_, rfl, foldl_withCount_none _⟩
          | ok count =>
              rw [addLine_of_lineCount?_eq_some hentry]
              exact ih _

theorem totals_cases (text : List Char) :
    (∃ x, totals text = .ok x ∧ tally (lineCounts text) = some x) ∨
    (∃ line, totals text = .error (.badCounter line) ∧ tally (lineCounts text) = none) :=
  foldlM_addLine_cases (lines text) Totals.initial

theorem totals_eq_ok_iff {text : List Char} {x : Totals} :
    totals text = .ok x ↔ tally (lineCounts text) = some x := by
  obtain ⟨y, htotals, htally⟩ | ⟨line, htotals, htally⟩ := totals_cases text
  · rw [htotals, htally, Except.ok.injEq, Option.some.injEq]
  · rw [htotals, htally]
    exact iff_of_false nofun nofun

theorem foldl_withCount_readable (counts : List (Counter × Nat)) (start : Totals) :
    (counts.map readable).foldl withCount (some start) = some (start.plus counts) := by
  induction counts generalizing start with
  | nil => simp [Totals.plus, sum]
  | cons count counts ih =>
      rw [List.map_cons, List.foldl_cons, ← Totals.add_plus]
      exact ih _

/-- The totals of a text are the sums of its counts. -/
theorem totals_eq_sums {text : List Char} {counts : List (Counter × Nat)}
    (h : lineCounts text = counts.map readable) :
    totals text = .ok ⟨sum .found counts, sum .hit counts, counts.any fun count => count.1 = .found⟩ := by
  rw [totals_eq_ok_iff, h, tally, foldl_withCount_readable]
  simp [Totals.plus, Totals.initial]

theorem any_found_of_pos {counts : List (Counter × Nat)} (h : 0 < sum .found counts) :
    (counts.any fun count => count.1 = .found) = true := by
  by_contra hnone
  rw [Bool.not_eq_true, List.any_eq_false] at hnone
  have hfilter : (counts.filter fun count => count.1 = .found) = [] := List.filter_eq_nil_iff.mpr hnone
  rw [sum, hfilter] at h
  cases h

theorem read_of_lineCounts {bytes : List UInt8} {counts : List (Counter × Nat)}
    (h : lineCounts (decodeUtf8Lossy bytes) = counts.map readable) (hpos : 0 < sum .found counts) :
    read bytes =
      if (Decimal.quotient (sum .hit counts) (sum .found counts)).exceedsOne then
        .error (.excess (sum .hit counts) (sum .found counts))
      else .ok (Decimal.quotient (sum .hit counts) (sum .found counts)) := by
  have hfound : (sum .found counts : Int) ≠ 0 := by omega
  rw [read, totals_eq_sums h, any_found_of_pos hpos]
  change ratio _ = _
  rw [ratio, if_neg (by simp), if_neg hfound]

end Lcov

namespace Report

theorem failure_excess {hit found : Nat} (hhit : hit ≤ 10 ^ 26) (hfound : found ≤ 10 ^ 26) :
    failure (.excess hit found) = .unreadable (.excess hit found) := by
  rw [failure, isSome_wholeText? (Int.natAbs_natCast hit ▸ hhit),
    isSome_wholeText? (Int.natAbs_natCast found ▸ hfound)]
  rfl

/-- A report of line records with whole counts whose totals are not too large is refused just when more
lines were reached than could be. Else its percentage is that of the totals, and it is checked against a
minimum as the totals are. -/
theorem read_eq_of_counts {disk : Disk} {path : Path} {asked : String} {bytes : List UInt8}
    {counts : List (Lcov.Counter × Nat)} {found hit : Nat}
    (hcontent : Files.content? disk path = some bytes)
    (hformat : ReportFormat.resolve path asked = .lcov)
    (hcounts : Lcov.lineCounts (decodeUtf8Lossy bytes) = counts.map Lcov.readable)
    (hfound : Lcov.sum .found counts = found) (hhit : Lcov.sum .hit counts = hit)
    (hpos : 0 < found) (hbound : found ≤ 10 ^ 26) (hlarge : hit ≤ 10 ^ 26) :
    ((∃ defect, read disk path asked = .error (.unreadable defect)) ↔ found < hit) ∧
      (hit ≤ found → ∃ report, read disk path asked = .ok report ∧
        toPercent (.finite report.total) = .ok ((100 * hit / found : Nat) : Int) ∧
        ∀ minimum : Int, ∃ check, checkThreshold (.finite report.total) minimum = .ok check ∧
          (check.passed = true ↔ minimum * found ≤ 100 * hit)) := by
  have hlcov : Lcov.read bytes = if (Decimal.quotient hit found).exceedsOne then .error (.excess hit found)
      else .ok (Decimal.quotient hit found) := by
    rw [Lcov.read_of_lineCounts hcounts (hfound ▸ hpos), hfound, hhit]
  have hexceeds := Decimal.exceedsOne_quotient_iff hpos hlarge hbound
  have hread : read disk path asked = ofRecords path bytes := by
    rw [read_of_content?_eq_some hcontent, hformat]
    rfl
  rw [hread, ofRecords, hlcov]
  rcases Nat.lt_or_ge found hit with hless | hle
  · rw [if_pos (hexceeds.mpr hless)]
    simp only [failure_excess hlarge hbound]
    exact ⟨iff_of_true ⟨_, rfl⟩ hless, fun hle => absurd hless (Nat.not_lt.mpr hle)⟩
  · have hpercent : toPercent (.finite (Decimal.quotient hit found)) =
        .ok ((100 * hit / found : Nat) : Int) := by
      rw [toPercent, Numeral.percent, Decimal.percent_quotient hpos hle hbound]
      rfl
    rw [if_neg (mt hexceeds.mp (Nat.not_lt.mpr hle))]
    refine ⟨iff_of_false ?_ (Nat.not_lt.mpr hle), fun _ => ?_⟩
    · rintro ⟨defect, h⟩
      cases h
    refine ⟨_, rfl, hpercent, fun minimum => ⟨_, checkThreshold_of_toPercent hpercent minimum, ?_⟩⟩
    rw [decide_eq_true_eq, Int.natCast_ediv, Int.le_ediv_iff_mul_le (by omega)]
    push_cast
    rfl

/-- One line short of all of them. -/
theorem read_eq_of_counts_of_one_short :
    let bytes := encodeUtf8 "LF:99999999999999999999999999\nLH:99999999999999999999999999\nLF:1\n"
    let disk := (Disk.empty ["home"]).create ["home", "r.info"] false bytes
    Lcov.lineCounts (decodeUtf8Lossy bytes) =
        [(.found, 10 ^ 26 - 1), (.hit, 10 ^ 26 - 1), (.found, 1)].map Lcov.readable ∧
      ∃ report, read disk (Path.ofText "r.info") "" = .ok report ∧
        toPercent (.finite report.total) = .ok 99 ∧
        ∃ check, checkThreshold (.finite report.total) 100 = .ok check ∧ check.passed ≠ true := by
  intro bytes disk
  have hentries : Lcov.lineCounts (decodeUtf8Lossy bytes) =
      [(.found, 10 ^ 26 - 1), (.hit, 10 ^ 26 - 1), (.found, 1)].map Lcov.readable := by
    decide +kernel
  have hcontent : Files.content? disk (Path.ofText "r.info") = some bytes := by
    clear_value bytes
    cbv
  have hformat : ReportFormat.resolve (Path.ofText "r.info") "" = .lcov := by decide
  have hfound : Lcov.sum .found [(.found, 10 ^ 26 - 1), (.hit, 10 ^ 26 - 1), (.found, 1)] = 10 ^ 26 := by
    decide
  have hhit : Lcov.sum .hit [(.found, 10 ^ 26 - 1), (.hit, 10 ^ 26 - 1), (.found, 1)] = 10 ^ 26 - 1 := by
    decide
  obtain ⟨report, hread, hpercent, hcheck⟩ :=
    (read_eq_of_counts hcontent hformat hentries hfound hhit (by decide) (by decide) (by decide)).2
      (by decide)
  obtain ⟨check, hmade, hpassed⟩ := hcheck 100
  refine ⟨hentries, report, hread, hpercent, check, hmade, mt hpassed.mp ?_⟩
  norm_num

end Report

end Gatekeeper
