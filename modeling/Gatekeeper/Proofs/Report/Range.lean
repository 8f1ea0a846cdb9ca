import Gatekeeper.Baseline
import Gatekeeper.Proofs.Files.Locate
import Gatekeeper.Proofs.Number.Quotient
import Gatekeeper.Report

/-! The range of the ratios of a report. Markup gives ratios in the unit interval only. Of line records only
quotients above one are refused, so that a negative count gives a ratio that no file is to store. -/

namespace Gatekeeper

open Number Text

namespace Cobertura

theorem inUnit_of_ratio_eq_ok {text : String} {value : Decimal} (h : ratio text = .ok value) :
    value.inUnit = true := by
  rw [ratio] at h
  split at h
  · cases h
  · split at h
    · rename_i hvalue
      cases h
      exact (Numeral.inUnit?_eq_some_iff.mp hvalue).2
    · cases h

theorem inUnit_of_ratios_eq_ok {markers : List String} {found : Ratios} (h : ratios markers = .ok found) :
    ∀ value ∈ found.total :: found.rest, value.inUnit = true := by
  cases markers with
  | nil => cases h
  | cons first others =>
      rw [ratios] at h
      cases htotal : ratio first with
      | error defect =>
          rw [htotal] at h
          cases h
      | ok total =>
          rw [htotal] at h
          cases h
          intro value hvalue
          rcases List.mem_cons.mp hvalue with rfl | hrest
          · exact inUnit_of_ratio_eq_ok htotal
          · obtain ⟨text, -, htext⟩ := List.mem_filterMap.mp hrest
            cases hratio : ratio text with
            | error defect => simp [ratio?, hratio, Except.toOption] at htext
            | ok good =>
                simp only [ratio?, hratio, Except.toOption, Option.some.injEq] at htext
                exact htext ▸ inUnit_of_ratio_eq_ok hratio

end Cobertura

namespace Lcov

/-- Whether the quotient of totals is not negative, or too small to be told from zero. -/
def Totals.IsNonnegative (totals : Totals) : Prop :=
  0 ≤ totals.hit * totals.found ∨
    |(totals.hit / totals.found : ℚ)| ≤ 10 ^ Decimal.minResultExponent / 2

/-- A quotient above one was refused, so that only its sign is left to be looked at. -/
theorem inUnit_iff_of_ratio_eq_ok {totals : Totals} {value : Decimal} (h : ratio totals = .ok value) :
    value.inUnit = true ↔ totals.IsNonnegative := by
  rw [ratio] at h
  split at h
  · cases h
  · split at h
    · rename_i hfound
      cases h
      simp only [Totals.IsNonnegative, hfound, mul_zero, le_refl, true_or, iff_true]
      decide
    · rename_i hfound
      simp only at h
      split at h
      · cases h
      · rename_i hexceeds
        cases h
        have hone : (Decimal.quotient totals.hit totals.found).value ≤ 1 :=
          not_lt.mp (mt (Decimal.exceedsOne_iff _).mpr hexceeds)
        rw [Decimal.inUnit_iff, Totals.IsNonnegative, ← Decimal.value_quotient_nonneg_iff hfound]
        exact and_iff_left hone

end Lcov

theorem Baseline.inUnit_iff_accepted (value : Decimal) :
    (∀ disk path refused, (save disk path (.finite value)).1 ≠ .error (.outsideUnit refused)) ↔
      value.inUnit = true := by
  constructor
  · intro h
    by_contra hunit
    apply h (Disk.empty []) (Path.ofText "") (.finite value)
    rw [save, Numeral.inUnit?, if_neg hunit]
  · intro hunit disk path refused h
    rw [save, Numeral.inUnit?, if_pos hunit] at h
    simp only at h
    split at h <;> cases h

namespace Report

theorem inUnit_of_ofMarkup_eq_ok {path : Path} {format : ReportFormat} {bytes : List UInt8}
    {report : Report} (h : ofMarkup path format bytes = .ok report) :
    ∀ value ∈ report.ratios, value.inUnit = true := by
  rw [ofMarkup] at h
  split at h
  · cases h
  · cases h
  · split at h
    · rename_i hfound
      cases h
      exact Cobertura.inUnit_of_ratios_eq_ok hfound
    · cases h

theorem of_ofRecords_eq_ok {path : Path} {bytes : List UInt8} {report : Report}
    (h : ofRecords path bytes = .ok report) :
    ∃ totals, Lcov.totals (decodeUtf8Lossy bytes) = .ok totals ∧
      Lcov.ratio totals = .ok report.total ∧ report.rest = [] := by
  rw [ofRecords] at h
  split at h
  · rename_i total htotal
    cases h
    rw [Lcov.read] at htotal
    cases htotals : Lcov.totals (decodeUtf8Lossy bytes) with
    | error defect =>
        rw [htotals] at htotal
        cases htotal
    | ok totals =>
        rw [htotals] at htotal
        exact ⟨totals, rfl, htotal, rfl⟩
  · cases h

/-- What a report holds is what its format finds in the file. -/
theorem of_read_eq_ok {disk : Disk} {path : Path} {asked : String} {report : Report}
    (h : read disk path asked = .ok report) :
    ∃ bytes, Files.content? disk path = some bytes ∧
      ofBytes path (ReportFormat.resolve path asked) bytes = .ok report := by
  rw [read] at h
  split at h
  · cases h
  · rename_i bytes hlookup
    refine ⟨bytes, ?_, h⟩
    rw [Files.content?, hlookup]
  · cases h

theorem read_of_content?_eq_some {disk : Disk} {path : Path} {bytes : List UInt8}
    (h : Files.content? disk path = some bytes) (asked : String) :
    read disk path asked = ofBytes path (ReportFormat.resolve path asked) bytes := by
  rw [Files.content?] at h
  rw [read]
  split at h
  · rename_i hlookup
    cases h
    rw [hlookup]
  · cases h

theorem ofBytes_of_ne_lcov {format : ReportFormat} (h : format ≠ .lcov) (path : Path) (bytes : List UInt8) :
    ofBytes path format bytes = ofMarkup path format bytes := by
  cases format with
  | lcov => exact absurd rfl h
  | cobertura => rfl
  | other name => rfl

/-- A report in markup with one marker holds the ratio of that marker. -/
theorem exists_read_of_marker {disk : Disk} {path : Path} {bytes : List UInt8} {total : Decimal}
    (marker : String) (hcontent : Files.content? disk path = some bytes)
    (hformat : ReportFormat.resolve path "" ≠ .lcov)
    (hmarkers : (Markup.readDocument bytes).map Cobertura.markers = .ok [marker])
    (hratio : Cobertura.ratio marker = .ok total) :
    ∃ report, read disk path "" = .ok report ∧ report.total = total := by
  rw [read_of_content?_eq_some hcontent, ofBytes_of_ne_lcov hformat, ofMarkup]
  cases hdocument : Markup.readDocument bytes with
  | error cause =>
      rw [hdocument] at hmarkers
      cases hmarkers
  | ok tags =>
      rw [hdocument] at hmarkers
      simp only [Except.ok.inj hmarkers, Cobertura.ratios, hratio]
      exact ⟨_, rfl, rfl⟩

theorem read_of_content?_eq_none {disk : Disk} {path : Path} (h : Files.content? disk path = none)
    (asked : String) :
    read disk path asked = .error .missing ∨ ∃ cause, read disk path asked = .error (.file cause) := by
  rw [Files.content?] at h
  rw [read]
  split
  · rename_i cause _
    exact .inr ⟨cause, rfl⟩
  · rename_i hlookup
    rw [hlookup] at h
    cases h
  · exact .inl rfl

theorem failure_ne_missing (defect : Defect) : failure defect ≠ .missing := by
  cases defect with
  | excess hit found =>
      rw [failure]
      split <;> nofun
  | _ => nofun

theorem ofBytes_ne_missing (path : Path) (format : ReportFormat) (bytes : List UInt8) :
    ofBytes path format bytes ≠ .error .missing := by
  have hrecords : ofRecords path bytes ≠ .error .missing := by
    rw [ofRecords]
    split
    · nofun
    · rename_i defect _
      exact fun h => failure_ne_missing defect (Except.error.inj h)
  have hmarkup : ofMarkup path format bytes ≠ .error .missing := by
    rw [ofMarkup]
    split
    · nofun
    · nofun
    · split
      · nofun
      · rename_i defect _
        exact fun h => failure_ne_missing defect (Except.error.inj h)
  cases format with
  | lcov => exact hrecords
  | cobertura => exact hmarkup
  | other name => exact hmarkup

theorem content?_of_read_eq_missing {disk : Disk} {path : Path} {asked : String}
    (h : read disk path asked = .error .missing) : Files.content? disk path = none := by
  cases hcontent : Files.content? disk path with
  | none => rfl
  | some bytes =>
      rw [read_of_content?_eq_some hcontent] at h
      exact absurd h (ofBytes_ne_missing _ _ _)

/-- The ratios of a report are all in the unit interval, and the total can be stored, unless it is the
quotient of line records whose totals have opposite signs. -/
theorem ratios_inUnit_iff {disk : Disk} {path : Path} {asked : String} {report : Report}
    (h : read disk path asked = .ok report) :
    (report.ratios ≠ [] ∧ (∀ ratio ∈ report.ratios, 0 ≤ ratio.value ∧ ratio.value ≤ 1) ∧
        ∀ store place refused,
          (Baseline.save store place (.finite report.total)).1 ≠ .error (.outsideUnit refused)) ↔
      ∀ bytes totals, Files.content? disk path = some bytes →
        ReportFormat.resolve path asked = .lcov → Lcov.totals (decodeUtf8Lossy bytes) = .ok totals →
        totals.IsNonnegative := by
  obtain ⟨content, hcontent, hread⟩ := of_read_eq_ok h
  simp only [← Decimal.inUnit_iff, Baseline.inUnit_iff_accepted]
  have htotal : report.total ∈ report.ratios := List.mem_cons_self
  by_cases hformat : ReportFormat.resolve path asked = .lcov
  · rw [hformat] at hread
    obtain ⟨counted, hcounted, hratio, hrest⟩ := of_ofRecords_eq_ok hread
    have hunit := Lcov.inUnit_iff_of_ratio_eq_ok hratio
    constructor
    · rintro ⟨-, hall, -⟩ bytes totals hbytes - htotals
      rw [hcontent] at hbytes
      cases hbytes
      rw [hcounted] at htotals
      cases htotals
      exact hunit.mp (hall report.total htotal)
    · intro hcondition
      have hgood := hunit.mpr (hcondition content counted hcontent hformat hcounted)
      refine ⟨List.cons_ne_nil _ _, fun ratio hmem => ?_, hgood⟩
      rw [ratios, hrest, List.mem_singleton] at hmem
      exact hmem ▸ hgood
  · have hall : ∀ ratio ∈ report.ratios, ratio.inUnit = true := by
      cases hkind : ReportFormat.resolve path asked with
      | lcov => exact absurd hkind hformat
      | cobertura =>
          rw [hkind] at hread
          exact inUnit_of_ofMarkup_eq_ok hread
      | other name =>
          rw [hkind] at hread
          exact inUnit_of_ofMarkup_eq_ok hread
    constructor
    · exact fun _ _ _ _ hlcov => absurd hlcov hformat
    · exact fun _ => ⟨List.cons_ne_nil _ _, hall, hall _ htotal⟩

/-- Minus five lines of ten: the report is read, and its total is below zero. -/
theorem ratios_inUnit_iff_of_negative_count :
    let disk := (Disk.empty ["home"]).create ["home", "r.info"] false (encodeUtf8 "LF:10\nLH:-5\n")
    ∃ report, read disk (Path.ofText "r.info") "" = .ok report ∧ report.total = ⟨true, 5, -1⟩ ∧
      ¬(report.ratios ≠ [] ∧ (∀ ratio ∈ report.ratios, 0 ≤ ratio.value ∧ ratio.value ≤ 1) ∧
        ∀ store place refused,
          (Baseline.save store place (.finite report.total)).1 ≠ .error (.outsideUnit refused)) := by
  intro disk
  have htotals : Lcov.totals (decodeUtf8Lossy (encodeUtf8 "LF:10\nLH:-5\n")) = .ok ⟨10, -5, true⟩ := by
    cbv
  have hquotient : Decimal.quotient (-5) 10 = ⟨true, 5, -1⟩ := by decide +kernel
  have hratio : Lcov.read (encodeUtf8 "LF:10\nLH:-5\n") = .ok ⟨true, 5, -1⟩ := by
    rw [Lcov.read, htotals]
    change Lcov.ratio _ = _
    rw [Lcov.ratio, if_neg (by decide), if_neg (by decide), hquotient]
    rfl
  have hlookup : Files.lookup disk (Path.ofText "r.info") =
      .ok (some (.file 0 false (encodeUtf8 "LF:10\nLH:-5\n"))) := by
    cbv
  have hread : read disk (Path.ofText "r.info") "" =
      .ok ⟨Path.ofText "r.info", .lcov, ⟨true, 5, -1⟩, [], []⟩ := by
    rw [read, hlookup]
    change ofRecords _ _ = _
    rw [ofRecords, hratio]
  refine ⟨_, hread, rfl, fun hall => ?_⟩
  have hcontent : Files.content? disk (Path.ofText "r.info") = some (encodeUtf8 "LF:10\nLH:-5\n") := by
    rw [Files.content?, hlookup]
  have hsmall : (10 : ℚ) ^ Decimal.minResultExponent < 1 :=
    zpow_lt_one_of_neg₀ (by norm_num) (by decide)
  rcases (ratios_inUnit_iff hread).mp hall _ _ hcontent (by decide) htotals with hsign | hsize
  · revert hsign
    decide
  · norm_num [abs_of_neg] at hsize
    linarith

end Report

end Gatekeeper
