import Gatekeeper.Proofs.Number.DecimalText
import Gatekeeper.Proofs.Report.Range

/-! The bounds of the ratios of a report. Markup gives numerals that were read, and line records give
quotients; either way the power of ten of a total that can be stored is within the bounds of a numeral. -/

namespace Gatekeeper

theorem Cobertura.isBounded_of_ratio_eq_ok {text : String} {value : Decimal}
    (h : ratio text = .ok value) : value.isBounded = true := by
  rw [ratio] at h
  split at h
  · cases h
  · rename_i hread
    split at h
    · rename_i hvalue
      cases h
      rw [(Numeral.inUnit?_eq_some_iff.mp hvalue).1] at hread
      exact Numeral.isBounded_of_ofChars?_eq_some hread
    · cases h

theorem Cobertura.isBounded_total {markers : List String} {found : Ratios}
    (h : ratios markers = .ok found) : found.total.isBounded = true := by
  cases markers with
  | nil => cases h
  | cons first others =>
      rw [ratios] at h
      cases htotal : ratio first with
      | error defect =>
          rw [htotal] at h
          cases h
      | ok total =>
          rw [htotal] at h
          cases h
          exact isBounded_of_ratio_eq_ok htotal

theorem Lcov.isBounded_of_ratio_eq_ok {totals : Totals} {value : Decimal} (h : ratio totals = .ok value)
    (hunit : value.inUnit = true) : value.isBounded = true := by
  rw [ratio] at h
  split at h
  · cases h
  · split at h
    · cases h
      decide
    · rename_i hfound
      simp only at h
      split at h
      · cases h
      · cases h
        exact Decimal.isBounded_quotient hfound hunit

theorem Lcov.exceedsOne_of_ratio_eq_ok {totals : Totals} {value : Decimal} (h : ratio totals = .ok value) :
    value.exceedsOne = false := by
  rw [ratio] at h
  split at h
  · cases h
  · split at h
    · cases h
      decide
    · simp only at h
      split at h
      · cases h
      · rename_i hone
        cases h
        exact Bool.not_eq_true _ ▸ hone

namespace Report

theorem isBounded_total_of_ofMarkup_eq_ok {path : Path} {format : ReportFormat} {bytes : List UInt8}
    {report : Report} (h : ofMarkup path format bytes = .ok report) : report.total.isBounded = true := by
  rw [ofMarkup] at h
  split at h
  · cases h
  · cases h
  · split at h
    · rename_i hfound
      cases h
      exact Cobertura.isBounded_total hfound
    · cases h

section

variable {disk : Disk} {path : Path} {asked : String} {report : Report}

/-- A total is the quotient of totals of line records, or it was found in markup. -/
theorem total_of_read_eq_ok (h : read disk path asked = .ok report) :
    (∃ totals, Lcov.ratio totals = .ok report.total) ∨
      ∃ format bytes, ofMarkup path format bytes = .ok report := by
  obtain ⟨bytes, -, hread⟩ := of_read_eq_ok h
  by_cases hformat : ReportFormat.resolve path asked = .lcov
  · rw [hformat] at hread
    obtain ⟨totals, -, hratio, -⟩ := of_ofRecords_eq_ok hread
    exact .inl ⟨totals, hratio⟩
  · rw [ofBytes_of_ne_lcov hformat] at hread
    exact .inr ⟨_, bytes, hread⟩

/-- The total of a report is within the bounds of a numeral when it is in the unit interval. -/
theorem isBounded_total (h : read disk path asked = .ok report) (hunit : report.total.inUnit = true) :
    report.total.isBounded = true := by
  rcases total_of_read_eq_ok h with ⟨totals, hratio⟩ | ⟨format, bytes, hread⟩
  · exact Lcov.isBounded_of_ratio_eq_ok hratio hunit
  · exact isBounded_total_of_ofMarkup_eq_ok hread

/-- No total of a report exceeds one. -/
theorem exceedsOne_total (h : read disk path asked = .ok report) : report.total.exceedsOne = false := by
  rcases total_of_read_eq_ok h with ⟨totals, hratio⟩ | ⟨format, bytes, hread⟩
  · exact Lcov.exceedsOne_of_ratio_eq_ok hratio
  · have hunit := inUnit_of_ofMarkup_eq_ok hread report.total List.mem_cons_self
    rw [← Bool.not_eq_true, Decimal.exceedsOne_iff, not_lt]
    exact ((Decimal.inUnit_iff report.total).mp hunit).2

end

end Report

end Gatekeeper
