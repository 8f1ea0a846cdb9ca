import Gatekeeper.Policy
import Gatekeeper.Proofs.Number.PercentValue

/-! What the two checks of a ratio say when they can be made. The percentages that they compare are those of
ratios, so that they lie between zero and one hundred. -/

namespace Gatekeeper

theorem toPercent_eq_ok_iff {ratio : Decimal} {percent : Int} :
    toPercent (.finite ratio) = .ok percent ↔ ratio.percent = .ok percent := by
  rw [toPercent, Numeral.percent]
  cases ratio.percent <;> simp [Except.mapError]

theorem toPercent_bounds {ratio : Decimal} {percent : Int} (hunit : ratio.inUnit = true)
    (h : toPercent (.finite ratio) = .ok percent) : 0 ≤ percent ∧ percent ≤ 100 :=
  Decimal.percent_bounds hunit (toPercent_eq_ok_iff.mp h)

/-- A ratio that does not exceed one has at most one hundred percent. -/
theorem toPercent_le_hundred {ratio : Decimal} {percent : Int} (hone : ratio.exceedsOne = false)
    (h : toPercent (.finite ratio) = .ok percent) : percent ≤ 100 := by
  by_cases hunit : ratio.inUnit = true
  · exact (toPercent_bounds hunit h).2
  · exact (Decimal.percent_nonpos (Decimal.negative_of_not_inUnit hone hunit) (toPercent_eq_ok_iff.mp h)).trans
      (by decide)

theorem checkThreshold_of_toPercent {ratio : Numeral} {percent : Int} (h : toPercent ratio = .ok percent)
    (minimum : Int) : checkThreshold ratio minimum = .ok ⟨decide (minimum ≤ percent), percent, minimum⟩ := by
  rw [checkThreshold, h]
  rfl

theorem of_checkThreshold_eq_ok {ratio : Numeral} {minimum percent : Int} {check : ThresholdCheck}
    (hpercent : toPercent ratio = .ok percent) (h : checkThreshold ratio minimum = .ok check) :
    check.passed = decide (minimum ≤ percent) := by
  rw [checkThreshold, hpercent] at h
  cases h
  rfl

/-- Without an earlier ratio the check is passed; else it is passed when the drop, as a binary fraction, is
at most the limit. -/
theorem of_checkRegression_eq_ok {current : Numeral} {baseline : Option Numeral} {maxDrop : Binary64}
    {percent : Int} {check : RegressionCheck} (hpercent : toPercent current = .ok percent)
    (h : checkRegression current baseline maxDrop = .ok check) :
    (baseline = none ∧ check.comparison = none ∧ check.passed = true) ∨
      ∃ earlier earlierPercent drop, baseline = some earlier ∧ toPercent earlier = .ok earlierPercent ∧
        Binary64.ofInt? (earlierPercent - percent) = some drop ∧
        check.comparison = some ⟨earlierPercent, drop⟩ ∧ check.passed = drop.le maxDrop := by
  rw [checkRegression, hpercent] at h
  cases baseline with
  | none =>
      cases h
      exact .inl ⟨rfl, rfl, rfl⟩
  | some earlier =>
      cases hearlier : toPercent earlier with
      | error cause =>
          simp only [hearlier] at h
          cases h
      | ok earlierPercent =>
          simp only [hearlier] at h
          change compareDrop percent earlierPercent maxDrop = .ok check at h
          rw [compareDrop] at h
          split at h
          · rename_i drop hdrop
            cases h
            exact .inr ⟨earlier, earlierPercent, drop, rfl, hearlier, hdrop, rfl, rfl⟩
          · cases h

end Gatekeeper
