import Gatekeeper.Proofs.Gate.Course
import Gatekeeper.Proofs.Number.Binary64Value
import Gatekeeper.Proofs.Settings.Origin

/-! The judgement on a ratio by settings that are in range. It is always made once the percentage can be
written, and it is a pass just when the percentage is at least the minimum and at most the limit below that of
the stored ratio. -/

namespace Gatekeeper

open Work Number

theorem Binary64.isSome_ofInt? {n : Int} (h : n.natAbs ≤ 100) : (ofInt? n).isSome = true := by
  have hall : ∀ k : Fin 201, (ofInt? ((k : Int) - 100)).isSome = true := by decide +kernel
  have hn := hall ⟨(n + 100).toNat, by omega⟩
  rwa [show (((n + 100).toNat : Nat) : Int) - 100 = n by omega] at hn

namespace Gate

/-- Whether a percentage passes both checks, against the minimum and against the stored ratio. -/
def Passes (settings : Settings) (baseline : Option Decimal) (percent : Int) : Prop :=
  settings.minCoverage ≤ percent ∧ ∀ earlier earlierPercent, baseline = some earlier →
    toPercent (.finite earlier) = .ok earlierPercent → settings.maxDrop.Allows (earlierPercent - percent)

section

variable {settings : Settings} {ratio : Decimal} {baseline : Option Decimal} {percent : Int}

/-- A ratio that was judged passed just when its percentage does. -/
theorem verdict_eq_pass_iff {shown : Int} {judgement : Judgement} {world after : World}
    (hrange : settings.InRange) (hone : ratio.exceedsOne = false)
    (hbaseline : ∀ earlier, baseline = some earlier → earlier.inUnit = true)
    (hpercent : toPercent (.finite ratio) = .ok percent)
    (h : (judge settings ratio shown baseline).run world = .ok judgement after) :
    judgement.verdict = .pass ↔ Passes settings baseline percent := by
  rw [Passes]
  rcases of_judge_eq_ok hpercent h with ⟨hlow, hverdict⟩ | ⟨hgood, check, hcheck, hverdict⟩
  · rw [hverdict]
    exact iff_of_false nofun fun hpasses => absurd hpasses.1 (Int.not_le.mpr hlow)
  · have hpassed : judgement.verdict = .pass ↔ check.passed = true := by
      rw [hverdict]
      cases check.passed <;> simp
    rw [hpassed]
    rcases of_checkRegression_eq_ok hpercent hcheck with
      ⟨hnone, -, hpassed⟩ | ⟨numeral, earlierPercent, drop, hsome, hearlierPercent, hdrop, -, hpassed⟩
    · rw [Option.map_eq_none_iff] at hnone
      simp [hnone, hpassed, hgood]
    · obtain ⟨earlier, rfl, rfl⟩ := Option.map_eq_some_iff.mp hsome
      obtain ⟨hlow, hhigh⟩ := toPercent_bounds (hbaseline earlier rfl) hearlierPercent
      have hmost := toPercent_le_hundred hone hpercent
      have hleast := hrange.minCoverage.1.trans hgood
      rw [hpassed, Binary64.le_iff_allows hdrop (by omega)]
      refine ⟨fun hallows => ⟨hgood, ?_⟩, fun hpasses =>
        hpasses.2 earlier earlierPercent rfl hearlierPercent⟩
      rintro _ otherPercent ⟨⟩ hother
      rw [hearlierPercent] at hother
      cases hother
      exact hallows

theorem ends_percentText {n : Int} (h : (wholeText? n).isSome = true) : Ends (percentText n) := by
  unfold percentText
  cases htext : wholeText? n with
  | none =>
      rw [htext] at h
      cases h
  | some text => exact Ends.pure _

theorem ends_print (line : String) : Ends (Run.print line) :=
  Ends.modify _

theorem ends_log (level : Level) (source : Source) (message : String) : Ends (Run.log level source message) :=
  Ends.modify _

theorem ends_enter (phase : Phase) : Ends (Run.enter phase) :=
  Ends.bind (Ends.modify _) fun _ => ends_log _ _ _

/-- The check against the stored ratio can be made for a percentage that is good enough, and its drop is
small. -/
theorem exists_checkRegression_eq_ok (hrange : settings.InRange) (hone : ratio.exceedsOne = false)
    (hbaseline : ∀ earlier, baseline = some earlier → earlier.inUnit = true)
    (hpercent : toPercent (.finite ratio) = .ok percent) (hgood : settings.minCoverage ≤ percent) :
    ∃ check, checkRegression (.finite ratio) (baseline.map Numeral.finite) settings.maxDrop = .ok check ∧
      ∀ comparison, check.comparison = some comparison →
        (wholeText? comparison.baselinePercent).isSome = true := by
  rw [checkRegression, hpercent]
  cases baseline with
  | none =>
      refine ⟨⟨true, percent, none, settings.maxDrop⟩, rfl, fun comparison hnone => ?_⟩
      cases hnone
  | some earlier =>
      have hunit := hbaseline earlier rfl
      have hearlier := toPercent_eq_ok_iff.mpr (Decimal.percent_eq_floor hunit)
      obtain ⟨hlow, hhigh⟩ := toPercent_bounds hunit hearlier
      have hmost := toPercent_le_hundred hone hpercent
      have hleast := hrange.minCoverage.1.trans hgood
      generalize ⌊earlier.hundredfold.size⌋ = earlierPercent at *
      obtain ⟨drop, hdrop⟩ := Option.isSome_iff_exists.mp
        (Binary64.isSome_ofInt? (show (earlierPercent - percent).natAbs ≤ 100 by omega))
      refine ⟨⟨drop.le settings.maxDrop, percent, some ⟨earlierPercent, drop⟩, settings.maxDrop⟩, ?_, ?_⟩
      · change (toPercent (.finite earlier)).bind (compareDrop percent · settings.maxDrop) = _
        rw [hearlier, Except.bind, compareDrop, hdrop]
      · rintro _ ⟨⟩
        exact isSome_wholeText? (show earlierPercent.natAbs ≤ 10 ^ 26 by omega)

theorem ends_judgeRegression (hrange : settings.InRange) (hone : ratio.exceedsOne = false)
    (hbaseline : ∀ earlier, baseline = some earlier → earlier.inUnit = true)
    (hpercent : toPercent (.finite ratio) = .ok percent) (hshown : (wholeText? percent).isSome = true)
    (hgood : settings.minCoverage ≤ percent) : Ends (judgeRegression settings ratio percent baseline) := by
  obtain ⟨check, hcheck, hearlier⟩ :=
    exists_checkRegression_eq_ok hrange hone hbaseline hpercent hgood
  have hminimum : (wholeText? settings.minCoverage).isSome = true := by
    have hbounds := hrange.minCoverage
    exact isSome_wholeText? (by omega)
  rw [judgeRegression, hcheck]
  refine Ends.bind (ends_print _) fun _ => Ends.bind (ends_enter _) fun _ => ?_
  rw [checked, pure_bind]
  have hmeets : Ends (meetsText settings percent) :=
    Ends.bind (ends_percentText hshown) fun _ => Ends.bind (ends_percentText hminimum) fun _ => Ends.pure _
  split
  · exact Ends.bind (ends_print _) fun _ => Ends.bind hmeets fun _ => Ends.pure _
  · rename_i comparison hcomparison
    refine Ends.bind (ends_percentText (hearlier comparison hcomparison)) fun _ => ?_
    refine Ends.bind (ends_print _) fun _ => Ends.bind (ends_print _) fun _ => ?_
    split
    · exact Ends.bind hmeets fun _ => Ends.bind (ends_print _) fun _ => Ends.pure _
    · exact Ends.bind (ends_percentText hshown) fun _ => Ends.bind (ends_print _) fun _ => Ends.pure _

/-- A ratio is judged once its percentage can be written. -/
theorem ends_judge (hrange : settings.InRange) (hone : ratio.exceedsOne = false)
    (hbaseline : ∀ earlier, baseline = some earlier → earlier.inUnit = true)
    (hpercent : toPercent (.finite ratio) = .ok percent) (hshown : (wholeText? percent).isSome = true) :
    Ends (judge settings ratio percent baseline) := by
  have hminimum : (wholeText? settings.minCoverage).isSome = true := by
    have hbounds := hrange.minCoverage
    exact isSome_wholeText? (by omega)
  rw [judge, checkThreshold_of_toPercent hpercent, checked, pure_bind]
  simp only [decide_eq_true_eq]
  split
  · rename_i hgood
    exact ends_judgeRegression hrange hone hbaseline hpercent hshown hgood
  · refine Ends.bind (ends_percentText hshown) fun _ => Ends.bind (ends_percentText hminimum) fun _ => ?_
    exact Ends.bind (ends_print _) fun _ => Ends.pure _

end

end Gate

end Gatekeeper
