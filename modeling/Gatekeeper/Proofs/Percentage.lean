import Gatekeeper.Proofs.Number.PercentError
import Gatekeeper.Proofs.Policy

/-! Percentages of ratios in exact arithmetic. Every ratio has one, from zero to one hundred. It is the whole part of
the hundredfold, but for a ratio with more digits than are kept, which may be carried up to the next whole number; it
keeps the order of ratios all the same, because how far below a whole number a ratio is carried up to it does not
depend on the number of its digits. -/

namespace Gatekeeper

theorem Decimal.value_eq_size {d : Decimal} (hunit : d.inUnit = true) : d.value = d.size := by
  cases hnegative : d.negative with
  | false => exact value_of_not_negative hnegative
  | true =>
      have hzero := (value_nonneg_iff_of_negative hnegative).mp ((inUnit_iff d).mp hunit).1
      rw [value_of_negative hnegative, (size_eq_zero_iff d).mpr hzero, neg_zero]

theorem exists_toPercent {ratio : Decimal} (hunit : ratio.inUnit = true) :
    ∃ percent, toPercent (.finite ratio) = .ok percent :=
  ⟨_, toPercent_eq_ok_iff.mpr (Decimal.percent_eq_floor hunit)⟩

theorem toPercent_eq_floor {ratio : Decimal} {percent : Int} (hunit : ratio.inUnit = true)
    (h : toPercent (.finite ratio) = .ok percent) : percent = ⌊ratio.hundredfold.size⌋ := by
  rw [toPercent_eq_ok_iff, Decimal.percent_eq_floor hunit] at h
  exact (Except.ok.inj h).symm

/-- A percentage is at least a bound just when the ratio is, but for the slack. -/
theorem le_toPercent_iff {ratio : Decimal} {percent : Int} {bound : Nat} (hunit : ratio.inUnit = true)
    (h : toPercent (.finite ratio) = .ok percent) (hbound : bound ≤ 10 ^ 26) :
    (bound : Int) ≤ percent ↔ (bound : ℚ) ≤ 100 * ratio.value + ratio.slack bound := by
  rw [toPercent_eq_floor hunit h, Int.le_floor, Decimal.value_eq_size hunit, Int.cast_natCast,
    Decimal.le_size_hundredfold_iff hbound]

/-- The hundredfold of a ratio is less than one point above its percentage, and by half of the last digit that is
kept there, because no rounding carried it up. -/
theorem lt_toPercent_add_one {ratio : Decimal} {points : Nat} (hunit : ratio.inUnit = true)
    (h : toPercent (.finite ratio) = .ok (points : Int)) :
    100 * ratio.value < points + 1 - Decimal.halfUnit (points + 1) := by
  obtain ⟨-, hhigh⟩ := toPercent_bounds hunit h
  have hfloor := Int.lt_floor_add_one ratio.hundredfold.size
  rw [← toPercent_eq_floor hunit h] at hfloor
  have hless : ¬((points + 1 : Nat) : ℚ) ≤ ratio.hundredfold.size := by
    rw [not_le]
    exact_mod_cast hfloor
  rw [Decimal.le_size_hundredfold_iff_near (Nat.succ_pos _) (by omega), not_le] at hless
  rw [Decimal.value_eq_size hunit]
  exact_mod_cast hless

/-- The hundredfold of a ratio is below its percentage by at most half of the last digit that is kept there. -/
theorem toPercent_le {ratio : Decimal} {points : Nat} (hunit : ratio.inUnit = true)
    (h : toPercent (.finite ratio) = .ok (points : Int)) :
    points - Decimal.halfUnit points ≤ 100 * ratio.value := by
  obtain ⟨-, hhigh⟩ := toPercent_bounds hunit h
  rw [Decimal.value_eq_size hunit]
  rcases Nat.eq_zero_or_pos points with rfl | hpos
  · have hsize := Decimal.size_nonneg ratio
    have hhalf := Decimal.halfUnit_pos 0
    push_cast
    linarith
  · rw [← Decimal.le_size_hundredfold_iff_near hpos (by omega)]
    have hfloor := Int.floor_le ratio.hundredfold.size
    rw [← toPercent_eq_floor hunit h] at hfloor
    exact_mod_cast hfloor

/-- Percentages keep the order of ratios. -/
theorem toPercent_mono {low high : Decimal} {before after : Int} (hlow : low.inUnit = true)
    (hhigh : high.inUnit = true) (hle : low.value ≤ high.value) (hbefore : toPercent (.finite low) = .ok before)
    (hafter : toPercent (.finite high) = .ok after) : before ≤ after := by
  obtain ⟨hleast, hmost⟩ := toPercent_bounds hlow hbefore
  obtain ⟨points, rfl⟩ := Int.eq_ofNat_of_zero_le hleast
  rcases Nat.eq_zero_or_pos points with rfl | hpos
  · exact (toPercent_bounds hhigh hafter).1
  · -- how far below whole points a ratio is carried up to them does not depend on the number of its digits
    have hpoints : (points : ℚ) - Decimal.halfUnit points ≤ 100 * low.value := toPercent_le hlow hbefore
    rw [toPercent_eq_floor hhigh hafter]
    apply Int.le_floor.mpr
    rw [Int.cast_natCast, Decimal.le_size_hundredfold_iff_near hpos (by omega), ← Decimal.value_eq_size hhigh]
    linarith

/-- A ratio falls by less than one point more than its percentage does: what rounding adds to the lower one, it
would have added to the higher one too. -/
theorem drop_lt {earlier ratio : Decimal} {before now : Int} (hearlier : earlier.inUnit = true)
    (hunit : ratio.inUnit = true) (hbefore : toPercent (.finite earlier) = .ok before)
    (hnow : toPercent (.finite ratio) = .ok now) :
    100 * (earlier.value - ratio.value) < max ((before - now : Int) : ℚ) 0 + 1 := by
  obtain ⟨high, rfl⟩ := Int.eq_ofNat_of_zero_le (toPercent_bounds hearlier hbefore).1
  obtain ⟨low, rfl⟩ := Int.eq_ofNat_of_zero_le (toPercent_bounds hunit hnow).1
  have hlow := (toPercent_bounds hunit hnow).2
  have habove := lt_toPercent_add_one hearlier hbefore
  have hbelow := toPercent_le hunit hnow
  have hdrop := le_max_left (((high : Int) - (low : Int) : Int) : ℚ) 0
  have hnone := le_max_right (((high : Int) - (low : Int) : Int) : ℚ) 0
  push_cast at hdrop hnone ⊢
  rcases Nat.lt_or_ge (high + 1) low with hrise | hfall
  · have hhalf := Decimal.halfUnit_pos (high + 1)
    have hone := Decimal.halfUnit_le_one (show low ≤ 10 ^ 26 by omega)
    have hpoints : ((high + 1 + 1 : Nat) : ℚ) ≤ low := by exact_mod_cast hrise
    push_cast at hpoints
    linarith
  · have hmono := Decimal.halfUnit_mono hfall
    linarith

/-- A ratio of which all digits are kept has the whole part of its hundredfold as its percentage. -/
theorem toPercent_eq_floor_of_digitCount_le {ratio : Decimal} {percent : Int} (hunit : ratio.inUnit = true)
    (hdigits : Number.digitCount ratio.coefficient ≤ precision)
    (h : toPercent (.finite ratio) = .ok percent) : percent = ⌊100 * ratio.value⌋ := by
  rw [toPercent_eq_floor hunit h, Decimal.size_hundredfold_of_digitCount_le hdigits, Decimal.value_eq_size hunit]

/-- A ratio of any number of digits is carried up by less than one point. -/
theorem toPercent_near_floor {ratio : Decimal} {percent : Int} (hunit : ratio.inUnit = true)
    (h : toPercent (.finite ratio) = .ok percent) :
    ⌊100 * ratio.value⌋ ≤ percent ∧ percent ≤ ⌊100 * ratio.value⌋ + 1 := by
  obtain ⟨points, rfl⟩ := Int.eq_ofNat_of_zero_le (toPercent_bounds hunit h).1
  have hmost := (toPercent_bounds hunit h).2
  constructor
  · have habove := lt_toPercent_add_one hunit h
    have hhalf := Decimal.halfUnit_pos (points + 1)
    rw [← Int.lt_add_one_iff, Int.floor_lt]
    push_cast
    linarith
  · have hbelow := toPercent_le hunit h
    have hhalf := Decimal.halfUnit_le_one (show points ≤ 10 ^ 26 by omega)
    rw [← sub_le_iff_le_add, Int.le_floor]
    push_cast
    linarith

/-- Every ratio in the unit interval, whatever its digits, its exponent and the sign of a zero, has a percentage
from zero to one hundred. It is the whole part of the hundredfold or one more, no more when the ratio has at most
twenty-eight digits, and it is at most that of any higher ratio. -/
theorem toPercent_of_ratio {ratio : Decimal} (hlow : 0 ≤ ratio.value) (hhigh : ratio.value ≤ 1) :
    ∃ percent : Int, toPercent (.finite ratio) = .ok percent ∧ 0 ≤ percent ∧ percent ≤ 100 ∧
      ⌊100 * ratio.value⌋ ≤ percent ∧ percent ≤ ⌊100 * ratio.value⌋ + 1 ∧
      (Number.digitCount ratio.coefficient ≤ 28 → percent = ⌊100 * ratio.value⌋) ∧
      ∀ higher : Decimal, ratio.value ≤ higher.value → higher.value ≤ 1 →
        ∃ more : Int, toPercent (.finite higher) = .ok more ∧ percent ≤ more := by
  have hunit : ratio.inUnit = true := (Decimal.inUnit_iff ratio).mpr ⟨hlow, hhigh⟩
  obtain ⟨percent, hpercent⟩ := exists_toPercent hunit
  obtain ⟨hleast, hmost⟩ := toPercent_bounds hunit hpercent
  obtain ⟨hfloor, hnext⟩ := toPercent_near_floor hunit hpercent
  refine ⟨percent, hpercent, hleast, hmost, hfloor, hnext,
    fun hdigits => toPercent_eq_floor_of_digitCount_le hunit hdigits hpercent, fun higher hle hone => ?_⟩
  have hhigher : higher.inUnit = true := (Decimal.inUnit_iff higher).mpr ⟨hlow.trans hle, hone⟩
  obtain ⟨more, hmore⟩ := exists_toPercent hhigher
  exact ⟨more, hmore, toPercent_mono hunit hhigher hle hpercent hmore⟩

/-- Thirty-two digits just below one half are carried up to fifty percent, and one half itself has no less. -/
theorem toPercent_of_ratio_carried_up :
    let ratio : Decimal := ⟨false, 49999999999999999999999999999999, -32⟩
    let half : Decimal := ⟨false, 5, -1⟩
    0 ≤ ratio.value ∧ ratio.value ≤ 1 ∧ ratio.value ≤ half.value ∧
      ∃ percent more : Int, toPercent (.finite ratio) = .ok percent ∧ percent = ⌊100 * ratio.value⌋ + 1 ∧
        toPercent (.finite half) = .ok more ∧ percent ≤ more := by
  intro ratio half
  have hlow : 0 ≤ ratio.value := by norm_num [Decimal.value, Decimal.size, ratio]
  have hhigh : ratio.value ≤ 1 := by norm_num [Decimal.value, Decimal.size, ratio]
  have hless : ratio.value ≤ half.value := by norm_num [Decimal.value, Decimal.size, ratio, half]
  have hone : half.value ≤ 1 := by norm_num [Decimal.value, Decimal.size, half]
  have hfloor : ⌊100 * ratio.value⌋ = 49 := by
    rw [Int.floor_eq_iff]
    norm_num [Decimal.value, Decimal.size, ratio]
  obtain ⟨percent, hpercent, -, -, -, -, -, hmono⟩ := toPercent_of_ratio hlow hhigh
  obtain ⟨more, hmore, hle⟩ := hmono half hless hone
  refine ⟨hlow, hhigh, hless, percent, more, hpercent, ?_, hmore, hle⟩
  have hfifty : toPercent (.finite ratio) = .ok 50 := toPercent_eq_ok_iff.mpr (by decide +kernel)
  rw [hfloor, Except.ok.inj (hpercent.symm.trans hfifty)]
  rfl

end Gatekeeper
