import Gatekeeper.Proofs.Number.DecimalValue

/-! The whole percentage of a decimal as a number: a hundredfold is rounded to twenty-eight digits, and
what is left behind the point is cut off. -/

namespace Gatekeeper.Decimal

open Number

/-- Cutting off leaves the whole part of the absolute value. -/
theorem truncate_eq (d : Decimal) : d.truncate = if d.negative then -⌊d.size⌋ else ⌊d.size⌋ := by
  have hfloor : ((if 0 ≤ d.exponent then d.coefficient * tenTo d.exponent.toNat
      else if (digitCount d.coefficient : Int) ≤ -d.exponent then 0
      else d.coefficient / tenTo (-d.exponent).toNat : Nat) : Int) = ⌊d.size⌋ := by
    simp only [tenTo_eq, size]
    by_cases hwhole : 0 ≤ d.exponent
    · obtain ⟨power, hpower⟩ := Int.eq_ofNat_of_zero_le hwhole
      rw [if_pos hwhole, hpower, Int.toNat_natCast, zpow_natCast]
      exact_mod_cast (Int.floor_natCast (d.coefficient * 10 ^ power)).symm
    · obtain ⟨places, hplaces⟩ := Int.eq_ofNat_of_zero_le (a := -d.exponent) (by omega)
      have hdiv : (d.coefficient : ℚ) * 10 ^ d.exponent = d.coefficient / (10 ^ places : Nat) := by
        rw [show d.exponent = -(places : Int) by omega, zpow_neg, zpow_natCast, div_eq_mul_inv]
        norm_cast
      have hquotient : (digitCount d.coefficient : Int) ≤ -d.exponent →
          d.coefficient / 10 ^ places = 0 := by
        intro hcount
        apply Nat.div_eq_of_lt
        calc d.coefficient < 10 ^ digitCount d.coefficient := lt_pow_digitCount d.coefficient
          _ ≤ 10 ^ places := Nat.pow_le_pow_right (by decide) (by omega)
      rw [if_neg hwhole, hdiv, Rat.floor_natCast_div_natCast, hplaces, Int.toNat_natCast]
      split_ifs with hcount
      · rw [← Int.natCast_ediv, hquotient (by omega)]
      · rw [Int.natCast_ediv]
  rw [truncate, hfloor]

/-- Rounding to the precision leaves out the digits beyond it. -/
theorem size_rounded (d : Decimal) :
    d.rounded.size =
      roundHalfEven d.coefficient (10 ^ (digitCount d.coefficient - precision)) *
        10 ^ (d.exponent + (digitCount d.coefficient - precision : Nat)) := by
  rw [rounded]
  simp only [tenTo_eq]
  split_ifs with hfits hcarry
  · rw [hfits, Nat.pow_zero, roundHalfEven_one, size, Nat.cast_zero, add_zero]
  · rw [hcarry, size]
    simp only [Nat.cast_pow, Nat.cast_ofNat]
    rw [← zpow_natCast, ← zpow_natCast, ← zpow_add₀ (by norm_num), ← zpow_add₀ (by norm_num)]
    congr 1
    rw [precision]
    omega
  · rfl

@[simp] theorem negative_rounded (d : Decimal) : d.rounded.negative = d.negative := by
  rw [rounded]
  simp only
  split_ifs <;> rfl

@[simp] theorem negative_hundredfold (d : Decimal) : d.hundredfold.negative = d.negative :=
  negative_rounded _

/-- The first digit of a size bounds it from below. -/
theorem zpow_le_size {d : Decimal} (hpos : 0 < d.coefficient) :
    (10 : ℚ) ^ ((digitCount d.coefficient - 1 : Nat) + d.exponent) ≤ d.size := by
  rw [zpow_add₀ (by norm_num), zpow_natCast, size]
  gcongr
  exact_mod_cast pow_digitCount_le hpos

theorem digitCount_le_of_size_le {d : Decimal} {power : Int} (hpos : 0 < d.coefficient)
    (h : d.size ≤ 10 ^ power) : digitCount d.coefficient + d.exponent ≤ power + 1 := by
  have hcount := digitCount_pos d.coefficient
  have hpowers := (zpow_le_zpow_iff_right₀ (by norm_num)).mp ((zpow_le_size hpos).trans h)
  omega

theorem digitCount_le_of_size_lt {d : Decimal} {power : Int} (hpos : 0 < d.coefficient)
    (h : d.size < 10 ^ power) : digitCount d.coefficient + d.exponent ≤ power := by
  have hcount := digitCount_pos d.coefficient
  have hpowers := (zpow_lt_zpow_iff_right₀ (by norm_num)).mp ((zpow_le_size hpos).trans_lt h)
  omega

/-- A size that is at most a power of ten is not rounded above it. -/
theorem size_rounded_le {d : Decimal} {power : Int} (h : d.size ≤ 10 ^ power) :
    d.rounded.size ≤ 10 ^ power := by
  rw [size_rounded]
  rcases Nat.eq_zero_or_pos d.coefficient with hzero | hpos
  · have hnothing : roundHalfEven d.coefficient (10 ^ (digitCount d.coefficient - precision)) = 0 :=
      Nat.le_zero.mp (roundHalfEven_le (by positivity) (by omega))
    rw [hnothing, Nat.cast_zero, zero_mul]
    positivity
  · have hcount := digitCount_le_of_size_le hpos h
    have hdigits := digitCount_pos d.coefficient
    have hprecision : 0 < precision := by decide
    obtain ⟨left, hleft⟩ := Int.eq_ofNat_of_zero_le
      (a := power - (d.exponent + (digitCount d.coefficient - precision : Nat))) (by omega)
    have hbound : d.coefficient ≤ 10 ^ left * 10 ^ (digitCount d.coefficient - precision) := by
      have hle : (d.coefficient : ℚ) ≤ 10 ^ (power - d.exponent) := by
        rw [zpow_sub₀ (by norm_num), le_div_iff₀ (by positivity)]
        exact h
      rw [← Nat.pow_add]
      rw [show power - d.exponent = (left + (digitCount d.coefficient - precision) : Nat) by omega,
        zpow_natCast] at hle
      exact_mod_cast hle
    calc (roundHalfEven d.coefficient (10 ^ (digitCount d.coefficient - precision)) : ℚ) *
          10 ^ (d.exponent + (digitCount d.coefficient - precision : Nat))
        ≤ 10 ^ left * 10 ^ (d.exponent + (digitCount d.coefficient - precision : Nat)) := by
          gcongr
          exact_mod_cast roundHalfEven_le (by positivity) hbound
      _ = 10 ^ power := by
          rw [← zpow_natCast, ← zpow_add₀ (by norm_num)]
          congr 1
          omega

theorem size_hundredfold_le {d : Decimal} (h : d.size ≤ 1) : d.hundredfold.size ≤ 100 := by
  have hproduct : size { d with coefficient := d.coefficient * 100 } ≤ 10 ^ (2 : Int) := by
    calc size { d with coefficient := d.coefficient * 100 } = 100 * d.size := by
          simp only [size]
          push_cast
          ring
      _ ≤ 10 ^ (2 : Int) := by
          norm_num
          linarith
  calc d.hundredfold.size ≤ 10 ^ (2 : Int) := size_rounded_le hproduct
    _ = 100 := by norm_num

/-- The percentage of a ratio in the unit interval is the whole part of its rounded hundredfold. -/
theorem percent_eq_floor {d : Decimal} (hunit : d.inUnit = true) : d.percent = .ok ⌊d.hundredfold.size⌋ := by
  obtain ⟨hsign, hone⟩ := Bool.and_eq_true_iff.mp hunit
  have hsize : d.hundredfold.size ≤ 10 ^ (2 : Int) := by
    calc d.hundredfold.size ≤ 100 := size_hundredfold_le ((atMostOne_iff d).mp hone)
      _ = 10 ^ (2 : Int) := by norm_num
  rw [Decimal.percent]
  split_ifs with hoverflow hzero
  · obtain ⟨hcoefficient, hlarge⟩ := hoverflow
    have hcount := digitCount_le_of_size_le (Nat.pos_of_ne_zero hcoefficient) hsize
    rw [adjusted, maxResultPower] at hlarge
    omega
  · rw [(size_eq_zero_iff _).mpr hzero, Int.floor_zero]
  · have hpositive : d.negative = false := by
      by_contra hnegative
      have hcoefficient : d.coefficient = 0 := by simpa [hnegative] using hsign
      exact hzero (by simp [hundredfold, rounded, hcoefficient, digitCount, precision])
    rw [truncate_eq, negative_hundredfold, hpositive, if_neg Bool.false_ne_true]

/-- The percentage of a ratio in the unit interval lies between zero and one hundred. -/
theorem percent_bounds {d : Decimal} {percent : Int} (hunit : d.inUnit = true)
    (h : d.percent = .ok percent) : 0 ≤ percent ∧ percent ≤ 100 := by
  have hsize := size_hundredfold_le ((atMostOne_iff d).mp (Bool.and_eq_true_iff.mp hunit).2)
  rw [percent_eq_floor hunit] at h
  cases h
  refine ⟨Int.floor_nonneg.mpr (size_nonneg _), Int.floor_le_iff.mpr ?_⟩
  push_cast
  linarith

/-- What is neither above one nor in the unit interval is below zero. -/
theorem negative_of_not_inUnit {d : Decimal} (hone : d.exceedsOne = false) (hunit : ¬d.inUnit = true) :
    d.negative = true := by
  rw [← Bool.not_eq_true, exceedsOne_iff, not_lt] at hone
  rw [inUnit_iff, not_and] at hunit
  by_contra hnegative
  rw [Bool.not_eq_true] at hnegative
  exact hunit (value_of_not_negative hnegative ▸ size_nonneg d) hone

theorem percent_nonpos {d : Decimal} {percent : Int} (hnegative : d.negative = true)
    (h : d.percent = .ok percent) : percent ≤ 0 := by
  rw [Decimal.percent] at h
  split_ifs at h
  · cases h
    exact le_rfl
  · cases h
    rw [truncate_eq, negative_hundredfold, hnegative, if_pos rfl]
    exact neg_nonpos.mpr (Int.floor_nonneg.mpr (size_nonneg _))

end Gatekeeper.Decimal
