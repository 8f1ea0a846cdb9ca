import Gatekeeper.Proofs.Number.DecimalValue

/-! Quotients of whole numbers with twenty-eight digits. A quotient is zero only when it is too small for
the least power of ten, its sign is that of the exact quotient, and it never has a lower power of ten. One in
the unit interval keeps the bounds of a numeral, so that its text can be read. -/

namespace Gatekeeper.Decimal

open Number

/-- A shift of the point goes into the numerator or into the denominator. -/
theorem shifted_div (num den : Nat) (places : Int) :
    ((num * tenTo places.toNat : Nat) : ℚ) / ((den * tenTo (-places).toNat : Nat) : ℚ) =
      (num : ℚ) / den * 10 ^ places := by
  rcases le_total 0 places with hplaces | hplaces
  · obtain ⟨count, rfl⟩ := Int.eq_ofNat_of_zero_le hplaces
    simp
    ring
  · obtain ⟨count, hcount⟩ := Int.eq_ofNat_of_zero_le (Int.neg_nonneg_of_nonpos hplaces)
    obtain rfl : places = -(count : Int) := by omega
    simp
    field_simp

theorem digitCount_zpow_le {n : Nat} (h : 0 < n) : (10 : ℚ) ^ ((digitCount n : Int) - 1) ≤ n := by
  have hpos := digitCount_pos n
  rw [show (digitCount n : Int) - 1 = ((digitCount n - 1 : Nat) : Int) by omega, zpow_natCast]
  exact_mod_cast pow_digitCount_le h

theorem lt_zpow_digitCount (n : Nat) : (n : ℚ) < 10 ^ (digitCount n : Int) := by
  rw [zpow_natCast]
  exact_mod_cast lt_pow_digitCount n

/-- The power of ten of the first digit of a quotient bounds the quotient on both sides. -/
theorem leadingPower_bounds {num den : Nat} (hnum : 0 < num) (hden : 0 < den) :
    (10 : ℚ) ^ leadingPower num den ≤ num / den ∧ (num / den : ℚ) < 10 ^ (leadingPower num den + 1) := by
  have hdenominator : (0 : ℚ) < den := by exact_mod_cast hden
  have hbelow : (10 : ℚ) ^ ((digitCount num : Int) - digitCount den - 1) ≤ num / den := by
    rw [le_div_iff₀ hdenominator]
    calc (10 : ℚ) ^ ((digitCount num : Int) - digitCount den - 1) * den
        ≤ 10 ^ ((digitCount num : Int) - digitCount den - 1) * 10 ^ (digitCount den : Int) := by
          gcongr
          exact (lt_zpow_digitCount den).le
      _ = 10 ^ ((digitCount num : Int) - 1) := by
          rw [← zpow_add₀ (by norm_num)]
          congr 1
          omega
      _ ≤ num := digitCount_zpow_le hnum
  have habove : (num / den : ℚ) < 10 ^ ((digitCount num : Int) - digitCount den + 1) := by
    rw [div_lt_iff₀ hdenominator]
    calc (num : ℚ) < 10 ^ (digitCount num : Int) := lt_zpow_digitCount num
      _ = 10 ^ ((digitCount num : Int) - digitCount den + 1) * 10 ^ ((digitCount den : Int) - 1) := by
          rw [← zpow_add₀ (by norm_num)]
          congr 1
          omega
      _ ≤ 10 ^ ((digitCount num : Int) - digitCount den + 1) * den := by
          gcongr
          exact digitCount_zpow_le hden
  have htest : num * tenTo (-((digitCount num : Int) - digitCount den)).toNat <
        den * tenTo ((digitCount num : Int) - digitCount den).toNat ↔
      (num / den : ℚ) < 10 ^ ((digitCount num : Int) - digitCount den) := by
    have hshifted := shifted_div num den (-((digitCount num : Int) - digitCount den))
    rw [neg_neg] at hshifted
    have hscaled : 0 < den * tenTo ((digitCount num : Int) - digitCount den).toNat := by
      rw [tenTo_eq]
      positivity
    rw [← Nat.cast_lt (α := ℚ), ← div_lt_one (by exact_mod_cast hscaled), hshifted, zpow_neg,
      ← div_eq_mul_inv, div_lt_one (by positivity)]
  rw [leadingPower]
  split_ifs with hless
  · refine ⟨hbelow, ?_⟩
    rw [sub_add_cancel]
    exact htest.mp hless
  · exact ⟨not_lt.mp (mt htest.mpr hless), habove⟩

theorem stripZeros_spec (places coefficient : Nat) :
    (stripZeros places coefficient).2 ≤ places ∧
      (stripZeros places coefficient).1 * 10 ^ (places - (stripZeros places coefficient).2) = coefficient := by
  fun_induction stripZeros places coefficient with
  | case1 coefficient => exact ⟨le_rfl, by simp⟩
  | case2 coefficient places hzero ih =>
      obtain ⟨hle, hvalue⟩ := ih
      refine ⟨by omega, ?_⟩
      rw [Nat.succ_sub hle, Nat.pow_succ, ← Nat.mul_assoc, hvalue]
      omega
  | case3 coefficient places hdigit => exact ⟨le_rfl, by simp⟩

theorem quotientPlaces_le (num den : Nat) : quotientPlaces num den ≤ -minResultExponent :=
  min_le_right _ _

theorem negative_positiveQuotient (negative : Bool) (num den : Nat) :
    (positiveQuotient negative num den).negative = negative := by
  rw [positiveQuotient]
  simp only
  split_ifs <;> rfl

theorem minResultExponent_le_exponent_positiveQuotient (negative : Bool) (num den : Nat) :
    minResultExponent ≤ (positiveQuotient negative num den).exponent := by
  have hplaces := quotientPlaces_le num den
  rw [positiveQuotient]
  simp only
  split_ifs
  · have hleft := (stripZeros_spec (quotientPlaces num den).toNat
      (num * tenTo (quotientPlaces num den).toNat / (den * tenTo (-quotientPlaces num den).toNat))).1
    simp only
    omega
  all_goals
    simp only
    omega

/-- A quotient is rounded to zero when its places show at most one half. -/
theorem coefficient_positiveQuotient_eq_zero_iff (negative : Bool) {num den : Nat} (hnum : 0 < num)
    (hden : 0 < den) :
    (positiveQuotient negative num den).coefficient = 0 ↔
      2 * (num / den : ℚ) * 10 ^ quotientPlaces num den ≤ 1 := by
  have hscaledNum : 0 < num * tenTo (quotientPlaces num den).toNat := by
    rw [tenTo_eq]
    positivity
  have hscaledDen : 0 < den * tenTo (-quotientPlaces num den).toNat := by
    rw [tenTo_eq]
    positivity
  have hscaled : 2 * (num / den : ℚ) * 10 ^ quotientPlaces num den ≤ 1 ↔
      2 * (num * tenTo (quotientPlaces num den).toNat) ≤ den * tenTo (-quotientPlaces num den).toNat := by
    rw [mul_assoc, ← shifted_div, ← mul_div_assoc, div_le_one (by exact_mod_cast hscaledDen)]
    exact_mod_cast Iff.rfl
  rw [hscaled, positiveQuotient]
  generalize num * tenTo (quotientPlaces num den).toNat = scaledNum at *
  generalize den * tenTo (-quotientPlaces num den).toNat = scaledDen at *
  simp only
  split_ifs with hdivides hplaces hcarry
  · have hquotient : 0 < scaledNum / scaledDen :=
      Nat.div_pos (Nat.le_of_dvd hscaledNum (Nat.dvd_of_mod_eq_zero hdivides)) hscaledDen
    have hstrip := (stripZeros_spec (quotientPlaces num den).toNat (scaledNum / scaledDen)).2
    have hle := Nat.le_of_dvd hscaledNum (Nat.dvd_of_mod_eq_zero hdivides)
    constructor
    · intro hzero
      simp only at hzero
      rw [hzero, Nat.zero_mul] at hstrip
      omega
    · omega
  · have hle := Nat.le_of_dvd hscaledNum (Nat.dvd_of_mod_eq_zero hdivides)
    have hquotient : 0 < scaledNum / scaledDen := Nat.div_pos hle hscaledDen
    simp only
    omega
  · have hrounded : roundHalfEven scaledNum scaledDen = 0 ↔ 2 * scaledNum ≤ scaledDen :=
      roundHalfEven_eq_zero_iff hscaledDen
    rw [hcarry] at hrounded
    rw [← hrounded]
    simp [tenTo_eq, precision]
  · exact roundHalfEven_eq_zero_iff hscaledDen

/-- A quotient is rounded to zero only when it is at most half of the least power of ten. -/
theorem coefficient_positiveQuotient_eq_zero_iff_le (negative : Bool) {num den : Nat} (hnum : 0 < num)
    (hden : 0 < den) :
    (positiveQuotient negative num den).coefficient = 0 ↔
      (num / den : ℚ) ≤ 10 ^ minResultExponent / 2 := by
  rw [coefficient_positiveQuotient_eq_zero_iff negative hnum hden]
  have hlimit : 2 * (num / den : ℚ) * 10 ^ (-minResultExponent) ≤ 1 ↔
      (num / den : ℚ) ≤ 10 ^ minResultExponent / 2 := by
    rw [zpow_neg, ← div_eq_mul_inv, div_le_one (by positivity), le_div_iff₀ (by norm_num), mul_comm]
  rw [← hlimit]
  rcases le_total (-minResultExponent) ((precision : Int) - 1 - leadingPower num den) with hle | hle
  · rw [quotientPlaces, min_eq_right hle]
  · have hquotient : (0 : ℚ) ≤ num / den := by positivity
    have hlarge : (1 : ℚ) < 2 * (num / den) * 10 ^ ((precision : Int) - 1 - leadingPower num den) := by
      calc (1 : ℚ) < 2 * 10 ^ (leadingPower num den) *
            10 ^ ((precision : Int) - 1 - leadingPower num den) := by
            rw [mul_assoc, ← zpow_add₀ (by norm_num), add_sub_cancel]
            norm_num [precision]
        _ ≤ 2 * (num / den) * 10 ^ ((precision : Int) - 1 - leadingPower num den) := by
            gcongr
            exact (leadingPower_bounds hnum hden).1
    have hlarger : 2 * (num / den : ℚ) * 10 ^ ((precision : Int) - 1 - leadingPower num den) ≤
        2 * (num / den) * 10 ^ (-minResultExponent) := by
      gcongr
      norm_num
    rw [quotientPlaces, min_eq_left hle]
    constructor <;> intro hsmall <;> linarith

theorem negative_quotient {num den : Int} (hnum : num ≠ 0) (hden : den ≠ 0) :
    (quotient num den).negative = decide (num * den < 0) := by
  rw [quotient, if_neg hnum, negative_positiveQuotient]
  rcases lt_or_gt_of_ne hnum with hn | hn <;> rcases lt_or_gt_of_ne hden with hd | hd <;>
    simp [mul_neg_iff, hn, hd, not_lt_of_gt]

/-- A quotient counts as non-negative when it is so, or when it is too small to be told from zero. -/
theorem value_quotient_nonneg_iff {num den : Int} (hden : den ≠ 0) :
    0 ≤ (quotient num den).value ↔
      0 ≤ num * den ∨ |(num / den : ℚ)| ≤ 10 ^ minResultExponent / 2 := by
  by_cases hnum : num = 0
  · simp [hnum, quotient, value, size]
  have hsign := negative_quotient hnum hden
  by_cases hproduct : 0 ≤ num * den
  · rw [decide_eq_false (not_lt.mpr hproduct)] at hsign
    rw [value_of_not_negative hsign]
    simp [hproduct, size_nonneg]
  · rw [decide_eq_true (not_le.mp hproduct)] at hsign
    have hsize : |(num / den : ℚ)| = (num.natAbs / den.natAbs : ℚ) := by
      rw [abs_div, Nat.cast_natAbs, Nat.cast_natAbs, Int.cast_abs, Int.cast_abs]
    have hzero : (quotient num den).coefficient = 0 ↔ |(num / den : ℚ)| ≤ 10 ^ minResultExponent / 2 := by
      rw [hsize, quotient, if_neg hnum]
      exact coefficient_positiveQuotient_eq_zero_iff_le _ (Int.natAbs_pos.mpr hnum)
        (Int.natAbs_pos.mpr hden)
    rw [value_nonneg_iff_of_negative hsign, hzero]
    exact (or_iff_right hproduct).symm

theorem exponent_positiveQuotient_nonpos (negative : Bool) {num den : Nat}
    (h : 0 < quotientPlaces num den) : (positiveQuotient negative num den).exponent ≤ 0 := by
  rw [positiveQuotient]
  simp only
  split_ifs <;> simp only <;> omega

/-- A quotient that is rounded to zero is small, so that its places are all behind the point. -/
theorem exponent_nonpos_of_coefficient_eq_zero (negative : Bool) {num den : Nat} (hnum : 0 < num)
    (hden : 0 < den) (h : (positiveQuotient negative num den).coefficient = 0) :
    (positiveQuotient negative num den).exponent ≤ 0 := by
  apply exponent_positiveQuotient_nonpos
  have hsmall : (10 : ℚ) ^ leadingPower num den < 10 ^ (0 : Int) := by
    calc (10 : ℚ) ^ leadingPower num den ≤ num / den := (leadingPower_bounds hnum hden).1
      _ ≤ 10 ^ minResultExponent / 2 :=
          (coefficient_positiveQuotient_eq_zero_iff_le negative hnum hden).mp h
      _ < 10 ^ minResultExponent := half_lt_self (by positivity)
      _ ≤ 10 ^ (0 : Int) := zpow_le_zpow_right₀ (by norm_num) (by decide)
  have hpower : leadingPower num den < 0 := (zpow_lt_zpow_iff_right₀ (by norm_num)).mp hsmall
  rw [quotientPlaces]
  have hlimit : 0 < -minResultExponent := by decide
  simp only [precision]
  omega

theorem isBounded_of_inUnit {d : Decimal} (hunit : d.inUnit = true) (hlow : minExponent ≤ d.exponent)
    (hzero : d.coefficient = 0 → d.exponent ≤ 0) : d.isBounded = true := by
  have hlimit : 0 ≤ maxAdjusted := by decide
  rw [inUnit, Bool.and_eq_true] at hunit
  obtain ⟨-, hone⟩ := hunit
  simp only [atMostOne, Bool.or_eq_true, Bool.and_eq_true, decide_eq_true_eq] at hone
  rw [isBounded, Bool.and_eq_true, decide_eq_true_eq, decide_eq_true_eq]
  refine ⟨hlow, ?_⟩
  split
  · rename_i hcoefficient
    exact (hzero hcoefficient).trans hlimit
  · rcases hone with (hcoefficient | hbelow) | ⟨hones, -⟩ <;> omega

theorem isBounded_quotient {num den : Int} (hden : den ≠ 0) (hunit : (quotient num den).inUnit = true) :
    (quotient num den).isBounded = true := by
  by_cases hnum : num = 0
  · rw [quotient, if_pos hnum]
    exact isBounded_of_inUnit (by simp [inUnit, atMostOne]) (by simp [minExponent]) fun _ => le_rfl
  · rw [quotient, if_neg hnum] at hunit ⊢
    apply isBounded_of_inUnit hunit
    · have hlimit : minExponent ≤ minResultExponent := by decide
      exact hlimit.trans (minResultExponent_le_exponent_positiveQuotient _ _ _)
    · exact exponent_nonpos_of_coefficient_eq_zero _ (Int.natAbs_pos.mpr hnum) (Int.natAbs_pos.mpr hden)

end Gatekeeper.Decimal
