import Gatekeeper.Proofs.Number.PercentValue

/-! Where the hundredfold of a ratio is carried up to a whole number when it is rounded. It is not moved at all
when all digits of the ratio are kept, and never across a whole number from above. A ratio with more digits is
carried up from at most half of the last digit that is kept of the numbers just below. -/

namespace Gatekeeper.Decimal

open Number

theorem digitCount_mul_hundred_le (n : Nat) : digitCount (n * 100) ≤ digitCount n + 2 := by
  have hlt : n * 100 < 10 ^ (digitCount n + 2) := by
    rw [pow_add]
    exact Nat.mul_lt_mul_of_pos_right (lt_pow_digitCount n) (by decide)
  rw [digitCount_eq (n * 100)]
  exact Nat.log_lt_of_lt_pow' (by omega) hlt

theorem pos_of_precision_lt {n : Nat} (h : precision < digitCount n) : 0 < n := by
  by_contra hzero
  rw [Nat.eq_zero_of_not_pos hzero] at h
  simp [digitCount, precision] at h

/-- A coefficient with digits left out is a whole number of the last digit that is kept, and a rest. -/
theorem size_eq_shifted (d : Decimal) (extra : Nat) :
    d.size = (d.coefficient / (10 ^ extra : Nat) : ℚ) * 10 ^ (d.exponent + extra) := by
  rw [size, zpow_add₀ (by norm_num), zpow_natCast]
  push_cast
  field_simp

/-- Rounding moves a number by at most half of the last digit that is kept. -/
theorem size_rounded_error (d : Decimal) :
    |d.rounded.size - d.size| ≤ 10 ^ (d.exponent + (digitCount d.coefficient - precision : Nat)) / 2 := by
  have hpower : (0 : ℚ) < 10 ^ (d.exponent + (digitCount d.coefficient - precision : Nat)) := by positivity
  rw [size_rounded, size_eq_shifted d (digitCount d.coefficient - precision), ← sub_mul, abs_mul,
    abs_of_pos hpower]
  calc _ ≤ 1 / 2 * (10 : ℚ) ^ (d.exponent + (digitCount d.coefficient - precision : Nat)) := by
        gcongr
        exact roundHalfEven_error _ (by positivity)
    _ = _ := by ring

/-- A size that is at least a whole number with no more digits than are kept is not rounded below it. -/
theorem le_size_rounded {d : Decimal} {bound : Nat} (hbound : bound ≤ 10 ^ precision)
    (h : (bound : ℚ) ≤ d.size) : (bound : ℚ) ≤ d.rounded.size := by
  generalize hextra : digitCount d.coefficient - precision = extra
  rcases Nat.eq_zero_or_pos extra with hnone | hsome
  · rwa [rounded, hextra, if_pos hnone]
  · rw [size_rounded, hextra]
    rcases le_or_gt (d.exponent + extra) 0 with hpower | hpower
    · obtain ⟨places, hplaces⟩ := Int.eq_ofNat_of_zero_le (Int.neg_nonneg_of_nonpos hpower)
      have hexponent : d.exponent = -((places + extra : Nat) : Int) := by omega
      have hwhole : bound * 10 ^ places * 10 ^ extra ≤ d.coefficient := by
        rw [size, hexponent, zpow_neg, zpow_natCast, ← div_eq_mul_inv, le_div_iff₀ (by positivity)] at h
        rw [Nat.mul_assoc, ← Nat.pow_add]
        exact_mod_cast h
      rw [show d.exponent + extra = -(places : Int) by omega, zpow_neg, zpow_natCast, ← div_eq_mul_inv,
        le_div_iff₀ (by positivity)]
      exact_mod_cast le_roundHalfEven (by positivity) hwhole
    · -- the digits that are kept stand for whole tens, and there are as many of them as of the bound
      obtain ⟨places, hplaces⟩ := Int.eq_ofNat_of_zero_le (Int.sub_nonneg_of_le hpower)
      have hcoefficient : 0 < d.coefficient := pos_of_precision_lt (by omega)
      have hkept : 10 ^ (precision - 1) * 10 ^ extra ≤ d.coefficient := by
        rw [← Nat.pow_add]
        calc 10 ^ (precision - 1 + extra) ≤ 10 ^ (digitCount d.coefficient - 1) :=
              Nat.pow_le_pow_right (by decide) (by rw [precision] at hextra ⊢; omega)
          _ ≤ d.coefficient := pow_digitCount_le hcoefficient
      have hrounded := le_roundHalfEven (by positivity) hkept
      rw [show d.exponent + extra = ((places + 1 : Nat) : Int) by omega, zpow_natCast]
      have hlarge : bound ≤ roundHalfEven d.coefficient (10 ^ extra) * 10 ^ (places + 1) := by
        calc bound ≤ 10 ^ (precision - 1) * 10 ^ 1 := by rw [← Nat.pow_add]; exact hbound
          _ ≤ roundHalfEven d.coefficient (10 ^ extra) * 10 ^ (places + 1) :=
              Nat.mul_le_mul hrounded (Nat.pow_le_pow_right (by decide) (by omega))
      exact_mod_cast hlarge

/-- Half of the last digit that is kept of a number just below a bound. -/
def halfUnit (bound : Nat) : ℚ :=
  10 ^ ((Nat.clog 10 bound : Int) - precision) / 2

theorem halfUnit_pos (bound : Nat) : 0 < halfUnit bound := by
  rw [halfUnit]
  positivity

theorem halfUnit_mono {low high : Nat} (h : low ≤ high) : halfUnit low ≤ halfUnit high := by
  rw [halfUnit, halfUnit]
  have hcount := Nat.clog_mono_right 10 h
  gcongr
  · norm_num

theorem halfUnit_le_one {bound : Nat} (h : bound ≤ 10 ^ 26) : halfUnit bound ≤ 1 := by
  have hcount := Nat.clog_le_of_le_pow h
  calc halfUnit bound ≤ 10 ^ (0 : Int) / 2 := by
        rw [halfUnit, precision]
        gcongr
        · norm_num
        · omega
    _ ≤ 1 := by norm_num

theorem size_lt_zpow (d : Decimal) : d.size < 10 ^ (digitCount d.coefficient + d.exponent : Int) := by
  rw [size, zpow_add₀ (by norm_num), zpow_natCast]
  gcongr
  exact_mod_cast lt_pow_digitCount d.coefficient

theorem digitCount_le_clog {d : Decimal} {bound : Nat} (hpos : 0 < d.coefficient) (h : d.size < bound) :
    digitCount d.coefficient + d.exponent ≤ Nat.clog 10 bound := by
  refine digitCount_le_of_size_lt hpos (h.trans_le ?_)
  rw [zpow_natCast]
  exact_mod_cast Nat.le_pow_clog (by decide) bound

/-- A number just below a bound has as many digits before the point as the bound. -/
theorem le_digitCount_of_near {d : Decimal} {bound : Nat} (hpos : 0 < bound) (hbound : bound ≤ 10 ^ 26)
    (hnear : bound - halfUnit bound ≤ d.size) :
    (Nat.clog 10 bound : Int) ≤ digitCount d.coefficient + d.exponent := by
  have hbelow : (10 : ℚ) ^ ((Nat.clog 10 bound : Int) - 1) ≤ bound - halfUnit bound := by
    rcases Nat.lt_or_ge 1 bound with hmore | hone
    · have hpower := Nat.pow_pred_clog_lt_self (b := 10) (by decide) hmore
      have hcount := Nat.clog_pos (b := 10) (by decide) hmore
      have hhalf := halfUnit_le_one hbound
      rw [show (Nat.clog 10 bound : Int) - 1 = ((Nat.clog 10 bound).pred : Nat) by
        rw [Nat.pred_eq_sub_one]
        omega, zpow_natCast]
      have hwhole : ((10 ^ (Nat.clog 10 bound).pred : Nat) : ℚ) + 1 ≤ bound := by exact_mod_cast hpower
      push_cast at hwhole
      linarith
    · obtain rfl : bound = 1 := by omega
      norm_num [halfUnit, precision]
  have hpowers := (zpow_lt_zpow_iff_right₀ (by norm_num)).mp ((hbelow.trans hnear).trans_lt (size_lt_zpow d))
  omega

/-- A multiple of a power of ten that is even is not rounded below itself from half a power below it. -/
theorem le_roundHalfEven_mul_zpow {num den scaled : Nat} {place : Int} (hden : 0 < den)
    (heven : scaled % 2 = 0) (h : (scaled : ℚ) * 10 ^ place - 10 ^ place / 2 ≤ num / den * 10 ^ place) :
    (scaled : ℚ) * 10 ^ place ≤ roundHalfEven num den * 10 ^ place := by
  have hdenominator : (0 : ℚ) < den := by exact_mod_cast hden
  have hhalf : (scaled : ℚ) - 1 / 2 ≤ num / den := by
    rw [show (scaled : ℚ) * 10 ^ place - 10 ^ place / 2 = (scaled - 1 / 2) * 10 ^ place by ring] at h
    exact le_of_mul_le_mul_right h (by positivity)
  have hwhole : 2 * (scaled * den) ≤ 2 * num + den := by
    rw [le_div_iff₀ hdenominator] at hhalf
    have hdoubled : (2 : ℚ) * (scaled * den) ≤ 2 * num + den := by linarith
    exact_mod_cast hdoubled
  gcongr
  exact_mod_cast le_roundHalfEven_of_even hden heven hwhole

/-- A whole number as an even multiple of the last digit that is kept just below it. -/
theorem exists_scaled {bound : Nat} (hbound : bound ≤ 10 ^ 26) :
    ∃ scaled, scaled % 2 = 0 ∧ (bound : ℚ) = (scaled : Nat) * 10 ^ ((Nat.clog 10 bound : Int) - precision) := by
  have hcount := Nat.clog_le_of_le_pow hbound
  refine ⟨bound * 10 ^ (27 - Nat.clog 10 bound) * 10, by omega, ?_⟩
  rw [Nat.mul_assoc, ← Nat.pow_succ, show (Nat.clog 10 bound : Int) - precision =
    -((27 - Nat.clog 10 bound + 1 : Nat) : Int) by rw [precision]; omega, zpow_neg, zpow_natCast]
  push_cast
  field_simp

theorem le_size_rounded_of_near {d : Decimal} {bound : Nat} (hpos : 0 < bound) (hbound : bound ≤ 10 ^ 26)
    (hnear : bound - halfUnit bound ≤ d.size) : (bound : ℚ) ≤ d.rounded.size := by
  rcases le_or_gt (bound : ℚ) d.size with hle | hless
  · exact le_size_rounded (hbound.trans (by decide)) hle
  · have hleast := le_digitCount_of_near hpos hbound hnear
    obtain ⟨scaled, heven, hscaled⟩ := exists_scaled hbound
    rw [halfUnit] at hnear
    generalize hplace : (Nat.clog 10 bound : Int) - precision = place at *
    rcases le_or_gt (digitCount d.coefficient) precision with hfits | hlong
    · -- all digits are kept, so that there is nothing between the bound and half a unit below it
      obtain ⟨shift, hshift⟩ := Int.eq_ofNat_of_zero_le (a := d.exponent - place) (by omega)
      have hsize : d.size = (d.coefficient * 10 ^ shift : Nat) * 10 ^ place := by
        rw [size, show d.exponent = shift + place by omega, zpow_add₀ (by norm_num), zpow_natCast]
        push_cast
        ring
      have hrounded : (scaled : ℚ) * 10 ^ place ≤ roundHalfEven (d.coefficient * 10 ^ shift) 1 * 10 ^ place :=
        le_roundHalfEven_mul_zpow Nat.one_pos heven (by rwa [Nat.cast_one, div_one, ← hsize, ← hscaled])
      rw [roundHalfEven_one, ← hsize, ← hscaled] at hrounded
      exact absurd hrounded (not_le.mpr hless)
    · have hmost := digitCount_le_clog (pos_of_precision_lt hlong) hless
      have hkept : d.exponent + (digitCount d.coefficient - precision : Nat) = place := by omega
      rw [size_eq_shifted d (digitCount d.coefficient - precision), hkept, hscaled] at hnear
      rw [size_rounded, hkept, hscaled]
      exact le_roundHalfEven_mul_zpow (by positivity) heven hnear

/-- Rounding carries up to a whole number just what is at most half of the last digit below it. -/
theorem le_size_rounded_iff {d : Decimal} {bound : Nat} (hpos : 0 < bound) (hbound : bound ≤ 10 ^ 26) :
    (bound : ℚ) ≤ d.rounded.size ↔ bound - halfUnit bound ≤ d.size := by
  refine ⟨fun h => ?_, le_size_rounded_of_near hpos hbound⟩
  by_contra hfar
  rw [not_le] at hfar
  have hless : d.size < bound := by linarith [halfUnit_pos bound]
  have herror := (abs_le.mp (size_rounded_error d)).2
  rcases le_or_gt (digitCount d.coefficient) precision with hfits | hlong
  · rw [rounded, if_pos (Nat.sub_eq_zero_of_le hfits)] at h
    linarith
  · have hcount := digitCount_le_clog (pos_of_precision_lt hlong) hless
    have hunit : (10 : ℚ) ^ (d.exponent + (digitCount d.coefficient - precision : Nat)) / 2 ≤
        halfUnit bound := by
      rw [halfUnit]
      gcongr
      · norm_num
      · omega
    linarith

/-- The hundredfold of a ratio before it is rounded. -/
def exactHundredfold (d : Decimal) : Decimal :=
  { d with coefficient := d.coefficient * 100 }

theorem hundredfold_eq (d : Decimal) : d.hundredfold = d.exactHundredfold.rounded :=
  rfl

theorem size_exactHundredfold (d : Decimal) : d.exactHundredfold.size = 100 * d.size := by
  simp only [exactHundredfold, size]
  push_cast
  ring

/-- A ratio of which all digits are kept has an exact hundredfold: the two digits more are zeros. -/
theorem size_hundredfold_of_digitCount_le {d : Decimal} (h : digitCount d.coefficient ≤ precision) :
    d.hundredfold.size = 100 * d.size := by
  have hcount := (digitCount_mul_hundred_le d.coefficient).trans (Nat.add_le_add_right h 2)
  rw [hundredfold_eq, ← size_exactHundredfold, size_rounded,
    size_eq_shifted d.exactHundredfold (digitCount d.exactHundredfold.coefficient - precision)]
  generalize hextra : digitCount d.exactHundredfold.coefficient - precision = extra
  have htwo : extra ≤ 2 := by
    change digitCount (d.coefficient * 100) - precision = extra at hextra
    omega
  have hzeros : d.exactHundredfold.coefficient = d.coefficient * 10 ^ (2 - extra) * 10 ^ extra := by
    rw [Nat.mul_assoc, ← Nat.pow_add, Nat.sub_add_cancel htwo]
    rfl
  rw [hzeros, roundHalfEven_mul _ (by positivity)]
  push_cast
  field_simp

theorem le_size_hundredfold_iff_near {d : Decimal} {bound : Nat} (hpos : 0 < bound)
    (hbound : bound ≤ 10 ^ 26) : (bound : ℚ) ≤ d.hundredfold.size ↔ bound - halfUnit bound ≤ 100 * d.size := by
  rw [hundredfold_eq, le_size_rounded_iff hpos hbound, size_exactHundredfold]

/-- How far below a bound the hundredfold of a ratio may be and yet be carried up to it. -/
def slack (d : Decimal) (bound : Nat) : ℚ :=
  if digitCount d.coefficient ≤ precision then 0 else halfUnit bound

/-- The hundredfold of a ratio is at least a whole number just when it was so before it was rounded, but for
the slack. -/
theorem le_size_hundredfold_iff {d : Decimal} {bound : Nat} (hbound : bound ≤ 10 ^ 26) :
    (bound : ℚ) ≤ d.hundredfold.size ↔ bound ≤ 100 * d.size + d.slack bound := by
  rw [slack]
  split_ifs with hfits
  · rw [size_hundredfold_of_digitCount_le hfits, add_zero]
  · rcases Nat.eq_zero_or_pos bound with rfl | hpos
    · have hsize := size_nonneg d
      have hhalf := halfUnit_pos 0
      refine iff_of_true ?_ ?_
      · exact_mod_cast size_nonneg d.hundredfold
      · push_cast
        linarith
    · rw [le_size_hundredfold_iff_near hpos hbound, sub_le_iff_le_add]

end Gatekeeper.Decimal
