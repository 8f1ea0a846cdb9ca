import Gatekeeper.Number.Percent
import Gatekeeper.Proofs.Number.Rounding

/-! The number that a decimal stands for. The tests on digits that tell whether a decimal lies in the unit
interval, or above it, tell it of that number. -/

namespace Gatekeeper.Decimal

open Number

/-- The absolute value of the number that a decimal stands for. -/
def size (d : Decimal) : ℚ :=
  d.coefficient * 10 ^ d.exponent

/-- The number that a decimal stands for. -/
def value (d : Decimal) : ℚ :=
  if d.negative then -d.size else d.size

theorem atMostOne_iff_le_pow (d : Decimal) :
    d.atMostOne = true ↔
      d.coefficient = 0 ∨ d.exponent ≤ 0 ∧ d.coefficient ≤ 10 ^ (-d.exponent).toNat := by
  have hpos := digitCount_pos d.coefficient
  have hlt := lt_pow_digitCount d.coefficient
  simp only [atMostOne, Bool.or_eq_true, Bool.and_eq_true, decide_eq_true_eq]
  simp only [adjusted, tenTo_eq]
  constructor
  · rintro ((hzero | hbelow) | ⟨hones, hpower⟩)
    · exact .inl hzero
    · have hcount : digitCount d.coefficient ≤ (-d.exponent).toNat := by omega
      have hle : 10 ^ digitCount d.coefficient ≤ 10 ^ (-d.exponent).toNat :=
        Nat.pow_le_pow_right (by decide) hcount
      exact .inr ⟨by omega, hlt.le.trans hle⟩
    · have hcount : digitCount d.coefficient - 1 = (-d.exponent).toNat := by omega
      rw [hcount] at hpower
      exact .inr ⟨by omega, hpower.le⟩
  · rintro (hzero | ⟨hexponent, hle⟩)
    · exact .inl (.inl hzero)
    · rcases Nat.eq_zero_or_pos d.coefficient with hzero | hcoefficient
      · exact .inl (.inl hzero)
      · have hge := pow_digitCount_le hcoefficient
        have hcount : digitCount d.coefficient - 1 ≤ (-d.exponent).toNat :=
          (Nat.pow_le_pow_iff_right (by decide)).mp (hge.trans hle)
        by_cases hones : d.exponent + digitCount d.coefficient - 1 = 0
        · have hsame : digitCount d.coefficient - 1 = (-d.exponent).toNat := by omega
          rw [← hsame] at hle
          exact .inr ⟨hones, le_antisymm hle hge⟩
        · exact .inl (.inr (by omega))

theorem atMostOne_iff (d : Decimal) : d.atMostOne = true ↔ d.size ≤ 1 := by
  rw [atMostOne_iff_le_pow, size]
  rcases Nat.eq_zero_or_pos d.coefficient with hzero | hcoefficient
  · simp [hzero]
  · have hone : (1 : ℚ) ≤ d.coefficient := by exact_mod_cast hcoefficient
    rcases lt_or_ge 0 d.exponent with hexponent | hexponent
    · have hpower : (1 : ℚ) < 10 ^ d.exponent := one_lt_zpow₀ (by norm_num) hexponent
      have habove : (1 : ℚ) < d.coefficient * 10 ^ d.exponent := one_lt_mul_of_le_of_lt hone hpower
      constructor
      · rintro (hzero | ⟨hnot, -⟩) <;> omega
      · intro hle
        exact absurd hle (not_le.mpr habove)
    · obtain ⟨places, hplaces⟩ := Int.eq_ofNat_of_zero_le (Int.neg_nonneg_of_nonpos hexponent)
      have hpower : (10 : ℚ) ^ d.exponent = ((10 ^ places : Nat) : ℚ)⁻¹ := by
        rw [show d.exponent = -(places : Int) by omega, zpow_neg, zpow_natCast]
        push_cast
        rfl
      rw [hpower, hplaces, Int.toNat_natCast, ← div_eq_mul_inv, div_le_one (by positivity), Nat.cast_le]
      constructor
      · rintro (hzero | ⟨-, hle⟩)
        · omega
        · exact hle
      · exact fun hle => .inr ⟨hexponent, hle⟩

theorem value_of_negative {d : Decimal} (h : d.negative = true) : d.value = -d.size := by
  rw [value, if_pos h]

theorem value_of_not_negative {d : Decimal} (h : d.negative = false) : d.value = d.size := by
  rw [value, h, if_neg Bool.false_ne_true]

theorem size_nonneg (d : Decimal) : 0 ≤ d.size := by
  rw [size]
  positivity

theorem size_eq_zero_iff (d : Decimal) : d.size = 0 ↔ d.coefficient = 0 := by
  have hpower : (10 : ℚ) ^ d.exponent ≠ 0 := by positivity
  rw [size, mul_eq_zero, or_iff_left hpower, Nat.cast_eq_zero]

theorem value_nonneg_iff_of_negative {d : Decimal} (h : d.negative = true) :
    0 ≤ d.value ↔ d.coefficient = 0 := by
  have hsize := d.size_nonneg
  rw [value_of_negative h, ← size_eq_zero_iff]
  constructor <;> intro hle <;> linarith

/-- The test for the unit interval is one of the number that a decimal stands for. -/
theorem inUnit_iff (d : Decimal) : d.inUnit = true ↔ 0 ≤ d.value ∧ d.value ≤ 1 := by
  have hsize := d.size_nonneg
  rw [inUnit, Bool.and_eq_true, atMostOne_iff]
  cases hnegative : d.negative with
  | false =>
      rw [value_of_not_negative hnegative]
      simp [hsize]
  | true =>
      rw [value_nonneg_iff_of_negative hnegative, value_of_negative hnegative]
      simp only [Bool.not_true, Bool.false_or, decide_eq_true_eq]
      refine and_congr_right fun hzero => ?_
      rw [(size_eq_zero_iff d).mpr hzero]
      norm_num

theorem exceedsOne_iff (d : Decimal) : d.exceedsOne = true ↔ 1 < d.value := by
  have hsize := d.size_nonneg
  rw [exceedsOne, Bool.and_eq_true, Bool.not_eq_true', Bool.not_eq_true', ← Bool.not_eq_true d.atMostOne,
    atMostOne_iff, not_le]
  cases hnegative : d.negative with
  | false =>
      rw [value_of_not_negative hnegative]
      simp
  | true =>
      rw [value_of_negative hnegative]
      simp only [Bool.true_eq_false, false_and, false_iff, not_lt]
      linarith

end Gatekeeper.Decimal

namespace Gatekeeper

theorem Numeral.inUnit?_eq_some_iff {numeral : Numeral} {value : Decimal} :
    numeral.inUnit? = some value ↔ numeral = .finite value ∧ value.inUnit = true := by
  cases numeral with
  | finite given =>
      rw [inUnit?]
      by_cases hunit : given.inUnit
      · rw [if_pos hunit]
        constructor
        · intro h
          cases h
          exact ⟨rfl, hunit⟩
        · rintro ⟨h, -⟩
          cases h
          rfl
      · rw [if_neg hunit]
        constructor
        · exact fun h => nomatch h
        · rintro ⟨h, hvalue⟩
          cases h
          exact absurd hvalue hunit
  | infinity negative => simp [inUnit?]
  | notNumber negative signalling payload => simp [inUnit?]

/-- A number of the unit interval is accepted, wherever it was read from, and nothing else. -/
theorem Numeral.bind_inUnit?_eq_some_iff {read : Option Numeral} {value : Decimal} :
    read.bind inUnit? = some value ↔ read = some (.finite value) ∧ 0 ≤ value.value ∧ value.value ≤ 1 := by
  rw [Option.bind_eq_some_iff, ← Decimal.inUnit_iff]
  constructor
  · rintro ⟨numeral, hread, hvalue⟩
    obtain ⟨rfl, hunit⟩ := inUnit?_eq_some_iff.mp hvalue
    exact ⟨hread, hunit⟩
  · rintro ⟨hread, hunit⟩
    exact ⟨.finite value, hread, inUnit?_eq_some_iff.mpr ⟨rfl, hunit⟩⟩

end Gatekeeper
