import Gatekeeper.Proofs.Number.PercentError
import Gatekeeper.Proofs.Number.Quotient

/-! How near a rounded quotient of two counts is to the exact one. Rounding does not cross a number with as
many places as are worked out; for counts below a bound these places tell every hundredth from the exact
quotients on both sides of it, so that the whole percentage is that of the exact quotient. -/

namespace Gatekeeper.Decimal

open Number

variable {num den : Nat}

/-- A quotient is worked out to its places, and then rounded. -/
theorem size_positiveQuotient (negative : Bool) (num : Nat) (hden : 0 < den) :
    (positiveQuotient negative num den).size =
      roundHalfEven (num * tenTo (quotientPlaces num den).toNat)
        (den * tenTo (-quotientPlaces num den).toNat) * 10 ^ (-quotientPlaces num den) := by
  have hscaled : 0 < den * tenTo (-quotientPlaces num den).toNat := by
    rw [tenTo_eq]
    positivity
  rw [positiveQuotient]
  generalize num * tenTo (quotientPlaces num den).toNat = scaledNum at *
  generalize den * tenTo (-quotientPlaces num den).toNat = scaledDen at *
  generalize quotientPlaces num den = places at *
  simp only
  split_ifs with hdivides hplaces hcarry
  · have hexact := roundHalfEven_mul (scaledNum / scaledDen) hscaled
    obtain ⟨hleft, hstripped⟩ := stripZeros_spec places.toNat (scaledNum / scaledDen)
    rcases hstrip : stripZeros places.toNat (scaledNum / scaledDen) with ⟨coefficient, left⟩
    rw [hstrip] at hleft hstripped
    simp only at hleft hstripped
    rw [Nat.div_mul_cancel (Nat.dvd_of_mod_eq_zero hdivides), ← hstripped] at hexact
    simp only [size]
    rw [hexact, Nat.cast_mul, Nat.cast_pow, Nat.cast_ofNat, mul_assoc, ← zpow_natCast,
      ← zpow_add₀ (by norm_num)]
    congr 2
    omega
  · have hexact := roundHalfEven_mul (scaledNum / scaledDen) hscaled
    rw [Nat.div_mul_cancel (Nat.dvd_of_mod_eq_zero hdivides)] at hexact
    rw [hexact, size]
  · rw [hcarry, size]
    simp only [tenTo_eq, precision]
    rw [show (1 - places : Int) = 1 + -places by ring, zpow_add₀ (by norm_num), ← mul_assoc]
    norm_num
  · rw [size]

theorem size_positiveQuotient_of_places (negative : Bool) {places : Nat} (hden : 0 < den)
    (hplaces : quotientPlaces num den = places) :
    (positiveQuotient negative num den).size = roundHalfEven (num * 10 ^ places) den / 10 ^ places := by
  rw [size_positiveQuotient negative num hden, hplaces, zpow_neg, zpow_natCast, div_eq_mul_inv]
  simp

theorem le_size_positiveQuotient (negative : Bool) {places bound : Nat} (hden : 0 < den)
    (hplaces : quotientPlaces num den = places) (h : bound * den ≤ num * 10 ^ places) :
    (bound / 10 ^ places : ℚ) ≤ (positiveQuotient negative num den).size := by
  rw [size_positiveQuotient_of_places negative hden hplaces]
  gcongr
  exact le_roundHalfEven hden h

theorem size_positiveQuotient_le (negative : Bool) {places bound : Nat} (hden : 0 < den)
    (hplaces : quotientPlaces num den = places) (h : num * 10 ^ places ≤ bound * den) :
    (positiveQuotient negative num den).size ≤ (bound / 10 ^ places : ℚ) := by
  rw [size_positiveQuotient_of_places negative hden hplaces]
  gcongr
  exact roundHalfEven_le hden h

theorem coefficient_positiveQuotient_lt (negative : Bool) (hnum : 0 < num) (hden : 0 < den) :
    (positiveQuotient negative num den).coefficient < 10 ^ precision := by
  have hscaled : 0 < den * tenTo (-quotientPlaces num den).toNat := by
    rw [tenTo_eq]
    positivity
  have hplaces : quotientPlaces num den ≤ (precision : Int) - 1 - leadingPower num den := min_le_left _ _
  have hless : num * tenTo (quotientPlaces num den).toNat <
      10 ^ precision * (den * tenTo (-quotientPlaces num den).toNat) := by
    have hquotient : (num / den : ℚ) * 10 ^ quotientPlaces num den < 10 ^ precision := by
      calc (num / den : ℚ) * 10 ^ quotientPlaces num den
          < 10 ^ (leadingPower num den + 1) * 10 ^ quotientPlaces num den := by
            gcongr
            exact (leadingPower_bounds hnum hden).2
        _ = 10 ^ (leadingPower num den + 1 + quotientPlaces num den) := by
            rw [zpow_add₀ (by norm_num) (leadingPower num den + 1)]
        _ ≤ 10 ^ (precision : Int) := zpow_le_zpow_right₀ (by norm_num) (by omega)
        _ = 10 ^ precision := zpow_natCast _ _
    rw [← shifted_div, div_lt_iff₀ (by exact_mod_cast hscaled)] at hquotient
    exact_mod_cast hquotient
  rw [positiveQuotient]
  generalize num * tenTo (quotientPlaces num den).toNat = scaledNum at *
  generalize den * tenTo (-quotientPlaces num den).toNat = scaledDen at *
  have hexact : scaledNum / scaledDen < 10 ^ precision := (Nat.div_lt_iff_lt_mul hscaled).mpr hless
  simp only
  split_ifs with hdivides hbehind hcarry
  · obtain ⟨-, hstripped⟩ := stripZeros_spec (quotientPlaces num den).toNat (scaledNum / scaledDen)
    exact lt_of_le_of_lt ((Nat.le_mul_of_pos_right _ (by positivity)).trans_eq hstripped) hexact
  · exact hexact
  · simp [precision]
  · refine lt_of_le_of_ne (roundHalfEven_le hscaled hless.le) ?_
    rwa [tenTo_eq] at hcarry

/-- The digits of a quotient are all kept when it is multiplied. -/
theorem digitCount_quotient_le (num : Int) {den : Int} (hden : den ≠ 0) :
    digitCount (quotient num den).coefficient ≤ precision := by
  have hless : (quotient num den).coefficient < 10 ^ precision := by
    rw [quotient]
    split_ifs with hnum
    · simp
    · exact coefficient_positiveQuotient_lt _ (Int.natAbs_pos.mpr hnum) (Int.natAbs_pos.mpr hden)
  rw [digitCount_eq]
  exact Nat.log_lt_of_lt_pow' (by decide) hless

theorem le_quotientPlaces (power : Nat) (hnum : 0 < num) (hden : 0 < den) (hpower : power ≤ precision)
    (h : num * 10 ^ power < den * 10 ^ precision) :
    ∃ places, quotientPlaces num den = (places : Nat) ∧ power ≤ places := by
  have hquotient : (10 : ℚ) ^ leadingPower num den < 10 ^ ((precision : Int) - power) := by
    calc (10 : ℚ) ^ leadingPower num den ≤ num / den := (leadingPower_bounds hnum hden).1
      _ < 10 ^ ((precision : Int) - power) := by
          rw [zpow_sub₀ (by norm_num), zpow_natCast, zpow_natCast,
            div_lt_div_iff₀ (by positivity) (by positivity)]
          rw [Nat.mul_comm den] at h
          exact_mod_cast h
  have hleading := (zpow_lt_zpow_iff_right₀ (by norm_num)).mp hquotient
  have hlimit : power ≤ quotientPlaces num den := by
    rw [precision] at hpower hleading
    rw [quotientPlaces, minResultExponent, precision]
    omega
  obtain ⟨places, hplaces⟩ := Int.eq_ofNat_of_zero_le (le_trans (Int.natCast_nonneg power) hlimit)
  refine ⟨places, hplaces, ?_⟩
  rw [hplaces] at hlimit
  exact_mod_cast hlimit

/-- The excess over one is at least one unit of the last place. -/
theorem excess_of_lt (hden : 0 < den) (hless : den < num) (hlarge : num ≤ 10 ^ 26) :
    ∃ places, quotientPlaces num den = (places : Nat) ∧ (10 ^ places + 1) * den ≤ num * 10 ^ places := by
  have hnum : 0 < num := by omega
  have hunit : ∃ places, quotientPlaces num den = (places : Nat) ∧ den ≤ (num - den) * 10 ^ places := by
    rcases Nat.lt_or_ge num (2 * den) with hdouble | hdouble
    · obtain ⟨places, hplaces, hpower⟩ := le_quotientPlaces 27 hnum hden (by decide) (by
        rw [precision]
        omega)
      refine ⟨places, hplaces, (hless.le.trans hlarge).trans ?_⟩
      calc 10 ^ 26 ≤ 10 ^ places := Nat.pow_le_pow_right (by decide) (by omega)
        _ ≤ (num - den) * 10 ^ places := Nat.le_mul_of_pos_left _ (by omega)
    · obtain ⟨places, hplaces, -⟩ := le_quotientPlaces 1 hnum hden (by decide) (by
        rw [precision]
        omega)
      refine ⟨places, hplaces, le_trans ?_ (Nat.le_mul_of_pos_right _ (by positivity))⟩
      omega
  obtain ⟨places, hplaces, hunit⟩ := hunit
  refine ⟨places, hplaces, ?_⟩
  calc (10 ^ places + 1) * den = den * 10 ^ places + den := by ring
    _ ≤ den * 10 ^ places + (num - den) * 10 ^ places := Nat.add_le_add_left hunit _
    _ = num * 10 ^ places := by rw [← Nat.add_mul, Nat.add_sub_cancel' hless.le]

/-- A quotient of at most one is at least one unit of the last place below the next hundredth. -/
theorem gap_of_le (hnum : 0 < num) (hle : num ≤ den) (hbound : den ≤ 10 ^ 26) :
    ∃ left, quotientPlaces num den = (left + 2 : Nat) ∧
      100 * num * 10 ^ left + den ≤ (100 * num / den + 1) * den * 10 ^ left := by
  have hden : 0 < den := hnum.trans_le hle
  have hnext : 100 * num < (100 * num / den + 1) * den :=
    (Nat.lt_mul_div_succ (100 * num) hden).trans_eq (Nat.mul_comm _ _)
  have hunit : ∃ left, quotientPlaces num den = (left + 2 : Nat) ∧
      den ≤ ((100 * num / den + 1) * den - 100 * num) * 10 ^ left := by
    rcases Nat.lt_or_eq_of_le hle with hless | rfl
    · obtain ⟨places, hplaces, hpower⟩ := le_quotientPlaces 28 hnum hden (by decide) (by
        rw [precision]
        omega)
      refine ⟨places - 2, by omega, hbound.trans ?_⟩
      calc 10 ^ 26 ≤ 10 ^ (places - 2) := Nat.pow_le_pow_right (by decide) (by omega)
        _ ≤ _ := Nat.le_mul_of_pos_left _ (Nat.sub_pos_of_lt hnext)
    · -- one itself has a place less, and is a whole hundredth below the next one
      obtain ⟨places, hplaces, hpower⟩ := le_quotientPlaces 27 hnum hden (by decide) (by
        rw [precision]
        omega)
      refine ⟨places - 2, by omega, le_trans ?_ (Nat.le_mul_of_pos_right _ (by positivity))⟩
      rw [Nat.mul_div_cancel 100 hnum]
      omega
  obtain ⟨left, hplaces, hunit⟩ := hunit
  refine ⟨left, hplaces, ?_⟩
  calc 100 * num * 10 ^ left + den
      ≤ 100 * num * 10 ^ left + ((100 * num / den + 1) * den - 100 * num) * 10 ^ left :=
        Nat.add_le_add_left hunit _
    _ = (100 * num / den + 1) * den * 10 ^ left := by rw [← Nat.add_mul, Nat.add_sub_cancel' hnext.le]

/-- A quotient of counts is at most one when the counts say so. -/
theorem size_positiveQuotient_le_one_iff (negative : Bool) (hnum : 0 < num) (hden : 0 < den)
    (hlarge : num ≤ 10 ^ 26) (hbound : den ≤ 10 ^ 26) :
    (positiveQuotient negative num den).size ≤ 1 ↔ num ≤ den := by
  constructor
  · intro hone
    by_contra hless
    obtain ⟨places, hplaces, hexcess⟩ := excess_of_lt hden (Nat.lt_of_not_le hless) hlarge
    have hsize := (le_size_positiveQuotient negative hden hplaces hexcess).trans hone
    rw [div_le_one (by positivity)] at hsize
    push_cast at hsize
    linarith
  · intro hle
    obtain ⟨left, hplaces, -⟩ := gap_of_le hnum hle hbound
    have hbelow : num * 10 ^ (left + 2) ≤ 10 ^ (left + 2) * den := by
      rw [Nat.mul_comm]
      exact Nat.mul_le_mul_left _ hle
    calc (positiveQuotient negative num den).size ≤ (10 ^ (left + 2) : Nat) / 10 ^ (left + 2) :=
          size_positiveQuotient_le negative hden hplaces hbelow
      _ = 1 := by
          push_cast
          exact div_self (by positivity)

/-- The whole percentage of a quotient of counts is that of the exact quotient. -/
theorem floor_size_positiveQuotient (negative : Bool) (hnum : 0 < num) (hle : num ≤ den)
    (hbound : den ≤ 10 ^ 26) :
    ⌊100 * (positiveQuotient negative num den).size⌋ = (100 * num / den : Nat) := by
  have hden : 0 < den := hnum.trans_le hle
  have hdivision := Nat.div_mul_le_self (100 * num) den
  obtain ⟨left, hplaces, hgap⟩ := gap_of_le hnum hle hbound
  generalize 100 * num / den = percent at *
  have hpower : (10 : ℚ) ^ (left + 2) = 100 * 10 ^ left := by ring
  have hunit : (0 : ℚ) < 10 ^ left := by positivity
  rw [Int.floor_eq_iff]
  constructor
  · have hbelow : percent * 10 ^ left * den ≤ num * 10 ^ (left + 2) := by
      calc percent * 10 ^ left * den = percent * den * 10 ^ left := by ring
        _ ≤ 100 * num * 10 ^ left := Nat.mul_le_mul_right _ hdivision
        _ = num * 10 ^ (left + 2) := by ring
    have hsize := le_size_positiveQuotient negative hden hplaces hbelow
    rw [hpower, div_le_iff₀ (by positivity)] at hsize
    push_cast at hsize ⊢
    nlinarith
  · have habove : num * 10 ^ (left + 2) ≤ ((percent + 1) * 10 ^ left - 1) * den := by
      rw [Nat.sub_mul, Nat.one_mul]
      calc num * 10 ^ (left + 2) = 100 * num * 10 ^ left := by ring
        _ ≤ (percent + 1) * den * 10 ^ left - den := Nat.le_sub_of_add_le hgap
        _ = (percent + 1) * 10 ^ left * den - den := by ring_nf
    have hsize := size_positiveQuotient_le negative hden hplaces habove
    have hone : 1 ≤ (percent + 1) * 10 ^ left := Nat.mul_pos (Nat.succ_pos _) (by positivity)
    rw [hpower, le_div_iff₀ (by positivity), Nat.cast_sub hone] at hsize
    push_cast at hsize ⊢
    nlinarith

theorem quotient_natCast (num den : Nat) :
    quotient num den = if num = 0 then ⟨false, 0, 0⟩ else positiveQuotient false num den := by
  rw [quotient]
  simp [not_lt_of_ge]

/-- A quotient of counts exceeds one when the counts say so. -/
theorem exceedsOne_quotient_iff (hden : 0 < den) (hlarge : num ≤ 10 ^ 26) (hbound : den ≤ 10 ^ 26) :
    (quotient num den).exceedsOne = true ↔ den < num := by
  rw [quotient_natCast]
  split_ifs with hzero
  · simp [hzero, exceedsOne, atMostOne]
  · have hnum := Nat.pos_of_ne_zero hzero
    rw [exceedsOne_iff, value_of_not_negative (negative_positiveQuotient _ _ _), ← not_le,
      size_positiveQuotient_le_one_iff false hnum hden hlarge hbound, Nat.not_le]

/-- The whole percentage of a quotient of counts, of which no hundredth is lost. -/
theorem percent_quotient (hden : 0 < den) (hle : num ≤ den) (hbound : den ≤ 10 ^ 26) :
    (quotient num den).percent = .ok ((100 * num / den : Nat) : Int) := by
  have hdigits : digitCount (quotient num den).coefficient ≤ precision :=
    digitCount_quotient_le _ (by omega)
  have hfloor : ⌊100 * (quotient num den).size⌋ = (100 * num / den : Nat) := by
    rw [quotient_natCast]
    split_ifs with hzero
    · simp [hzero, size]
    · exact floor_size_positiveQuotient false (Nat.pos_of_ne_zero hzero) hle hbound
  have hunit : (quotient num den).inUnit = true := by
    have hone : (quotient num den).value ≤ 1 :=
      not_lt.mp (mt (exceedsOne_iff _).mpr (by
        rw [exceedsOne_quotient_iff hden (hle.trans hbound) hbound]
        omega))
    rw [inUnit_iff, value_quotient_nonneg_iff (by omega)]
    exact ⟨.inl (by positivity), hone⟩
  rw [percent_eq_floor hunit, size_hundredfold_of_digitCount_le hdigits, hfloor]

end Gatekeeper.Decimal
