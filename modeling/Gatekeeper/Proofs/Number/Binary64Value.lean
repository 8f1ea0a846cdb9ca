import Gatekeeper.Number.Binary64
import Gatekeeper.Proofs.Number.Rounding

/-! Whole numbers and binary fractions. A whole number that is rounded to a binary fraction does not cross
any other binary fraction, and one of less than fifty-three bits is not changed at all. -/

namespace Gatekeeper.Binary64

open Number

/-- The number that a finite binary fraction stands for. -/
def finiteValue (negative : Bool) (mantissa : Nat) (exponent : Int) : ℚ :=
  if negative then -(mantissa * 2 ^ exponent) else mantissa * 2 ^ exponent

/-- Whether a whole number is at most a binary fraction, with no rounding. -/
def Allows : Binary64 → Int → Prop
  | finite negative mantissa exponent _, n => (n : ℚ) ≤ finiteValue negative mantissa exponent
  | infinity negative, _ => negative = false
  | nan, _ => False

/-- The number that a binary fraction stands for; an infinite one and one without value count as zero. -/
def value : Binary64 → ℚ
  | finite negative mantissa exponent _ => finiteValue negative mantissa exponent
  | _ => 0

theorem allows_iff_of_isFinite {limit : Binary64} (h : limit.isFinite = true) (n : Int) :
    limit.Allows n ↔ (n : ℚ) ≤ limit.value := by
  cases limit with
  | finite => exact Iff.rfl
  | infinity => cases h
  | nan => cases h

theorem value_nonneg {number : Binary64} (h : number.isBelowZero = false) : 0 ≤ number.value := by
  cases number with
  | finite negative mantissa exponent fits =>
      cases negative with
      | false =>
          rw [value, finiteValue, if_neg Bool.false_ne_true]
          positivity
      | true =>
          obtain rfl : mantissa = 0 := by simpa [isBelowZero] using h
          simp [value, finiteValue]
  | infinity negative => exact le_rfl
  | nan => exact le_rfl

theorem units_eq (negative : Bool) (mantissa : Nat) {exponent : Int} (h : minExponent ≤ exponent) :
    (units negative mantissa exponent : ℚ) =
      finiteValue negative mantissa exponent * 2 ^ (-minExponent) := by
  obtain ⟨shift, hshift⟩ := Int.eq_ofNat_of_zero_le (a := exponent - minExponent) (by omega)
  have hsize : ((mantissa * twoTo (exponent - minExponent).toNat : Nat) : ℚ) =
      mantissa * 2 ^ exponent * 2 ^ (-minExponent) := by
    rw [hshift, Int.toNat_natCast, twoTo_eq, mul_assoc, ← zpow_add₀ (by norm_num), ← sub_eq_add_neg,
      hshift, zpow_natCast]
    push_cast
    rfl
  rw [units, finiteValue]
  cases negative with
  | false =>
      simp only [Bool.false_eq_true, if_false]
      exact_mod_cast hsize
  | true =>
      simp only [if_true, neg_mul, Int.cast_neg]
      rw [← hsize]
      norm_cast

/-- The order of finite binary fractions is that of their numbers. -/
theorem le_finite_iff {negative negative' : Bool} {mantissa mantissa' : Nat} {exponent exponent' : Int}
    (fits : Fits mantissa exponent) (fits' : Fits mantissa' exponent') :
    (finite negative mantissa exponent fits).le (finite negative' mantissa' exponent' fits') = true ↔
      finiteValue negative mantissa exponent ≤ finiteValue negative' mantissa' exponent' := by
  rw [le, decide_eq_true_eq, ← Int.cast_le (R := ℚ), units_eq _ _ fits.2.1, units_eq _ _ fits'.2.1]
  exact mul_le_mul_iff_left₀ (by positivity)

theorem fittingExponent_one {n : Nat} (h : 0 < n) : fittingExponent n 1 = (n.log2 : Int) - 52 := by
  have hlog : 2 ^ n.log2 ≤ n := Nat.log2_self_le (by omega)
  have htest : ¬n * 2 ^ (-((n.log2 : Int) - 52)).toNat < 2 ^ ((n.log2 : Int) - 52).toNat * 2 ^ 52 := by
    rw [not_lt, ← Nat.pow_add]
    calc 2 ^ (((n.log2 : Int) - 52).toNat + 52)
        = 2 ^ n.log2 * 2 ^ (-((n.log2 : Int) - 52)).toNat := by
          rw [← Nat.pow_add]
          congr 1
          omega
      _ ≤ n * 2 ^ (-((n.log2 : Int) - 52)).toNat := Nat.mul_le_mul_right _ hlog
  have hone : Nat.log2 1 = 0 := by decide
  rw [fittingExponent]
  simp only [twoTo_eq, hone, Nat.cast_zero, sub_zero, one_mul]
  rw [if_neg htest, minExponent]
  omega

theorem of_ofParts_eq_finite {negative negative' : Bool} {mantissa mantissa' : Nat} {exponent exponent' : Int}
    {fits : Fits mantissa' exponent'}
    (h : ofParts negative mantissa exponent = finite negative' mantissa' exponent' fits) :
    negative = negative' ∧ mantissa = mantissa' ∧ exponent = exponent' := by
  rw [ofParts] at h
  split at h
  · cases h
    exact ⟨rfl, rfl, rfl⟩
  · cases h

theorem value_carried (mantissa : Nat) (exponent : Int) :
    ((carried mantissa exponent).1 : ℚ) * 2 ^ (carried mantissa exponent).2 = mantissa * 2 ^ exponent := by
  rw [carried]
  split_ifs with hcarry
  · rw [hcarry, twoTo_eq, twoTo_eq, zpow_add₀ (by norm_num)]
    push_cast
    ring
  · rfl

/-- A whole number is rounded to a multiple of the power of two that leaves fifty-three bits. -/
theorem of_ofRatio_one_eq {negative negative' : Bool} {n mantissa : Nat} {exponent : Int}
    {fits : Fits mantissa exponent} (hn : 0 < n)
    (h : ofRatio negative n 1 = finite negative' mantissa exponent fits) :
    negative = negative' ∧ (mantissa : ℚ) * 2 ^ exponent =
      roundHalfEven (n * 2 ^ (-((n.log2 : Int) - 52)).toNat) (2 ^ ((n.log2 : Int) - 52).toNat) *
        2 ^ ((n.log2 : Int) - 52) := by
  rw [ofRatio, fittingExponent_one hn] at h
  obtain ⟨hsign, hmantissa, hexponent⟩ := of_ofParts_eq_finite h
  refine ⟨hsign, ?_⟩
  rw [← hmantissa, ← hexponent, value_carried, twoTo_eq, twoTo_eq, Nat.one_mul]

/-- A number with at most fifty-three bits is not changed by rounding. -/
theorem value_ofRatio_one {negative negative' : Bool} {n mantissa : Nat} {exponent : Int}
    {fits : Fits mantissa exponent} (hn : 0 < n) (hbits : n < 2 ^ 53)
    (h : ofRatio negative n 1 = finite negative' mantissa exponent fits) :
    (mantissa : ℚ) * 2 ^ exponent = n := by
  have hlog : n.log2 < 53 := (Nat.log2_lt (by omega)).mpr hbits
  obtain ⟨places, hplaces⟩ := Int.eq_ofNat_of_zero_le (a := -((n.log2 : Int) - 52)) (by omega)
  have hnone : ((n.log2 : Int) - 52).toNat = 0 := by omega
  rw [(of_ofRatio_one_eq hn h).2, hnone, hplaces, Int.toNat_natCast,
    show (n.log2 : Int) - 52 = -(places : Int) by omega]
  rw [Nat.pow_zero, roundHalfEven_one, zpow_neg, zpow_natCast]
  push_cast
  field_simp

/-- A binary fraction with a low power of two stays below a number with a higher one. -/
theorem mul_zpow_lt {mantissa shift : Nat} {exponent : Int} (hmantissa : mantissa < 2 ^ 53)
    (hexponent : exponent < shift) : (mantissa : ℚ) * 2 ^ exponent < (2 ^ 52 * 2 ^ shift : Nat) := by
  calc (mantissa : ℚ) * 2 ^ exponent < 2 ^ 53 * 2 ^ exponent := by
        gcongr
        exact_mod_cast hmantissa
    _ ≤ 2 ^ 53 * 2 ^ ((shift : Int) - 1) := by
        gcongr
        · norm_num
        · omega
    _ = (2 ^ 52 * 2 ^ shift : Nat) := by
        rw [zpow_sub₀ (by norm_num), zpow_natCast]
        push_cast
        ring

theorem mul_zpow_eq (mantissa : Nat) {shift : Nat} {exponent : Int} (h : (shift : Int) ≤ exponent) :
    (mantissa : ℚ) * 2 ^ exponent = (mantissa * 2 ^ (exponent - shift).toNat * 2 ^ shift : Nat) := by
  obtain ⟨rest, hrest⟩ := Int.eq_ofNat_of_zero_le (a := exponent - shift) (by omega)
  rw [hrest, Int.toNat_natCast, show exponent = ((rest + shift : Nat) : Int) by omega, zpow_natCast]
  push_cast
  ring

/-- Rounding a whole number crosses no binary fraction, neither upwards nor downwards. -/
theorem ofRatio_one_between {negative negative' : Bool} {n mantissa mantissa' : Nat}
    {exponent : Int} {fits : Fits mantissa exponent} (hn : 0 < n)
    (h : ofRatio negative n 1 = finite negative' mantissa exponent fits) (hmantissa : mantissa' < 2 ^ 53)
    (exponent' : Int) :
    ((n : ℚ) ≤ mantissa' * 2 ^ exponent' → (mantissa : ℚ) * 2 ^ exponent ≤ mantissa' * 2 ^ exponent') ∧
      ((mantissa' : ℚ) * 2 ^ exponent' ≤ n → (mantissa' : ℚ) * 2 ^ exponent' ≤ mantissa * 2 ^ exponent) := by
  rcases Nat.lt_or_ge n (2 ^ 53) with hbits | hbits
  · rw [value_ofRatio_one hn hbits h]
    exact ⟨id, id⟩
  · have hlog : 53 ≤ n.log2 := (Nat.le_log2 (by omega)).mpr hbits
    obtain ⟨shift, hshift⟩ := Nat.exists_eq_add_of_le (show 52 ≤ n.log2 by omega)
    have hnone : (-((n.log2 : Int) - 52)).toNat = 0 := by omega
    have hpower : (n.log2 : Int) - 52 = (shift : Nat) := by omega
    have hlow : 2 ^ 52 * 2 ^ shift ≤ n := by
      rw [← Nat.pow_add, ← hshift]
      exact Nat.log2_self_le (by omega)
    have hlowest : 2 ^ 52 ≤ roundHalfEven n (2 ^ shift) := le_roundHalfEven (by positivity) hlow
    rw [(of_ofRatio_one_eq hn h).2, hnone, Nat.pow_zero, Nat.mul_one, hpower, Int.toNat_natCast,
      zpow_natCast]
    rcases lt_or_ge exponent' shift with hexponent | hexponent
    · have hbelow := mul_zpow_lt hmantissa hexponent
      have hrounded : ((2 ^ 52 * 2 ^ shift : Nat) : ℚ) ≤ roundHalfEven n (2 ^ shift) * 2 ^ shift := by
        exact_mod_cast Nat.mul_le_mul_right _ hlowest
      have hexact : ((2 ^ 52 * 2 ^ shift : Nat) : ℚ) ≤ n := by exact_mod_cast hlow
      constructor <;> intro hle <;> linarith
    · rw [mul_zpow_eq mantissa' hexponent]
      constructor
      · intro hle
        exact_mod_cast Nat.mul_le_mul_right _ (roundHalfEven_le (by positivity) (by exact_mod_cast hle))
      · intro hle
        exact_mod_cast Nat.mul_le_mul_right _ (le_roundHalfEven (by positivity) (by exact_mod_cast hle))

theorem magnitude_nonneg (mantissa : Nat) (exponent : Int) : (0 : ℚ) ≤ mantissa * 2 ^ exponent := by
  positivity

theorem cast_eq_natAbs (n : Int) : (n : ℚ) = if n < 0 then -(n.natAbs : ℚ) else n.natAbs := by
  rw [Nat.cast_natAbs, Int.cast_abs]
  split_ifs with hn
  · rw [abs_of_neg (by exact_mod_cast hn), neg_neg]
  · rw [abs_of_nonneg (by exact_mod_cast not_lt.mp hn)]

/-- A whole number other than zero is rounded by its absolute value. -/
theorem of_ofInt?_eq_some {n : Int} {rounded : Binary64} (h : ofInt? n = some rounded) (hzero : n ≠ 0) :
    ∃ mantissa exponent fits, rounded = finite (decide (n < 0)) mantissa exponent fits ∧
      ofRatio (decide (n < 0)) n.natAbs 1 = rounded := by
  rw [ofInt?, if_neg hzero] at h
  split at h
  · rename_i negative mantissa exponent fits hratio
    have hsign := (of_ofRatio_one_eq (Int.natAbs_pos.mpr hzero) hratio).1
    cases h
    subst hsign
    exact ⟨mantissa, exponent, fits, rfl, hratio⟩
  · cases h

/-- What a whole number is rounded to: itself when it has at most fifty-three bits, and never more than a
binary fraction that the number does not exceed. -/
theorem value_of_ofInt?_eq_some {n : Int} {rounded : Binary64} (h : ofInt? n = some rounded) :
    ∃ negative mantissa exponent fits, rounded = finite negative mantissa exponent fits ∧
      (n.natAbs < 2 ^ 53 → finiteValue negative mantissa exponent = n) ∧
      ∀ negative' mantissa' exponent', mantissa' < 2 ^ 53 →
        (n : ℚ) ≤ finiteValue negative' mantissa' exponent' →
        finiteValue negative mantissa exponent ≤ finiteValue negative' mantissa' exponent' := by
  by_cases hzero : n = 0
  · rw [ofInt?, if_pos hzero] at h
    cases h
    have hvalue : finiteValue false 0 minExponent = n := by simp [finiteValue, hzero]
    refine ⟨false, 0, minExponent, _, rfl, fun _ => hvalue, fun _ _ _ _ hle => ?_⟩
    rw [hvalue]
    exact hle
  · obtain ⟨mantissa, exponent, fits, rfl, hratio⟩ := of_ofInt?_eq_some h hzero
    have hpos := Int.natAbs_pos.mpr hzero
    have hcast : (0 : ℚ) < n.natAbs := by exact_mod_cast hpos
    refine ⟨_, mantissa, exponent, fits, rfl, fun hbits => ?_, fun negative' mantissa' exponent' hbits hle => ?_⟩
    · rw [finiteValue, value_ofRatio_one hpos hbits hratio, cast_eq_natAbs]
      simp
    · obtain ⟨habove, hbelow⟩ := ofRatio_one_between hpos hratio hbits exponent'
      have hsize := magnitude_nonneg mantissa exponent
      have hsize' := magnitude_nonneg mantissa' exponent'
      rw [cast_eq_natAbs] at hle
      rw [finiteValue] at hle ⊢
      rw [finiteValue]
      by_cases hn : n < 0
      · rw [if_pos hn] at hle
        rw [decide_eq_true hn, if_pos rfl]
        cases negative' with
        | true =>
            rw [if_pos rfl] at hle ⊢
            linarith [hbelow (by linarith)]
        | false =>
            rw [if_neg Bool.false_ne_true]
            linarith
      · rw [if_neg hn] at hle
        rw [decide_eq_false hn, if_neg Bool.false_ne_true]
        cases negative' with
        | true =>
            rw [if_pos rfl] at hle
            linarith
        | false =>
            rw [if_neg Bool.false_ne_true] at hle ⊢
            exact habove hle

/-- A whole number that is at most a binary fraction is not rounded above it. -/
theorem le_of_allows {n : Int} {rounded limit : Binary64} (h : ofInt? n = some rounded)
    (hallows : limit.Allows n) : rounded.le limit = true := by
  obtain ⟨negative, mantissa, exponent, fits, rfl, -, hmono⟩ := value_of_ofInt?_eq_some h
  cases limit with
  | nan => exact hallows.elim
  | infinity negative' =>
      rw [Allows] at hallows
      rw [hallows]
      rfl
  | finite negative' mantissa' exponent' fits' =>
      rw [le_finite_iff]
      exact hmono _ _ _ fits'.1 hallows

/-- With at most fifty-three bits the order of the rounded numbers is the exact one. -/
theorem le_iff_allows {n : Int} {rounded limit : Binary64} (h : ofInt? n = some rounded)
    (hbits : n.natAbs < 2 ^ 53) : rounded.le limit = true ↔ limit.Allows n := by
  refine ⟨fun hle => ?_, le_of_allows h⟩
  obtain ⟨negative, mantissa, exponent, fits, rfl, hvalue, -⟩ := value_of_ofInt?_eq_some h
  cases limit with
  | nan => cases hle
  | infinity negative' =>
      rw [Allows]
      simpa [le] using hle
  | finite negative' mantissa' exponent' fits' =>
      rw [le_finite_iff, hvalue hbits] at hle
      exact hle

end Gatekeeper.Binary64
