import Gatekeeper.Number.Whole
import Mathlib

/-! Digits and rounding. The number of digits bounds a number by powers of ten on both sides, and rounding
to a whole number never crosses a whole number. -/

namespace Gatekeeper.Number

@[simp] theorem tenTo_eq (n : Nat) : tenTo n = 10 ^ n := by
  rw [tenTo, Nat.pow_eq]

@[simp] theorem twoTo_eq (n : Nat) : twoTo n = 2 ^ n := by
  rw [twoTo, Nat.pow_eq]

theorem digitCount_eq (n : Nat) : digitCount n = Nat.log 10 n + 1 := by
  fun_induction digitCount n with
  | case1 n h => rw [Nat.log_of_lt h]
  | case2 n h ih =>
      rw [ih, Nat.log_div_base]
      have hlog : 0 < Nat.log 10 n := Nat.log_pos (by decide) (by omega)
      omega

theorem digitCount_pos (n : Nat) : 0 < digitCount n := by
  rw [digitCount_eq]
  exact Nat.succ_pos _

theorem lt_pow_digitCount (n : Nat) : n < 10 ^ digitCount n := by
  rw [digitCount_eq]
  exact Nat.lt_pow_succ_log_self (by decide) n

theorem pow_digitCount_le {n : Nat} (h : 0 < n) : 10 ^ (digitCount n - 1) ≤ n := by
  rw [digitCount_eq, Nat.add_sub_cancel]
  exact Nat.pow_log_le_self 10 (by omega)

/-- Numbers of a moderate size can be written. -/
theorem isSome_wholeText? {n : Int} (h : n.natAbs ≤ 10 ^ 26) : (wholeText? n).isSome = true := by
  have hshort : ¬tenTo maxDigits ≤ n.natAbs := by
    rw [tenTo_eq, Nat.not_le]
    exact h.trans_lt (Nat.pow_lt_pow_right (by decide) (by decide))
  rw [wholeText?, if_neg hshort]
  rfl

theorem roundHalfEven_bounds (num den : Nat) :
    num / den ≤ roundHalfEven num den ∧ roundHalfEven num den ≤ num / den + 1 := by
  have hparity := Nat.mod_lt (num / den) (y := 2) (by decide)
  rw [roundHalfEven]
  split_ifs <;> omega

/-- A quotient that is at least some whole number is not rounded below it. -/
theorem le_roundHalfEven {num den bound : Nat} (hden : 0 < den) (h : bound * den ≤ num) :
    bound ≤ roundHalfEven num den :=
  le_trans ((Nat.le_div_iff_mul_le hden).mpr h) (roundHalfEven_bounds num den).1

theorem roundHalfEven_mul (bound : Nat) {den : Nat} (hden : 0 < den) :
    roundHalfEven (bound * den) den = bound := by
  rw [roundHalfEven, Nat.mul_div_cancel _ hden, Nat.mul_mod_left]
  exact if_pos hden

@[simp] theorem roundHalfEven_one (num : Nat) : roundHalfEven num 1 = num := by
  simpa using roundHalfEven_mul num Nat.one_pos

/-- A quotient that is at most some whole number is not rounded above it. -/
theorem roundHalfEven_le {num den bound : Nat} (hden : 0 < den) (h : num ≤ bound * den) :
    roundHalfEven num den ≤ bound := by
  rcases Nat.eq_or_lt_of_le h with rfl | hlt
  · rw [roundHalfEven_mul bound hden]
  · have hquotient : num / den < bound := (Nat.div_lt_iff_lt_mul hden).mpr hlt
    have hbounds := (roundHalfEven_bounds num den).2
    omega

/-- A quotient that is at most one half below an even number is not rounded below it. -/
theorem le_roundHalfEven_of_even {num den bound : Nat} (hden : 0 < den) (heven : bound % 2 = 0)
    (h : 2 * (bound * den) ≤ 2 * num + den) : bound ≤ roundHalfEven num den := by
  rcases Nat.lt_or_ge (num / den) bound with hless | hle
  · have hdivision := Nat.div_add_mod num den
    have hremainder := Nat.mod_lt num hden
    have hnext : bound = num / den + 1 := by
      have hclose : bound * den < (num / den + 2) * den := by
        rw [Nat.add_mul, Nat.mul_comm (num / den)]
        omega
      have hbound := Nat.lt_of_mul_lt_mul_right hclose
      omega
    rw [hnext, Nat.add_mul, Nat.one_mul, Nat.mul_comm (num / den)] at h
    rw [roundHalfEven]
    split_ifs <;> omega
  · exact hle.trans (roundHalfEven_bounds num den).1

/-- Rounding moves a quotient by at most one half. -/
theorem roundHalfEven_error (num : Nat) {den : Nat} (hden : 0 < den) :
    |(roundHalfEven num den : ℚ) - num / den| ≤ 1 / 2 := by
  have hdivision := Nat.div_add_mod num den
  have hremainder := Nat.mod_lt num hden
  have hparity := Nat.mod_lt (num / den) (y := 2) (by decide)
  have hwhole : 2 * num ≤ 2 * (den * roundHalfEven num den) + den ∧
      2 * (den * roundHalfEven num den) ≤ 2 * num + den := by
    rw [roundHalfEven]
    split_ifs with hless hmore
    · omega
    · rw [Nat.mul_add]
      omega
    · have hcarry : den * (num / den % 2) ≤ den := by
        calc den * (num / den % 2) ≤ den * 1 := Nat.mul_le_mul_left den (by omega)
          _ = den := Nat.mul_one den
      rw [Nat.mul_add]
      omega
  have hdenominator : (0 : ℚ) < den := by exact_mod_cast hden
  obtain ⟨hbelow, habove⟩ := hwhole
  have hlow : (2 : ℚ) * num ≤ 2 * (den * roundHalfEven num den) + den := by exact_mod_cast hbelow
  have hhigh : (2 : ℚ) * (den * roundHalfEven num den) ≤ 2 * num + den := by exact_mod_cast habove
  rw [sub_div' hdenominator.ne', abs_div, abs_of_pos hdenominator, div_le_iff₀ hdenominator, abs_le]
  constructor <;> linarith

/-- Only a quotient of at most one half is rounded to zero. -/
theorem roundHalfEven_eq_zero_iff {num den : Nat} (hden : 0 < den) :
    roundHalfEven num den = 0 ↔ 2 * num ≤ den := by
  have hdivision := Nat.div_add_mod num den
  have hremainder := Nat.mod_lt num hden
  rw [roundHalfEven]
  rcases Nat.eq_zero_or_pos (num / den) with hzero | hpos
  · rw [hzero] at hdivision ⊢
    rw [Nat.mul_zero] at hdivision
    split
    · omega
    · split <;> omega
  · have hle : den ≤ den * (num / den) := Nat.le_mul_of_pos_right den hpos
    split
    · omega
    · split <;> omega

end Gatekeeper.Number
