import Mathlib
import Gatekeeper.Text.Utf8

/-! UTF-8 is read back. The bytes of a character make up one piece, whatever follows them, so that every text comes back
from its bytes. -/

namespace Gatekeeper.Text

theorem toNat_ofNat_of_lt {n : Nat} (h : n < 256) : (UInt8.ofNat n).toNat = n :=
  UInt8.toNat_ofNat_of_lt' h

/-- A byte is a whole character, or begins one of two, three or four bytes. The first byte bounds the second one where
the rest could make up an overlong form, a surrogate, or a value that is too large. -/
theorem Lead.ofByte_one {n : Nat} (h : n < 0x80) : ofByte (UInt8.ofNat n) = .complete (Char.ofNat n) := by
  have hn : (UInt8.ofNat n).toNat = n := toNat_ofNat_of_lt (by omega)
  simp only [ofByte, UInt8.lt_iff_toNat_lt, hn, UInt8.reduceToNat]
  rw [if_pos h]

theorem Lead.ofByte_two {n : Nat} (hlow : 0xC2 ≤ n) (hhigh : n < 0xE0) :
    ofByte (UInt8.ofNat n) = .pending ⟨1, 0x80, 0xBF, n - 0xC0⟩ := by
  have hn : (UInt8.ofNat n).toNat = n := toNat_ofNat_of_lt (by omega)
  simp only [ofByte, UInt8.lt_iff_toNat_lt, hn, UInt8.reduceToNat]
  rw [if_neg (by omega), if_neg (by omega), if_pos hhigh]

theorem Lead.ofByte_three {n : Nat} (hlow : 0xE0 ≤ n) (hhigh : n < 0xF0) :
    ∃ low high, ofByte (UInt8.ofNat n) = .pending ⟨2, low, high, n - 0xE0⟩ ∧
      low.toNat = (if n = 0xE0 then 0xA0 else 0x80) ∧ high.toNat = if n = 0xED then 0x9F else 0xBF := by
  interval_cases n
  all_goals exact ⟨_, _, rfl, by decide, by decide⟩

theorem Lead.ofByte_four {n : Nat} (hlow : 0xF0 ≤ n) (hhigh : n < 0xF5) :
    ∃ low high, ofByte (UInt8.ofNat n) = .pending ⟨3, low, high, n - 0xF0⟩ ∧
      low.toNat = (if n = 0xF0 then 0x90 else 0x80) ∧ high.toNat = if n = 0xF4 then 0x8F else 0xBF := by
  interval_cases n
  all_goals exact ⟨_, _, rfl, by decide, by decide⟩

variable {part : Pending} {n : Nat}

theorem Pending.extend_ofNat (h : n < 64) : part.extend (UInt8.ofNat (0x80 + n)) = part.value * 64 + n := by
  have hbyte : (UInt8.ofNat (0x80 + n)).toNat = 0x80 + n := toNat_ofNat_of_lt (by omega)
  unfold extend
  rw [hbyte]
  omega

theorem isBetween_of_bounds (hn : n < 256) (hlow : part.low.toNat ≤ n) (hhigh : n ≤ part.high.toNat) :
    (decide (part.low ≤ UInt8.ofNat n) && decide (UInt8.ofNat n ≤ part.high)) = true := by
  rw [Bool.and_eq_true, decide_eq_true_eq, decide_eq_true_eq, UInt8.le_iff_toNat_le, UInt8.le_iff_toNat_le,
    toNat_ofNat_of_lt hn]
  exact ⟨hlow, hhigh⟩

/-- The last byte of a character completes it. -/
theorem utf8Pieces_last (hmissing : part.missing = 1) (hn : n < 64) (hlow : part.low.toNat ≤ 0x80 + n)
    (hhigh : 0x80 + n ≤ part.high.toNat) (rest : List UInt8) :
    utf8Pieces (some part) (UInt8.ofNat (0x80 + n) :: rest) =
      some (Char.ofNat (part.value * 64 + n)) :: utf8Pieces none rest := by
  rw [utf8Pieces, if_pos (isBetween_of_bounds (by omega) hlow hhigh), if_pos (by omega), Pending.extend_ofNat hn]

/-- A byte in the middle of a character adds six bits to its value. -/
theorem utf8Pieces_middle (hmissing : 1 < part.missing) (hn : n < 64) (hlow : part.low.toNat ≤ 0x80 + n)
    (hhigh : 0x80 + n ≤ part.high.toNat) (rest : List UInt8) :
    utf8Pieces (some part) (UInt8.ofNat (0x80 + n) :: rest) =
      utf8Pieces (some ⟨part.missing - 1, 0x80, 0xBF, part.value * 64 + n⟩) rest := by
  rw [utf8Pieces, if_pos (isBetween_of_bounds (by omega) hlow hhigh), if_neg (by omega), Pending.extend_ofNat hn]

/-- The bytes of a character are read as this character. -/
theorem utf8Pieces_utf8Bytes_append (c : Char) (rest : List UInt8) :
    utf8Pieces none (utf8Bytes c ++ rest) = some c :: utf8Pieces none rest := by
  have hvalid : c.toNat < 0xD800 ∨ 0xDFFF < c.toNat ∧ c.toNat < 0x110000 := c.valid
  have hc : Char.ofNat c.toNat = c := Char.ofNat_toNat c
  rw [utf8Bytes]
  generalize c.toNat = n at hvalid hc ⊢
  subst hc
  split_ifs with hone htwo hthree
  · rw [List.singleton_append, utf8Pieces, Lead.ofByte_one hone]
  · rw [List.cons_append, List.singleton_append, utf8Pieces, Lead.ofByte_two (by omega) (by omega)]
    simp only
    rw [utf8Pieces_last rfl (Nat.mod_lt _ (by decide)) (by simp) (by simp; omega)]
    simp only [Nat.add_sub_cancel_left, Nat.div_add_mod']
  · obtain ⟨low, high, hlead, hlow, hhigh⟩ := Lead.ofByte_three (n := 0xE0 + n / 4096) (by omega) (by omega)
    rw [List.cons_append, List.cons_append, List.singleton_append, utf8Pieces, hlead]
    simp only
    rw [utf8Pieces_middle (by simp) (Nat.mod_lt _ (by decide)) (by simp only [hlow]; split <;> omega)
        (by simp only [hhigh]; split <;> omega),
      utf8Pieces_last rfl (Nat.mod_lt _ (by decide)) (by simp) (by simp; omega)]
    simp only [Nat.add_sub_cancel_left]
    congr 3
    omega
  · obtain ⟨low, high, hlead, hlow, hhigh⟩ := Lead.ofByte_four (n := 0xF0 + n / 262144) (by omega) (by omega)
    rw [List.cons_append, List.cons_append, List.cons_append, List.singleton_append, utf8Pieces, hlead]
    simp only
    rw [utf8Pieces_middle (by simp) (Nat.mod_lt _ (by decide)) (by simp only [hlow]; split <;> omega)
        (by simp only [hhigh]; split <;> omega),
      utf8Pieces_middle (by simp) (Nat.mod_lt _ (by decide)) (by simp) (by simp; omega),
      utf8Pieces_last rfl (Nat.mod_lt _ (by decide)) (by simp) (by simp; omega)]
    simp only [Nat.add_sub_cancel_left]
    congr 3
    omega

theorem utf8Pieces_flatMap (cs : List Char) : utf8Pieces none (cs.flatMap utf8Bytes) = cs.map some := by
  induction cs with
  | nil => rfl
  | cons c rest ih => rw [List.flatMap_cons, utf8Pieces_utf8Bytes_append, List.map_cons, ih]

/-- A text is read back from its bytes. -/
theorem decodeUtf8?_flatMap (cs : List Char) : decodeUtf8? (cs.flatMap utf8Bytes) = some cs := by
  rw [decodeUtf8?, utf8Pieces_flatMap]
  induction cs with
  | nil => rfl
  | cons c rest ih =>
      rw [List.map_cons, List.mapM_cons, ih]
      rfl

/-- The bytes of a character begin with its own code point or with one above all of ASCII. -/
theorem exists_utf8Bytes_eq_cons (c : Char) :
    ∃ b more, utf8Bytes c = b :: more ∧ (b.toNat = c.toNat ∨ 0x80 ≤ b.toNat) := by
  have hsize : c.toNat < 0x110000 := by
    rcases c.valid with hlow | ⟨-, hhigh⟩
    · exact hlow.trans (by decide)
    · exact hhigh
  rw [utf8Bytes]
  split_ifs with hone htwo hthree
  · exact ⟨_, _, rfl, .inl (toNat_ofNat_of_lt (by omega))⟩
  · exact ⟨_, _, rfl, .inr (by rw [toNat_ofNat_of_lt (by omega)]; omega)⟩
  · exact ⟨_, _, rfl, .inr (by rw [toNat_ofNat_of_lt (by omega)]; omega)⟩
  · exact ⟨_, _, rfl, .inr (by rw [toNat_ofNat_of_lt (by omega)]; omega)⟩

end Gatekeeper.Text
