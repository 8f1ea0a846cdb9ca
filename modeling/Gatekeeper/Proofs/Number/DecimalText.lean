import Gatekeeper.Number.DecimalReader
import Mathlib

/-! The text of a decimal is read back digit by digit: with the same sign, the same coefficient and the same
power of ten, whichever of its forms the text has. -/

namespace Gatekeeper

open Number Text

namespace Number

theorem ofAsciiDigits_eq (cs : List Char) : ofAsciiDigits cs = Nat.ofDigitChars 10 cs 0 := by
  rw [ofAsciiDigits, ofDigits, List.foldl_map, Nat.ofDigitChars_eq_foldl]

theorem ofAsciiDigits_digitChars (n : Nat) : ofAsciiDigits (digitChars n) = n := by
  rw [ofAsciiDigits_eq, digitChars, Nat.ofDigitChars_ten_toDigits]

theorem ofAsciiDigits_zeros_append (count : Nat) (cs : List Char) :
    ofAsciiDigits (List.replicate count '0' ++ cs) = ofAsciiDigits cs := by
  rw [ofAsciiDigits_eq, ofAsciiDigits_eq, Nat.ofDigitChars_append, Nat.ofDigitChars_replicate_zero,
    Nat.mul_zero]

theorem isAsciiDigit_of_mem_digitChars {n : Nat} {c : Char} (h : c ∈ digitChars n) :
    isAsciiDigit c = true := by
  have hdigit := Nat.isDigit_of_mem_toDigits (by decide) (by decide) h
  simpa [Char.isDigit, isAsciiDigit, Char.le_def] using hdigit

theorem unsigned_digitChars (n : Nat) : exponent?.unsigned (digitChars n) = true := by
  rw [exponent?.unsigned, Bool.and_eq_true, Bool.not_eq_true', List.isEmpty_eq_false_iff, List.all_eq_true]
  exact ⟨Nat.toDigits_ne_nil, fun c => isAsciiDigit_of_mem_digitChars⟩

/-- Digits that are followed by something else are all found. -/
theorem span_digits {digits rest : List Char} (hdigits : ∀ c ∈ digits, isAsciiDigit c = true)
    (hrest : ∀ c ∈ rest.head?, isAsciiDigit c = false) :
    (digits ++ rest).span isAsciiDigit = (digits, rest) := by
  rw [List.span_eq_takeWhile_dropWhile, List.takeWhile_append_of_pos hdigits,
    List.dropWhile_append_of_pos hdigits]
  cases rest with
  | nil => simp
  | cons c rest =>
      have hc : ¬isAsciiDigit c = true := by simp [hrest c rfl]
      rw [List.takeWhile_cons_of_neg hc, List.dropWhile_cons_of_neg hc, List.append_nil]

/-- What follows the digits of a number: nothing, or a mark with a power of ten. -/
inductive IsPower : List Char → Int → Prop where
  | absent : IsPower [] 0
  | marked (power : Int) :
    IsPower ('E' :: (if power < 0 then '-' else '+') :: digitChars power.natAbs) power

/-- A point and the digits after it, if there are any. -/
def pointed (part : List Char) : List Char :=
  if part.isEmpty then [] else '.' :: part

/-- Whether a text without a sign is a way to write a number. -/
def Scientific.IsWritten (number : Scientific) (cs : List Char) : Prop :=
  ∃ whole part tail power, cs = whole ++ (pointed part ++ tail) ∧ whole ≠ [] ∧
    (∀ c ∈ whole ++ part, isAsciiDigit c = true) ∧ IsPower tail power ∧
    number = ⟨ofAsciiDigits (whole ++ part), power - part.length⟩

theorem exponent?_marked (power : Int) :
    exponent? ((if power < 0 then '-' else '+') :: digitChars power.natAbs) = some power := by
  by_cases hsign : power < 0
  · rw [if_pos hsign, exponent?, if_pos (unsigned_digitChars _), ofAsciiDigits_digitChars]
    exact congrArg some (by omega)
  · rw [if_neg hsign, exponent?, if_pos (unsigned_digitChars _), ofAsciiDigits_digitChars]
    exact congrArg some (by omega)

theorem IsPower.head?_not_digit {tail : List Char} {power : Int} (h : IsPower tail power) :
    ∀ c ∈ tail.head?, isAsciiDigit c = false := by
  cases h with
  | absent => nofun
  | marked =>
      intro c hc
      cases hc
      decide

theorem fraction_pointed {part tail : List Char} {power : Int}
    (hpart : ∀ c ∈ part, isAsciiDigit c = true) (htail : IsPower tail power) :
    fraction (pointed part ++ tail) = (part, tail) := by
  rw [pointed]
  split
  · rename_i hempty
    rw [List.isEmpty_iff.mp hempty]
    cases htail <;> rfl
  · exact span_digits hpart htail.head?_not_digit

theorem Scientific.ofChars?_of_isWritten {number : Scientific} {cs : List Char}
    (h : number.IsWritten cs) : Scientific.ofChars? cs = some number := by
  obtain ⟨whole, part, tail, power, rfl, hwhole, hdigits, htail, rfl⟩ := h
  have hhead : ∀ c ∈ (pointed part ++ tail).head?, isAsciiDigit c = false := by
    rw [pointed]
    split
    · exact htail.head?_not_digit
    · intro c hc
      cases hc
      decide
  have hspan := span_digits (fun c hc => hdigits c (List.mem_append_left part hc)) hhead
  have hfraction := fraction_pointed (fun c hc => hdigits c (List.mem_append_right whole hc)) htail
  have hsome : (whole ++ part).isEmpty = false := by simp [hwhole]
  rw [Scientific.ofChars?, hspan]
  simp only
  rw [hfraction]
  simp only
  rw [hsome, if_neg Bool.false_ne_true]
  cases htail with
  | absent => rfl
  | marked =>
      simp only [decide_true, Bool.or_true, if_true]
      rw [exponent?_marked]
      rfl

end Number

namespace Decimal

/-- The sign in front of a text. -/
def signChars (d : Decimal) : List Char :=
  if d.negative then ['-'] else []

theorem isWritten_below_one {digits : List Char} {exponent : Int} (hsome : digits ≠ [])
    (hdigits : ∀ c ∈ digits, isAsciiDigit c = true) (hleft : exponent + digits.length ≤ 0) :
    Scientific.IsWritten ⟨ofAsciiDigits digits, exponent⟩
      ('0' :: '.' :: (List.replicate (-(exponent + digits.length)).toNat '0' ++ digits)) := by
  generalize hcount : (-(exponent + digits.length)).toNat = count
  have hpart : (List.replicate count '0' ++ digits).isEmpty = false := by simp [hsome]
  refine ⟨['0'], List.replicate count '0' ++ digits, [], 0, ?_, List.cons_ne_nil _ _, ?_, .absent, ?_⟩
  · simp [pointed, hpart]
  · intro c hc
    rcases List.mem_append.mp hc with hzero | hrest
    · rw [List.mem_singleton.mp hzero]
      decide
    · rcases List.mem_append.mp hrest with hzero | hdigit
      · rw [List.eq_of_mem_replicate hzero]
        decide
      · exact hdigits c hdigit
  · have hzeros : ['0'] ++ (List.replicate count '0' ++ digits) =
        List.replicate (count + 1) '0' ++ digits := by
      simp [List.replicate_succ]
    rw [hzeros, ofAsciiDigits_zeros_append, List.length_append, List.length_replicate]
    congr 1
    omega

theorem isWritten_whole {digits : List Char} (hsome : digits ≠ [])
    (hdigits : ∀ c ∈ digits, isAsciiDigit c = true) :
    Scientific.IsWritten ⟨ofAsciiDigits digits, 0⟩ digits := by
  refine ⟨digits, [], [], 0, ?_, hsome, ?_, .absent, ?_⟩
  · simp [pointed]
  · simpa using hdigits
  · simp

/-- Digits of which the first ones stand before the point, with a power of ten after them. -/
theorem isWritten_split {digits tail : List Char} {power : Int} (left : Nat)
    (hdigits : ∀ c ∈ digits, isAsciiDigit c = true) (hfirst : 0 < left) (hleft : left ≤ digits.length)
    (htail : IsPower tail power) :
    Scientific.IsWritten ⟨ofAsciiDigits digits, power - (digits.length - left : Nat)⟩
      (digits.take left ++ (pointed (digits.drop left) ++ tail)) := by
  refine ⟨digits.take left, digits.drop left, tail, power, rfl, ?_, ?_, htail, ?_⟩
  · rw [← List.length_pos_iff, List.length_take]
    omega
  · rwa [List.take_append_drop]
  · rw [List.take_append_drop, List.length_drop]

/-- Every form of a text is a way to write the coefficient and the power of ten. -/
theorem chars_isWritten (d : Decimal) :
    ∃ cs, d.chars = d.signChars ++ cs ∧ Scientific.IsWritten ⟨d.coefficient, d.exponent⟩ cs := by
  have hdigits : ∀ c ∈ digitChars d.coefficient, isAsciiDigit c = true :=
    fun c => isAsciiDigit_of_mem_digitChars
  have hsome : digitChars d.coefficient ≠ [] := Nat.toDigits_ne_nil
  have hvalue := ofAsciiDigits_digitChars d.coefficient
  have hlength := List.length_pos_iff.mpr hsome
  rw [chars]
  generalize digitChars d.coefficient = digits at hdigits hsome hvalue hlength ⊢
  simp only
  rw [← hvalue]
  split
  · rename_i hplain
    simp only [Bool.and_eq_true, decide_eq_true_eq] at hplain
    split
    · rename_i hleft
      exact ⟨_, rfl, isWritten_below_one hsome hdigits hleft⟩
    · rename_i hleft
      split
      · rename_i hexponent
        rw [hexponent]
        exact ⟨_, rfl, isWritten_whole hsome hdigits⟩
      · rename_i hexponent
        obtain ⟨left, hcount⟩ := Int.eq_ofNat_of_zero_le (Int.le_of_lt (Int.not_le.mp hleft))
        have hsplit := isWritten_split left hdigits (by omega) (by omega) .absent
        have hpart : (digits.drop left).isEmpty = false := by
          rw [List.isEmpty_eq_false_iff, ← List.length_pos_iff, List.length_drop]
          omega
        have hpower : (0 : Int) - (digits.length - left : Nat) = d.exponent := by omega
        rw [hpower, pointed, hpart, if_neg Bool.false_ne_true, List.append_nil] at hsplit
        rw [hcount, Int.toNat_natCast]
        exact ⟨_, List.append_assoc _ _ _, hsplit⟩
  · have hsplit := isWritten_split 1 hdigits (by omega) (by omega)
      (.marked (d.exponent + digits.length - 1))
    have hpower : d.exponent + digits.length - 1 - (digits.length - 1 : Nat) = d.exponent := by omega
    have hpoint : (if (1 : Int) < digits.length then '.' :: digits.drop 1 else []) =
        pointed (digits.drop 1) := by
      by_cases hmore : 1 < digits.length
      · have hpart : (digits.drop 1).isEmpty = false := by
          rw [List.isEmpty_eq_false_iff, ← List.length_pos_iff, List.length_drop]
          omega
        rw [if_pos (by omega), pointed, hpart, if_neg Bool.false_ne_true]
      · rw [if_neg (by omega), pointed, List.drop_eq_nil_of_le (by omega)]
        rfl
    rw [hpower] at hsplit
    refine ⟨_, ?_, hsplit⟩
    rw [hpoint, signChars]
    simp only [List.append_assoc]

end Decimal

/-- A character that is written in ASCII, is no blank and no underscore. -/
def IsPlain (c : Char) : Prop :=
  0x20 < c.toNat ∧ c.toNat < 0x7F ∧ c ≠ '_'

instance (c : Char) : Decidable (IsPlain c) :=
  inferInstanceAs (Decidable (_ ∧ _))

theorem isPlain_of_isAsciiDigit {c : Char} (h : isAsciiDigit c = true) : IsPlain c := by
  simp only [isAsciiDigit, Bool.and_eq_true, decide_eq_true_eq, Char.le_def, UInt32.le_iff_toNat_le] at h
  have hlow : 48 ≤ c.toNat := h.1
  have hhigh : c.toNat ≤ 57 := h.2
  refine ⟨by omega, by omega, ?_⟩
  rintro rfl
  revert hhigh
  decide

theorem isBlank_of_isPlain {c : Char} (h : IsPlain c) : isBlank c = false := by
  obtain ⟨hlow, hhigh, -⟩ := h
  simp only [isBlank, isWhiteSpace, Bool.or_eq_false_iff, Bool.and_eq_false_iff, decide_eq_false_iff_not,
    beq_eq_false_iff_ne]
  omega

theorem isPlain_of_mem_pointed {part : List Char} (h : ∀ c ∈ part, isAsciiDigit c = true) :
    ∀ c ∈ pointed part, IsPlain c := by
  rw [pointed]
  split
  · nofun
  · rw [List.forall_mem_cons]
    exact ⟨by decide, fun c hc => isPlain_of_isAsciiDigit (h c hc)⟩

theorem Number.IsPower.isPlain_of_mem {tail : List Char} {power : Int} (h : IsPower tail power) :
    ∀ c ∈ tail, IsPlain c := by
  cases h with
  | absent => nofun
  | marked =>
      rw [List.forall_mem_cons, List.forall_mem_cons]
      refine ⟨by decide, ?_, fun c hc => isPlain_of_isAsciiDigit (isAsciiDigit_of_mem_digitChars hc)⟩
      split <;> decide

namespace Decimal

theorem isPlain_of_mem_chars {d : Decimal} : ∀ c ∈ d.chars, IsPlain c := by
  obtain ⟨cs, hchars, whole, part, tail, power, rfl, -, hdigits, htail, -⟩ := d.chars_isWritten
  have hsign : ∀ c ∈ d.signChars, IsPlain c := by
    rw [signChars]
    split
    · rw [List.forall_mem_singleton]
      decide
    · nofun
  rw [List.forall_mem_append] at hdigits
  rw [hchars]
  simp only [List.forall_mem_append]
  exact ⟨hsign, fun c hc => isPlain_of_isAsciiDigit (hdigits.1 c hc), isPlain_of_mem_pointed hdigits.2,
    htail.isPlain_of_mem⟩

end Decimal

theorem dropWhile_isBlank_of_isPlain {cs : List Char} (h : ∀ c ∈ cs, IsPlain c) (after : List Char)
    (hsome : cs ≠ []) : (cs ++ after).dropWhile isBlank = cs ++ after := by
  obtain ⟨c, rest, rfl⟩ := List.exists_cons_of_ne_nil hsome
  have hc : isBlank c = false := isBlank_of_isPlain (h c List.mem_cons_self)
  exact List.dropWhile_cons_of_neg (by simp [hc])

/-- The blanks after a text without blanks are all that is cut off. -/
theorem trim_of_isPlain {cs after : List Char} (hplain : ∀ c ∈ cs, IsPlain c)
    (hafter : ∀ c ∈ after, isBlank c = true) : trim (cs ++ after) = cs := by
  have hblanks : ∀ c ∈ after.reverse, isBlank c = true := fun c hc => hafter c (List.mem_reverse.mp hc)
  have hreversed : ∀ c ∈ cs.reverse, IsPlain c := fun c hc => hplain c (List.mem_reverse.mp hc)
  rw [trim, trimBy]
  by_cases hsome : cs = []
  · rw [hsome, List.nil_append, List.dropWhile_eq_nil_iff.mpr hafter]
    rfl
  · have hback := dropWhile_isBlank_of_isPlain hreversed [] (mt List.reverse_eq_nil_iff.mp hsome)
    rw [List.append_nil] at hback
    rw [dropWhile_isBlank_of_isPlain hplain after hsome, List.reverse_append,
      List.dropWhile_append_of_pos hblanks, hback, List.reverse_reverse]

theorem plainNumeral?_of_isPlain {cs : List Char} (h : ∀ c ∈ cs, IsPlain c) :
    plainNumeral? cs = some cs := by
  have hnone : ∀ c ∈ ([] : List Char), isBlank c = true := nofun
  have htrim : trim cs = cs := by simpa using trim_of_isPlain h hnone
  have hfilter : cs.filter (· ≠ '_') = cs := by
    rw [List.filter_eq_self]
    intro c hc
    simpa using (h c hc).2.2
  rw [plainNumeral?, htrim, hfilter]
  clear htrim hfilter
  induction cs with
  | nil => rfl
  | cons c rest ih =>
      obtain ⟨hlow, hhigh, -⟩ := h c List.mem_cons_self
      rw [List.mapM_cons, if_neg (by omega), if_pos (by omega),
        ih fun other hother => h other (List.mem_cons_of_mem c hother)]
      rfl

namespace Number

theorem Scientific.exists_cons_of_isWritten {cs : List Char} {number : Scientific}
    (h : number.IsWritten cs) : ∃ c rest, cs = c :: rest ∧ isAsciiDigit c = true := by
  obtain ⟨whole, part, tail, power, rfl, hwhole, hdigits, -⟩ := h
  obtain ⟨c, rest, rfl⟩ := List.exists_cons_of_ne_nil hwhole
  exact ⟨c, rest ++ (pointed part ++ tail), rfl, hdigits c List.mem_cons_self⟩

theorem toLower_of_isAsciiDigit {c : Char} (h : isAsciiDigit c = true) : c.toLower = c := by
  simp only [isAsciiDigit, Bool.and_eq_true, decide_eq_true_eq] at h
  rw [Char.toLower, dif_neg]
  rintro ⟨hletter, -⟩
  have hdigit : c.val ≤ '9'.val := h.2
  exact absurd (UInt32.le_trans hletter hdigit) (by decide)

/-- A text that begins with a digit is no word. -/
theorem spells_cons_of_isAsciiDigit {c : Char} {word : String} (h : isAsciiDigit c = true)
    (hword : word.toList.any isAsciiDigit = false) (rest : List Char) :
    spells word (c :: rest) = false := by
  rw [spells, decide_eq_false_iff_not, List.map_cons, toLower_of_isAsciiDigit h]
  intro heq
  rw [← heq, List.any_cons, h] at hword
  cases hword

end Number

namespace Numeral

theorem splitSign_signChars {d : Decimal} {cs : List Char} {number : Scientific}
    (h : number.IsWritten cs) : splitSign (d.signChars ++ cs) = (d.negative, cs) := by
  obtain ⟨c, rest, rfl, hdigit⟩ := Scientific.exists_cons_of_isWritten h
  rw [Decimal.signChars]
  cases d.negative with
  | true => rfl
  | false =>
      rw [if_neg Bool.false_ne_true, List.nil_append]
      unfold splitSign
      split
      · rename_i heq
        cases heq
        cases hdigit
      · rename_i heq
        cases heq
        cases hdigit
      · rfl

theorem ofUnsigned?_of_isWritten {d : Decimal} {cs : List Char} (hbounded : d.isBounded = true)
    (h : Scientific.IsWritten ⟨d.coefficient, d.exponent⟩ cs) :
    ofUnsigned? d.negative cs = some (finite d) := by
  have hnumber := Scientific.ofChars?_of_isWritten h
  obtain ⟨c, rest, rfl, hdigit⟩ := Scientific.exists_cons_of_isWritten h
  have hword : ∀ {word : String}, word.toList.any isAsciiDigit = false →
      ∀ rest, ¬spells word (c :: rest) = true := by
    intro word hword rest
    rw [spells_cons_of_isAsciiDigit hdigit hword]
    exact Bool.false_ne_true
  rw [ofUnsigned?, List.take_succ_cons, List.take_succ_cons, if_neg, if_neg (hword rfl _),
    if_neg (hword rfl _), hnumber]
  · simp only
    rw [if_pos hbounded]
  · rw [Bool.or_eq_true, not_or]
    exact ⟨hword rfl _, hword rfl _⟩

/-- A decimal with a power of ten within the bounds is what its text is read as. -/
theorem ofChars?_chars {d : Decimal} (h : d.isBounded = true) : ofChars? d.chars = some (finite d) := by
  obtain ⟨cs, hchars, hwritten⟩ := d.chars_isWritten
  rw [ofChars?, plainNumeral?_of_isPlain Decimal.isPlain_of_mem_chars, hchars]
  simp only
  rw [splitSign_signChars hwritten]
  exact ofUnsigned?_of_isWritten h hwritten

/-- Only decimals with a power of ten within the bounds are read. -/
theorem isBounded_of_ofChars?_eq_some {cs : List Char} {value : Decimal}
    (h : ofChars? cs = some (finite value)) : value.isBounded = true := by
  rw [ofChars?] at h
  split at h
  · rw [ofUnsigned?] at h
    split_ifs at h
    · cases h
    · obtain ⟨_, -, hnone⟩ := Option.map_eq_some_iff.mp h
      cases hnone
    · obtain ⟨_, -, hnone⟩ := Option.map_eq_some_iff.mp h
      cases hnone
    · split at h
      · simp only at h
        split at h
        · rename_i hbounded
          cases h
          exact hbounded
        · cases h
      · cases h
  · cases h

end Numeral

end Gatekeeper
