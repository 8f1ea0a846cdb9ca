import Mathlib
import Gatekeeper.Markup.Charset

/-! Where a text can be split. In every charset each character has bytes of its own, which mean it whatever follows
them. So a text splits wherever its bytes do without a fault, and its bytes split wherever the text does. -/

namespace Gatekeeper

open Text

namespace Text

/-- What may stand at the front of a byte string: nothing, a fault, or the bytes of one character. -/
theorem utf8Pieces_cases (pending : Option Pending) (bytes : List UInt8) :
    (pending = none ∧ bytes = []) ∨ (∃ pieces, utf8Pieces pending bytes = none :: pieces) ∨
      ∃ c first rest, first ≠ [] ∧ bytes = first ++ rest ∧
        ∀ rest, utf8Pieces pending (first ++ rest) = some c :: utf8Pieces none rest := by
  induction bytes generalizing pending with
  | nil =>
      cases pending with
      | none => exact .inl ⟨rfl, rfl⟩
      | some part => exact .inr (.inl ⟨[], rfl⟩)
  | cons byte rest ih =>
      -- A byte in the middle of a character leaves the rest of the character to the bytes after it.
      have hmiddle : ∀ part, (∀ more, utf8Pieces pending (byte :: more) = utf8Pieces (some part) more) →
          (∃ pieces, utf8Pieces pending (byte :: rest) = none :: pieces) ∨
            ∃ c first later, first ≠ [] ∧ byte :: rest = first ++ later ∧
              ∀ rest, utf8Pieces pending (first ++ rest) = some c :: utf8Pieces none rest := by
        intro part hpart
        rcases ih (some part) with ⟨hnone, -⟩ | ⟨pieces, hfault⟩ | ⟨c, first, later, -, rfl, hfirst⟩
        · cases hnone
        · exact .inl ⟨pieces, (hpart rest).trans hfault⟩
        · refine .inr ⟨c, byte :: first, later, List.cons_ne_nil _ _, rfl, fun rest => ?_⟩
          rw [List.cons_append, hpart, hfirst]
      cases pending with
      | none =>
          cases hlead : Lead.ofByte byte with
          | complete c =>
              refine .inr (.inr ⟨c, [byte], rest, List.cons_ne_nil _ _, rfl, fun rest => ?_⟩)
              rw [List.singleton_append, utf8Pieces, hlead]
          | pending part => exact .inr (hmiddle part fun more => by rw [utf8Pieces, hlead])
          | fault => exact .inr (.inl ⟨utf8Pieces none rest, by rw [utf8Pieces, hlead]⟩)
      | some part =>
          by_cases hbetween : (decide (part.low ≤ byte) && decide (byte ≤ part.high)) = true
          · by_cases hlast : part.missing ≤ 1
            · refine .inr (.inr ⟨Char.ofNat (part.extend byte), [byte], rest, List.cons_ne_nil _ _, rfl, ?_⟩)
              intro rest
              rw [List.singleton_append, utf8Pieces, if_pos hbetween, if_pos hlast]
            · exact .inr (hmiddle _ fun more => by rw [utf8Pieces, if_pos hbetween, if_neg hlast])
          · exact .inr (.inl ⟨_, by rw [utf8Pieces, if_neg hbetween]⟩)

end Text

namespace Markup

theorem ofUnits_cons (unit : Nat) (rest : List (Option Nat)) :
    ofUnits (some unit :: rest) =
      if unit < 0xD800 || 0xE000 ≤ unit then some (Char.ofNat unit) :: ofUnits rest
      else if 0xDC00 ≤ unit then none :: ofUnits rest
      else
        match rest with
        | some next :: rest =>
          some (Char.ofNat (0x10000 + (unit - 0xD800) * 1024 + next % 1024)) :: ofUnits rest
        | _ => [none] :=
  ofUnits.eq_def (some unit :: rest)

/-- What may stand at the front of code units: nothing, a fault, or one or two units of one character. -/
theorem ofUnits_cases (units : List (Option Nat)) :
    units = [] ∨ (∃ pieces, ofUnits units = none :: pieces) ∨
      (∃ c unit rest, units = some unit :: rest ∧ ∀ rest, ofUnits (some unit :: rest) = some c :: ofUnits rest) ∨
      ∃ c unit next rest, units = some unit :: some next :: rest ∧
        ∀ rest, ofUnits (some unit :: some next :: rest) = some c :: ofUnits rest := by
  rcases units with _ | ⟨_ | unit, rest⟩
  · exact .inl rfl
  · exact .inr (.inl ⟨_, rfl⟩)
  by_cases hplain : (decide (unit < 0xD800) || decide (0xE000 ≤ unit)) = true
  · exact .inr (.inr (.inl ⟨Char.ofNat unit, unit, rest, rfl, fun rest => by rw [ofUnits_cons, if_pos hplain]⟩))
  by_cases hlow : 0xDC00 ≤ unit
  · exact .inr (.inl ⟨ofUnits rest, by rw [ofUnits_cons, if_neg hplain, if_pos hlow]⟩)
  rcases rest with _ | ⟨_ | next, rest⟩
  · exact .inr (.inl ⟨[], by rw [ofUnits_cons, if_neg hplain, if_neg hlow]⟩)
  · exact .inr (.inl ⟨[], by rw [ofUnits_cons, if_neg hplain, if_neg hlow]⟩)
  · exact .inr (.inr (.inr ⟨Char.ofNat (0x10000 + (unit - 0xD800) * 1024 + next % 1024), unit, next, rest, rfl,
      fun rest => by rw [ofUnits_cons, if_neg hplain, if_neg hlow]⟩))

theorem exists_of_bytePairs_eq_cons {bigEndian : Bool} {bytes : List UInt8} {unit : Nat} {units : List (Option Nat)}
    (h : bytePairs bigEndian bytes = some unit :: units) :
    ∃ first second rest, bytes = first :: second :: rest ∧ bytePairs bigEndian rest = units ∧
      ∀ rest, bytePairs bigEndian (first :: second :: rest) = some unit :: bytePairs bigEndian rest := by
  rcases bytes with _ | ⟨first, _ | ⟨second, rest⟩⟩
  · cases h
  · cases h
  · rw [bytePairs, List.cons.injEq] at h
    refine ⟨first, second, rest, rfl, h.2, fun rest => ?_⟩
    rw [bytePairs, h.1]

namespace Charset

variable {charset : Charset} {bytes : List UInt8} {s t : List Char}

theorem pieces_cases (charset : Charset) (bytes : List UInt8) :
    bytes = [] ∨ (∃ pieces, charset.pieces bytes = none :: pieces) ∨
      ∃ c first rest, first ≠ [] ∧ bytes = first ++ rest ∧
        ∀ rest, charset.pieces (first ++ rest) = some c :: charset.pieces rest := by
  cases charset with
  | utf8 => exact (utf8Pieces_cases none bytes).imp And.right id
  | utf16 bigEndian =>
      rcases ofUnits_cases (bytePairs bigEndian bytes) with
        hnil | hfault | ⟨c, unit, units, hunits, hfirst⟩ | ⟨c, unit, next, units, hunits, hfirst⟩
      · rcases bytes with _ | ⟨first, _ | ⟨second, rest⟩⟩
        · exact .inl rfl
        · cases hnil
        · cases hnil
      · exact .inr (.inl hfault)
      · obtain ⟨first, second, rest, rfl, -, hpair⟩ := exists_of_bytePairs_eq_cons hunits
        refine .inr (.inr ⟨c, [first, second], rest, List.cons_ne_nil _ _, rfl, fun rest => ?_⟩)
        exact (congrArg ofUnits (hpair rest)).trans (hfirst _)
      · obtain ⟨first, second, more, rfl, hmore, hpair⟩ := exists_of_bytePairs_eq_cons hunits
        obtain ⟨third, fourth, rest, rfl, -, hsecond⟩ := exists_of_bytePairs_eq_cons hmore
        refine .inr (.inr ⟨c, [first, second, third, fourth], rest, List.cons_ne_nil _ _, rfl, fun rest => ?_⟩)
        exact (congrArg ofUnits ((hpair _).trans (congrArg _ (hsecond rest)))).trans (hfirst _)
  | latin1 =>
      rcases bytes with _ | ⟨byte, rest⟩
      · exact .inl rfl
      · exact .inr (.inr ⟨_, [byte], rest, List.cons_ne_nil _ _, rfl, fun rest => rfl⟩)
  | singleByte upperHalf =>
      rcases bytes with _ | ⟨byte, rest⟩
      · exact .inl rfl
      cases hbyte : ofByte upperHalf byte with
      | none => exact .inr (.inl ⟨_, by rw [pieces, List.map_cons, hbyte]⟩)
      | some c =>
          refine .inr (.inr ⟨c, [byte], rest, List.cons_ne_nil _ _, rfl, fun rest => ?_⟩)
          rw [pieces, pieces, List.singleton_append, List.map_cons, hbyte]

/-- What may stand at the front of the bytes of a text. -/
theorem decode?_cases (charset : Charset) (bytes : List UInt8) :
    (bytes = [] ∧ charset.decode? bytes = some []) ∨ charset.decode? bytes = none ∨
      ∃ c first rest, first ≠ [] ∧ bytes = first ++ rest ∧
        ∀ rest, charset.decode? (first ++ rest) = (charset.decode? rest).map (c :: ·) := by
  rcases charset.pieces_cases bytes with rfl | ⟨pieces, hfault⟩ | ⟨c, first, rest, hfirst, rfl, hpieces⟩
  · refine .inl ⟨rfl, ?_⟩
    cases charset <;> rfl
  · refine .inr (.inl ?_)
    rw [decode?, hfault]
    rfl
  by_cases hallowed : isAllowed c = true
  · refine .inr (.inr ⟨c, first, rest, hfirst, rfl, fun rest => ?_⟩)
    rw [decode?, hpieces, List.mapM_cons, Option.filter_some_pos hallowed]
    rw [Option.map_eq_bind]
    rfl
  · refine .inr (.inl ?_)
    rw [decode?, hpieces, List.mapM_cons, Option.filter_some_neg (Bool.eq_false_iff.mpr hallowed)]
    rfl

theorem decode?_nil (charset : Charset) : charset.decode? [] = some [] := by
  cases charset <;> rfl

theorem eq_nil_of_decode?_eq_nil (h : charset.decode? bytes = some []) : bytes = [] := by
  rcases charset.decode?_cases bytes with ⟨hnil, -⟩ | hnone | ⟨c, first, rest, -, rfl, hfirst⟩
  · exact hnil
  · rw [hnone] at h
    cases h
  · rw [hfirst] at h
    obtain ⟨text, -, htext⟩ := Option.map_eq_some_iff.mp h
    cases htext

/-- A text goes on with the text of the bytes that follow. -/
theorem decode?_append {more : List UInt8} (h : charset.decode? bytes = some s) :
    charset.decode? (bytes ++ more) = (charset.decode? more).map (s ++ ·) := by
  induction hsize : bytes.length using Nat.strong_induction_on generalizing bytes s with
  | _ size ih =>
      rcases charset.decode?_cases bytes with ⟨rfl, hnil⟩ | hnone | ⟨c, first, rest, hne, rfl, hfirst⟩
      · cases hnil.symm.trans h
        simp
      · cases hnone.symm.trans h
      · rw [hfirst] at h
        obtain ⟨text, htext, rfl⟩ := Option.map_eq_some_iff.mp h
        have hshorter : rest.length < size := by
          rw [← hsize, List.length_append]
          exact Nat.lt_add_of_pos_left (List.length_pos_iff.mpr hne)
        rw [List.append_assoc, hfirst, ih _ hshorter htext rfl, Option.map_map]
        rfl

/-- Bytes split where their text does. -/
theorem exists_of_decode?_eq_append (h : charset.decode? bytes = some (s ++ t)) :
    ∃ front back, bytes = front ++ back ∧ charset.decode? front = some s ∧ charset.decode? back = some t := by
  induction s generalizing bytes with
  | nil => exact ⟨[], bytes, rfl, decode?_nil charset, h⟩
  | cons c rest ih =>
      rcases charset.decode?_cases bytes with ⟨-, hnil⟩ | hnone | ⟨d, first, later, -, rfl, hfirst⟩
      · cases hnil.symm.trans h
      · cases hnone.symm.trans h
      · rw [hfirst] at h
        obtain ⟨text, htext, hcons⟩ := Option.map_eq_some_iff.mp h
        obtain ⟨rfl, rfl⟩ := List.cons.inj hcons
        obtain ⟨front, back, rfl, hfront, hback⟩ := ih htext
        refine ⟨first ++ front, back, (List.append_assoc _ _ _).symm, ?_, hback⟩
        rw [hfirst, hfront]
        rfl

end Charset

end Markup

end Gatekeeper
