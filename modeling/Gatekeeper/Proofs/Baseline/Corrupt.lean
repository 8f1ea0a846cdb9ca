import Gatekeeper.Proofs.Baseline.Content

/-! Contents without a ratio. Whatever a file holds, a ratio of the unit interval is loaded from it, or it is said that
there is none: a content that is no text, no numeral, not finite or outside the interval ends in the same way. -/

namespace Gatekeeper.Baseline

open Files Text

/-- Whether a content is the text of a number in the unit interval; blanks at its ends do not count. -/
def Spells (bytes : List UInt8) (ratio : Decimal) : Prop :=
  ∃ text, decodeUtf8? bytes = some text ∧ Numeral.ofChars? (trim text) = some (.finite ratio) ∧
    0 ≤ ratio.value ∧ ratio.value ≤ 1

/-- The ways in which a content can be without a ratio. -/
inductive IsCorrupt (bytes : List UInt8) : Prop where
  | noText (htext : decodeUtf8? bytes = none)
  | noNumeral {text : List Char} (htext : decodeUtf8? bytes = some text)
      (hnumeral : Numeral.ofChars? (trim text) = none)
  | notFinite {text : List Char} {numeral : Numeral} (htext : decodeUtf8? bytes = some text)
      (hnumeral : Numeral.ofChars? (trim text) = some numeral) (hfinite : ∀ ratio, numeral ≠ .finite ratio)
  | outside {text : List Char} {ratio : Decimal} (htext : decodeUtf8? bytes = some text)
      (hnumeral : Numeral.ofChars? (trim text) = some (.finite ratio)) (hvalue : ratio.value < 0 ∨ 1 < ratio.value)

variable {bytes : List UInt8} {ratio : Decimal}

theorem ofBytes_eq_ok_iff : ofBytes bytes = .ok ratio ↔ Spells bytes ratio := by
  rw [ofBytes, Spells]
  cases decodeUtf8? bytes with
  | none => simp
  | some text =>
      simp only [Option.some.injEq, exists_eq_left', ← Numeral.bind_inUnit?_eq_some_iff]
      cases (Numeral.ofChars? (trim text)).bind Numeral.inUnit? <;> simp

/-- A content either spells a ratio or is corrupt, and never both. -/
theorem isCorrupt_iff : IsCorrupt bytes ↔ ∀ ratio, ¬Spells bytes ratio := by
  constructor
  · rintro h ratio ⟨text, htext, hnumeral, hleast, hmost⟩
    rcases h with hnone | ⟨hother, hnone⟩ | ⟨hother, hfound, hfinite⟩ | ⟨hother, hfound, hvalue⟩
    · rw [hnone] at htext
      cases htext
    · rw [Option.some.inj (hother.symm.trans htext), hnumeral] at hnone
      cases hnone
    · rw [Option.some.inj (hother.symm.trans htext), hnumeral] at hfound
      exact hfinite ratio (Option.some.inj hfound).symm
    · rw [Option.some.inj (hother.symm.trans htext), hnumeral] at hfound
      cases hfound
      rcases hvalue with hnegative | hgreat
      · exact absurd hleast (not_le.mpr hnegative)
      · exact absurd hmost (not_le.mpr hgreat)
  · intro h
    cases htext : decodeUtf8? bytes with
    | none => exact .noText htext
    | some text =>
        cases hnumeral : Numeral.ofChars? (trim text) with
        | none => exact .noNumeral htext hnumeral
        | some numeral =>
            by_cases hfinite : ∃ ratio, numeral = .finite ratio
            · obtain ⟨ratio, rfl⟩ := hfinite
              refine .outside htext hnumeral ?_
              by_contra hvalue
              rw [not_or, not_lt, not_lt] at hvalue
              exact h ratio ⟨text, htext, hnumeral, hvalue⟩
            · exact .notFinite htext hnumeral (not_exists.mp hfinite)

theorem exists_ofBytes_of_isCorrupt (h : IsCorrupt bytes) : ∃ content, ofBytes bytes = .error content := by
  cases hratio : ofBytes bytes with
  | error content => exact ⟨content, rfl⟩
  | ok ratio => exact absurd (ofBytes_eq_ok_iff.mp hratio) (isCorrupt_iff.mp h ratio)

theorem load_of_content? {disk : Disk} {path : Path} (h : content? disk path = some bytes) :
    load disk path = match ofBytes bytes with
      | .ok ratio => .ok (some ratio)
      | .error content => .error (.corrupt content) := by
  obtain ⟨place, hlocate, hbytes⟩ := content?_eq_some_iff.mp h
  cases hratio : ofBytes bytes <;> simp only [load_of_locate hlocate, hbytes, hratio]

/-- From every file a ratio of the unit interval is loaded, or it is said that its content is corrupt. -/
theorem load_cases_of_content? {disk : Disk} {path : Path} (h : content? disk path = some bytes) :
    (∃ ratio, load disk path = .ok (some ratio) ∧ Spells bytes ratio) ∨
      ∃ content, load disk path = .error (.corrupt content) ∧ IsCorrupt bytes := by
  rw [load_of_content? h]
  cases hratio : ofBytes bytes with
  | ok ratio => exact .inl ⟨ratio, rfl, ofBytes_eq_ok_iff.mp hratio⟩
  | error content =>
      refine .inr ⟨content, rfl, isCorrupt_iff.mpr fun ratio hspells => ?_⟩
      rw [ofBytes_eq_ok_iff.mpr hspells] at hratio
      cases hratio

end Gatekeeper.Baseline
