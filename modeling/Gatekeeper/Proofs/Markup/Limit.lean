import Mathlib
import Gatekeeper.Markup.Document

/-! The bound on replaced text. A document that can be read within a bound is read in the same way within any larger
one, so that how far a text can be read says nothing about the state that is reached in it. -/

namespace Gatekeeper.Markup

/-- Whether a second function gives all that a first one gives. -/
def Within {α β γ : Type} (f g : α → β → Option γ) : Prop :=
  ∀ a b c, f a b = some c → g a b = some c

variable {limit limit' : Nat} {alphabet : Alphabet}

theorem Within.foldlM {σ α : Type} {f g : σ → α → Option σ} (h : Within f g) {xs : List α} {start stop : σ}
    (hfold : xs.foldlM f start = some stop) : xs.foldlM g start = some stop := by
  induction xs generalizing start with
  | nil => exact hfold
  | cons x rest ih =>
      rw [List.foldlM_cons] at hfold ⊢
      obtain ⟨middle, hfirst, hrest⟩ := Option.bind_eq_some_iff.mp hfold
      exact Option.bind_eq_some_iff.mpr ⟨middle, h _ _ _ hfirst, ih hrest⟩

namespace ValueScan

variable {expand expand' : List Char → Spent → Option (ValueScan × Spent)} {dtd : Dtd}

theorem replace_of_within (h : Within expand expand') {scan : ValueScan} {spent : Spent} {name : List Char}
    {after : ValueScan × Spent} (hreplace : replace expand dtd scan spent name = some after) :
    replace expand' dtd scan spent name = some after := by
  unfold replace at hreplace ⊢
  cases hpredefined : predefined? name with
  | some c => simpa only [hpredefined] using hreplace
  | none =>
      rcases hentity : dtd.entities.lookup name with _ | ⟨text⟩ | _ | _
      · simpa only [hpredefined, hentity] using hreplace
      · simp only [hpredefined, hentity, Option.map_eq_some_iff] at hreplace ⊢
        obtain ⟨read, hread, hafter⟩ := hreplace
        exact ⟨read, h _ _ _ hread, hafter⟩
      · simpa only [hpredefined, hentity] using hreplace
      · simpa only [hpredefined, hentity] using hreplace

theorem step_within (h : Within expand expand') :
    Within (step alphabet expand dtd) (step alphabet expand' dtd) := by
  rintro ⟨scan, spent⟩ c after hstep
  unfold step at hstep ⊢
  cases hreference : scan.reference? with
  | none => simpa only [hreference] using hstep
  | some soFar =>
      simp only [hreference] at hstep ⊢
      split at hstep
      · rename_i hend
        rw [if_pos hend]
        -- Only a reference to an entity looks at the function that replaces it.
        rcases hchars : Reference.ofChars? alphabet soFar.reverse with _ | ⟨_ | name⟩
        · simpa only [hchars] using hstep
        · simpa only [hchars] using hstep
        · simp only [hchars] at hstep ⊢
          exact replace_of_within h hstep
      · rename_i hend
        rwa [if_neg hend]

end ValueScan

/-- What replaces a reference to an entity in a value. -/
def entityValue? (limit : Nat) (dtd : Dtd) (depth : Nat) (opened : List (List Char)) (name : List Char)
    (spent : Spent) : Option (ValueScan × Spent) :=
  match dtd.entities.lookup name with
  | some (.internal inner) =>
    if opened.contains name || limit < spent + inner.length then none
    else scanValue limit dtd depth .standard (name :: opened) inner (spent + inner.length)
  | _ => none

theorem scanValue_succ (limit : Nat) (dtd : Dtd) (depth : Nat) (alphabet : Alphabet) (opened : List (List Char))
    (text : List Char) (spent : Spent) :
    scanValue limit dtd (depth + 1) alphabet opened text spent =
      match text.foldlM (ValueScan.step alphabet (entityValue? limit dtd depth opened) dtd)
        (ValueScan.empty, spent) with
      | some (scan, spent) => if scan.reference?.isSome then none else some (scan, spent)
      | none => none :=
  rfl

theorem entityValue?_within {dtd : Dtd} {depth : Nat} (hlimit : limit ≤ limit')
    (h : ∀ alphabet opened,
      Within (scanValue limit dtd depth alphabet opened) (scanValue limit' dtd depth alphabet opened))
    (opened : List (List Char)) :
    Within (entityValue? limit dtd depth opened) (entityValue? limit' dtd depth opened) := by
  intro name spent after hvalue
  unfold entityValue? at hvalue ⊢
  split at hvalue
  · rename_i inner hentity
    split at hvalue
    · cases hvalue
    · rename_i hroom
      rw [if_neg]
      · exact h _ _ _ _ _ hvalue
      · simp only [Bool.or_eq_true, decide_eq_true_eq, not_or, Nat.not_lt] at hroom ⊢
        exact ⟨hroom.1, hroom.2.trans hlimit⟩
  · cases hvalue

theorem scanValue_within (hlimit : limit ≤ limit') (dtd : Dtd) (depth : Nat) (alphabet : Alphabet)
    (opened : List (List Char)) :
    Within (scanValue limit dtd depth alphabet opened) (scanValue limit' dtd depth alphabet opened) := by
  induction depth generalizing alphabet opened with
  | zero =>
      intro text spent after hscan
      cases hscan
  | succ depth ih =>
      intro text spent after hscan
      rw [scanValue_succ] at hscan ⊢
      split at hscan
      · rename_i scan later hfold
        rw [Within.foldlM (ValueScan.step_within (entityValue?_within hlimit ih opened)) hfold]
        exact hscan
      · cases hscan

theorem attributeValue?_of_le (hlimit : limit ≤ limit') {dtd : Dtd} {isCharacterData : Bool} {raw : List Char}
    {spent : Spent} {value : List Char × Spent}
    (h : attributeValue? limit dtd alphabet isCharacterData raw spent = some value) :
    attributeValue? limit' dtd alphabet isCharacterData raw spent = some value := by
  unfold attributeValue? at h ⊢
  split at h
  · rename_i scan later hscan
    rw [scanValue_within hlimit _ _ _ _ _ _ _ hscan]
    exact h
  · cases h

theorem declareDefault?_of_le (hlimit : limit ≤ limit') {declared after : Declared} {element key raw : List Char}
    {isCharacterData : Bool}
    (h : Dtd.declareDefault? limit alphabet declared element key isCharacterData raw = some after) :
    Dtd.declareDefault? limit' alphabet declared element key isCharacterData raw = some after := by
  simp only [Dtd.declareDefault?] at h ⊢
  split at h
  · rename_i hpasses
    rwa [if_pos hpasses]
  · rename_i hpasses
    rw [if_neg hpasses]
    obtain ⟨value, hvalue, hafter⟩ := Option.map_eq_some_iff.mp h
    exact Option.map_eq_some_iff.mpr ⟨value, attributeValue?_of_le hlimit hvalue, hafter⟩

/-- Among the declarations only the defaults of attributes have texts that are replaced. -/
theorem Stage.next?_of_le (hlimit : limit ≤ limit') {declared : Declared} {stage : Stage} {symbol : Symbol}
    {after : Stage × Declared} (h : stage.next? limit alphabet declared symbol = some after) :
    stage.next? limit' alphabet declared symbol = some after := by
  obtain ⟨dtd, spent⟩ := declared
  unfold Stage.next? at h ⊢
  simp only at h ⊢
  split at h
  case h_6 =>
    obtain ⟨later, hlater, hafter⟩ := Option.map_eq_some_iff.mp h
    exact Option.map_eq_some_iff.mpr ⟨later, declareDefault?_of_le hlimit hlater, hafter⟩
  case h_7 =>
    obtain ⟨later, hlater, hafter⟩ := Option.map_eq_some_iff.mp h
    exact Option.map_eq_some_iff.mpr ⟨later, declareDefault?_of_le hlimit hlater, hafter⟩
  all_goals exact h

namespace Reading

variable {expand expand' : List Char → Reading → Option Reading} {r after : Reading}

theorem values?_of_le (hlimit : limit ≤ limit') {dtd : Dtd} {tag : RawTag} {spent : Spent}
    {values : List Attribute × Spent} (h : values? ⟨alphabet, limit⟩ dtd tag spent = some values) :
    values? ⟨alphabet, limit'⟩ dtd tag spent = some values := by
  unfold values? at h ⊢
  refine Within.foldlM ?_ h
  rintro ⟨done, spent⟩ ⟨key, raw⟩ later hlater
  obtain ⟨value, hvalue, rfl⟩ := Option.map_eq_some_iff.mp hlater
  exact Option.map_eq_some_iff.mpr ⟨value, attributeValue?_of_le hlimit hvalue, rfl⟩

theorem openElement_of_le (hlimit : limit ≤ limit') {raw : RawTag}
    (h : r.openElement ⟨alphabet, limit⟩ raw = some after) : r.openElement ⟨alphabet, limit'⟩ raw = some after := by
  unfold openElement at h ⊢
  split at h
  · cases h
  · rename_i hdistinct
    rw [if_neg hdistinct]
    split at h
    · cases h
    · rename_i given spent hvalues
      rw [values?_of_le hlimit hvalues]
      exact h

theorem symbolStep_within (hlimit : limit ≤ limit') :
    Within (symbolStep ⟨alphabet, limit⟩) (symbolStep ⟨alphabet, limit'⟩) := by
  intro r symbol after h
  unfold symbolStep at h ⊢
  split at h
  · rename_i stage hplace
    rcases hnext : stage.next? limit alphabet (r.dtd, r.spent) symbol with _ | next
    · simp only [hnext] at h
      cases h
    · simp only [hnext, Stage.next?_of_le hlimit hnext] at h ⊢
      exact h
  · cases h

theorem referenceEnd_of_within (h : Within expand expand') {soFar : List Char}
    (hend : referenceEnd ⟨alphabet, limit⟩ expand r soFar = some after) :
    referenceEnd ⟨alphabet, limit'⟩ expand' r soFar = some after := by
  unfold referenceEnd at hend ⊢
  cases hplace : r.place with
  | content =>
      rcases hreference : Reference.ofChars? alphabet soFar.reverse with _ | ⟨_ | name⟩
      · simpa only [hplace, hreference] using hend
      · simpa only [hplace, hreference] using hend
      · simp only [hplace, hreference] at hend ⊢
        by_cases hpredefined : (predefined? name).isSome = true
        · rwa [if_pos hpredefined] at hend ⊢
        · rw [if_neg hpredefined] at hend ⊢
          exact h _ _ _ hend
  | _ =>
      rcases hreference : Reference.ofChars? alphabet soFar.reverse with _ | ⟨_ | _⟩
      all_goals simpa only [hplace, hreference] using hend

/-- Only tags, references and declarations have texts that are replaced. -/
theorem step_within (hlimit : limit ≤ limit') (h : Within expand expand') :
    Within (step ⟨alphabet, limit⟩ expand) (step ⟨alphabet, limit'⟩ expand') := by
  intro r c after hstep
  unfold step at hstep ⊢
  cases hpiece : r.piece with
  | tag scan =>
      simp only [hpiece] at hstep ⊢
      rcases hscan : scan.step alphabet c with _ | ⟨later⟩ | ⟨raw⟩
      · simp only [hscan] at hstep
        cases hstep
      · simpa only [hscan] using hstep
      · simp only [hscan] at hstep ⊢
        exact openElement_of_le hlimit hstep
  | reference soFar =>
      simp only [hpiece] at hstep ⊢
      split at hstep
      · rename_i hc
        rw [if_pos hc]
        exact referenceEnd_of_within h hstep
      · rename_i hc
        rwa [if_neg hc]
  | declaration scan =>
      simp only [hpiece, declarationStep] at hstep ⊢
      rcases hscan : scan.step alphabet c with _ | ⟨symbols, later⟩
      · simp only [hscan] at hstep
        cases hstep
      · simp only [hscan] at hstep ⊢
        exact Within.foldlM (symbolStep_within hlimit) hstep
  | _ =>
      simp only [hpiece] at hstep ⊢
      exact hstep

theorem expandWith_within {readText readText' : Reading → List Char → Option Reading} (hlimit : limit ≤ limit')
    (h : Within readText readText') :
    Within (expandWith ⟨alphabet, limit⟩ readText) (expandWith ⟨alphabet, limit'⟩ readText') := by
  intro name r after hexpand
  unfold expandWith at hexpand ⊢
  split at hexpand
  · rename_i text hentity
    simp only at hexpand ⊢
    split at hexpand
    · cases hexpand
    · rename_i hroom
      rw [if_neg]
      · split at hexpand
        · cases hexpand
        · rename_i read hread
          rw [h _ _ _ hread]
          exact hexpand
      · simp only [Bool.or_eq_true, decide_eq_true_eq, not_or, Nat.not_lt] at hroom ⊢
        exact ⟨hroom.1, hroom.2.trans hlimit⟩
  · cases hexpand

/-- What can be read within a bound and a depth is read in the same way within larger ones. -/
theorem readAll_within (hlimit : limit ≤ limit') {depth depth' : Nat} (hdepth : depth ≤ depth')
    (alphabet : Alphabet) : Within (readAll limit depth alphabet) (readAll limit' depth' alphabet) := by
  induction depth generalizing depth' alphabet with
  | zero =>
      intro r text after hread
      cases hread
  | succ depth ih =>
      obtain ⟨deeper, rfl⟩ := Nat.exists_eq_add_of_lt hdepth
      intro r text after hread
      have hexpand := ih (show depth ≤ depth + deeper by omega) .standard
      exact Within.foldlM (step_within hlimit (expandWith_within hlimit hexpand)) hread

/-- Two readings of a text from the same state come to the same state, whatever room they have. -/
theorem readAll_unique {depth depth' : Nat} {text : List Char} {other : Reading}
    (h : readAll limit depth alphabet r text = some after)
    (hother : readAll limit' depth' alphabet r text = some other) : after = other := by
  have hmost := readAll_within (le_max_left limit limit') (le_max_left depth depth') alphabet _ _ _ h
  have hmost' := readAll_within (le_max_right limit limit') (le_max_right depth depth') alphabet _ _ _ hother
  exact Option.some.inj (hmost.symm.trans hmost')

end Reading

end Gatekeeper.Markup
