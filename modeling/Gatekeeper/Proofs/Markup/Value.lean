import Gatekeeper.Proofs.Markup.Writing

/-! The values of attributes are read back. Reading goes from state to state, character by character; a character that
was written as it is adds itself to the value, and one that was written as a reference adds what the reference means. -/

namespace Gatekeeper.Markup

/-- Whether reading some characters leads from one state to another one. -/
def Leads {σ : Type} (step : σ → Char → Option σ) (start : σ) (cs : List Char) (stop : σ) : Prop :=
  cs.foldlM step start = some stop

namespace Leads

variable {σ : Type} {step : σ → Char → Option σ} {start middle stop : σ} {c : Char} {cs ds : List Char}

theorem refl (start : σ) : Leads step start [] start :=
  rfl

theorem cons (h : step start c = some middle) (hrest : Leads step middle cs stop) :
    Leads step start (c :: cs) stop := by
  rw [Leads, List.foldlM_cons, h]
  exact hrest

theorem single (h : step start c = some stop) : Leads step start [c] stop :=
  cons h (refl stop)

theorem append (h : Leads step start cs middle) (hrest : Leads step middle ds stop) :
    Leads step start (cs ++ ds) stop := by
  rw [Leads, List.foldlM_append, show cs.foldlM step start = some middle from h]
  exact hrest

/-- Characters that are only put in front of those read so far end up there in the other order. -/
theorem gather (gathering : List Char → σ) {soFar : List Char}
    (h : ∀ c ∈ cs, ∀ soFar, step (gathering soFar) c = some (gathering (c :: soFar))) :
    Leads step (gathering soFar) cs (gathering (cs.reverse ++ soFar)) := by
  induction cs generalizing soFar with
  | nil => exact refl _
  | cons c rest ih =>
      have hrest := @ih (c :: soFar) fun d hd => h d (List.mem_cons_of_mem c hd)
      rw [List.reverse_cons, List.append_assoc, List.singleton_append]
      exact cons (h c List.mem_cons_self soFar) hrest

theorem map {τ : Type} {step' : τ → Char → Option τ} (f : σ → τ)
    (h : ∀ {state later : σ} {c : Char}, step state c = some later → step' (f state) c = some (f later))
    (hleads : Leads step start cs stop) : Leads step' (f start) cs (f stop) := by
  induction cs generalizing start with
  | nil =>
      cases hleads
      exact refl _
  | cons c rest ih =>
      rw [Leads, List.foldlM_cons] at hleads
      obtain ⟨middle, hmiddle, hrest⟩ := Option.bind_eq_some_iff.mp hleads
      exact cons (h hmiddle) (ih hrest)

end Leads

namespace ValueScan

variable {expand : List Char → Spent → Option (ValueScan × Spent)} {dtd : Dtd} {spent : Spent}

/-- What a reference to a character adds to a value. -/
theorem leads_reference {body : List Char} {c : Char} (h : RefersTo body c) (hbody : ∀ d ∈ body, isInner d = true)
    (out : List Char) (afterReturn : Bool) :
    Leads (step .standard expand dtd) (⟨out, afterReturn, none⟩, spent) ('&' :: (body ++ [';']))
      (⟨c :: out, false, none⟩, spent) := by
  have hopened : step .standard expand dtd (⟨out, afterReturn, none⟩, spent) '&' =
      some (⟨out, false, some []⟩, spent) := by
    simp [step]
  have hgathered : Leads (step .standard expand dtd) (⟨out, false, some []⟩, spent) body
      (⟨out, false, some (body.reverse ++ [])⟩, spent) := by
    refine Leads.gather (fun soFar => ((⟨out, false, some soFar⟩ : ValueScan), spent)) fun d hd soFar => ?_
    simp [step, (of_isInner (hbody d hd)).2.1]
  refine Leads.cons hopened (Leads.append hgathered (Leads.single ?_))
  rcases h with hchar | ⟨name, hname, hpredefined⟩
  · simp [step, hchar, add]
  · simp [step, hname, replace, hpredefined, add]

theorem leads_escape (c : Char) (out : List Char) (afterReturn : Bool) :
    Leads (step .standard expand dtd) (⟨out, afterReturn, none⟩, spent) (escape c)
      (⟨c :: out, false, none⟩, spent) := by
  rcases escape_cases c with ⟨hplain, hescape⟩ | ⟨body, hescape, hrefers, hbody⟩
  · have hspace : (if isSpace c then ' ' else c) = c := by
      by_cases hc : c = ' '
      · rw [hc]
        decide
      · simp [isSpace, hc, hplain.ne_tab, hplain.ne_newline, hplain.ne_return]
    rw [hescape]
    refine Leads.single ?_
    simp [step, add, hplain.ne_angle, hplain.ne_ampersand, hplain.ne_newline, hplain.ne_return, hspace]
  · rw [hescape]
    exact leads_reference hrefers hbody out afterReturn

/-- A text that was written is read back. -/
theorem leads_words (cs : List Char) (out : List Char) :
    Leads (step .standard expand dtd) (⟨out, false, none⟩, spent) (cs.flatMap escape)
      (⟨cs.reverse ++ out, false, none⟩, spent) := by
  induction cs generalizing out with
  | nil => exact Leads.refl _
  | cons c rest ih =>
      rw [List.flatMap_cons, List.reverse_cons, List.append_assoc, List.singleton_append]
      exact Leads.append (leads_escape c out false) (ih (c :: out))

end ValueScan

/-- The value of an attribute is read back, whatever has been declared. -/
theorem attributeValue?_flatMap_escape (limit : Nat) (dtd : Dtd) (cs : List Char) (spent : Spent) :
    attributeValue? limit dtd .standard true (cs.flatMap escape) spent = some (cs, spent) := by
  have hscanned : scanValue limit dtd (dtd.entities.length + 2) .standard [] (cs.flatMap escape) spent =
      some (⟨cs.reverse ++ [], false, none⟩, spent) := by
    rw [scanValue]
    simp only [ValueScan.empty]
    rw [show List.foldlM _ _ _ = _ from ValueScan.leads_words cs []]
    rfl
  rw [attributeValue?, hscanned]
  simp

theorem allDistinct_of_nodup {keys : List (List Char)} (h : keys.Nodup) : allDistinct keys = true := by
  induction keys with
  | nil => rfl
  | cons key rest ih =>
      rw [List.nodup_cons] at h
      rw [allDistinct, ih h.2, Bool.and_true, Bool.not_eq_true', ← Bool.not_eq_true, List.contains_iff_mem]
      exact h.1

/-- An attribute whose name does not begin like that of a binding binds no prefix. -/
theorem boundPrefix?_eq_none {key : List Char} (h : ¬"xmlns".toList <+: key) : boundPrefix? key = none := by
  have hwhole : key ≠ "xmlns".toList := by
    rintro rfl
    exact h List.prefix_rfl
  have hpart : key.take 6 ≠ "xmlns:".toList := by
    intro hpart
    have hlonger : "xmlns".toList <+: "xmlns:".toList := by decide +kernel
    exact h (hlonger.trans (hpart ▸ List.take_prefix 6 key))
  rw [boundPrefix?, if_neg hwhole, if_neg hpart]

theorem Bindings.extend?_eq_some {bindings : Bindings} {attributes : List Attribute}
    (h : ∀ given ∈ attributes, ¬"xmlns".toList <+: given.1) : bindings.extend? attributes = some bindings := by
  induction attributes with
  | nil => rfl
  | cons given rest ih =>
      obtain ⟨key, value⟩ := given
      have hfirst := boundPrefix?_eq_none (h (key, value) List.mem_cons_self)
      have hrest := ih fun other hother => h other (List.mem_cons_of_mem _ hother)
      rw [Bindings.extend?] at hrest ⊢
      rw [List.foldlM_cons]
      dsimp only
      rw [hfirst]
      exact hrest

namespace Attributes

variable (attributes : Attributes)

/-- The attributes as they stand in a start tag. -/
def raws : List (List Char × List Char) :=
  attributes.entries.map fun entry => (entry.1.chars, entry.2.chars.flatMap escape)

theorem map_fst_raws : attributes.raws.map Prod.fst = attributes.entries.map fun entry => entry.1.chars := by
  simp [raws]

theorem map_fst_values : attributes.values.map Prod.fst = attributes.entries.map fun entry => entry.1.chars := by
  simp [values]

/-- No prefix is bound by the attributes of an element. -/
theorem extend?_values (bindings : Bindings) : bindings.extend? attributes.values = some bindings := by
  apply Bindings.extend?_eq_some
  intro given hgiven
  obtain ⟨entry, hentry, rfl⟩ := List.mem_map.mp hgiven
  exact attributes.noBinding entry hentry

/-- Names without prefixes need no bindings. -/
theorem admits_values (bindings : Bindings) (name : Name) : bindings.admits name.chars attributes.values = true := by
  have hnone : ((attributes.values.map Prod.fst).filter fun key =>
      hasPrefix key && (boundPrefix? key).isNone) = [] := by
    rw [List.filter_eq_nil_iff, map_fst_values]
    intro key hkey
    obtain ⟨entry, -, rfl⟩ := List.mem_map.mp hkey
    simp [entry.1.hasPrefix_eq_false]
  rw [Bindings.admits, name.hasPrefix_eq_false]
  simp only [hnone]
  rfl

/-- The values of attributes are read back, if none has been declared. -/
theorem values?_raws {limit : Nat} {dtd : Dtd} {spent : Spent} (hrules : dtd.rules = []) (name : List Char)
    (isClosed : Bool) :
    Reading.values? ⟨.standard, limit⟩ dtd ⟨name, attributes.raws, isClosed⟩ spent =
      some (attributes.values, spent) := by
  have hdata (key : List Char) : dtd.isCharacterData name key = true := by
    rw [Dtd.isCharacterData, Dtd.rule?, hrules]
    rfl
  let give (given : List Attribute × Spent) (raw : Attribute) : Option (List Attribute × Spent) :=
    (attributeValue? limit dtd .standard (dtd.isCharacterData name raw.1) raw.2 given.2).map
      fun found => (given.1 ++ [(raw.1, found.1)], found.2)
  have hgive (done : List Attribute) (entry : Name × Words) :
      give (done, spent) (entry.1.chars, entry.2.chars.flatMap escape) =
        some (done ++ [(entry.1.chars, entry.2.chars)], spent) := by
    simp only [give, hdata, attributeValue?_flatMap_escape, Option.map_some]
  have hall (entries : List (Name × Words)) (done : List Attribute) :
      (entries.map fun entry => (entry.1.chars, entry.2.chars.flatMap escape)).foldlM give (done, spent) =
        some (done ++ entries.map fun entry => (entry.1.chars, entry.2.chars), spent) := by
    induction entries generalizing done with
    | nil => simp
    | cons entry rest ih =>
        rw [List.map_cons, List.foldlM_cons, hgive]
        exact (ih _).trans (by simp)
  exact hall attributes.entries []

end Attributes

end Gatekeeper.Markup
