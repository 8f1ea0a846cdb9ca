import Gatekeeper.Proofs.Markup.Begun
import Gatekeeper.Proofs.Markup.Root

/-! Documents that are cut off. A document that can be read has one place where its root ends; what of it ends before
that place is malformed, wherever the cut may be. -/

namespace Gatekeeper.Markup

/-- Whether the front of a document ends with the last byte of its root. -/
def EndsRoot (whole head : List UInt8) : Prop :=
  ∃ opening content rest before limit depth r,
    Opening.ofBytes whole = .ok opening ∧ whole = head ++ rest ∧ opening.body = content ++ rest ∧
      opening.charset.decode? content = some (before ++ ['>']) ∧
      Reading.readAll limit depth opening.charset.alphabet (Reading.start opening.standalone) before = some r ∧
      r.IsAtRootEnd

variable {whole head cut : List UInt8}

theorem suffix_of_ofBytes {opening : Opening} (h : Opening.ofBytes whole = .ok opening) : opening.body <:+ whole := by
  rcases hsniff : sniff whole with _ | ⟨charset, rest⟩
  · rw [Opening.ofBytes, hsniff] at h
    cases h
  have hrest : rest <:+ whole := suffix_of_sniff hsniff
  by_cases hdeclares : Declares (plainView charset rest)
  · rw [Opening.ofBytes_of_declares hsniff hdeclares] at h
    split at h
    · cases h
    · rw [(Opening.ofDeclaration_eq_ok h).1]
      exact (List.drop_suffix _ _).trans hrest
  · rw [Opening.ofBytes_of_not_declares hsniff hdeclares] at h
    cases h
    exact hrest

theorem tags?_eq_some {opened : Nat} {charset : Charset} {standalone : Bool} {body : List UInt8} {tags : List Tag}
    (h : tags? opened charset standalone body = some tags) :
    ∃ text limit depth r, charset.decode? body = some text ∧
      Reading.readAll limit depth charset.alphabet (Reading.start standalone) text = some r ∧ r.place = .epilogue := by
  rw [tags?] at h
  split at h
  · cases h
  · rename_i text htext
    dsimp only at h
    split at h
    · rename_i r hread
      split at h
      · rename_i haccepted
        have hcomplete := (Bool.and_eq_true_iff.mp haccepted).1
        refine ⟨text, _, _, r, htext, hread, ?_⟩
        unfold Reading.isComplete at hcomplete
        split at hcomplete
        · rename_i hplace _
          exact hplace
        · cases hcomplete
      · cases h
    · cases h

/-- A document that can be read has a root that ends. -/
theorem exists_endsRoot {tags : List Tag} (h : readDocument whole = .ok tags) : ∃ head, EndsRoot whole head := by
  rw [readDocument] at h
  split at h
  · cases h
  rename_i opening hopening
  split at h
  · rename_i tags htags
    obtain ⟨text, limit, depth, r, htext, hread, hplace⟩ := tags?_eq_some htags
    obtain ⟨before, later, middle, rfl, hbefore, hend⟩ := Reading.exists_isAtRootEnd hread hplace
    rw [← List.singleton_append, ← List.append_assoc] at htext
    obtain ⟨content, rest, hbody, hcontent, -⟩ := Charset.exists_of_decode?_eq_append htext
    obtain ⟨lead, hlead⟩ := suffix_of_ofBytes hopening
    refine ⟨lead ++ content, opening, content, rest, before, limit, depth, middle, hopening, ?_, hbody, hcontent,
      hbefore, hend⟩
    rw [← hlead, hbody, List.append_assoc]
  · cases h

/-- The text of a part that ends before the last character is a part of the text before it. -/
theorem exists_of_decode?_append {charset : Charset} {content gap : List UInt8} {before text : List Char}
    (h : charset.decode? (content ++ gap) = some (before ++ ['>'])) (htext : charset.decode? content = some text)
    (hgap : gap ≠ []) : ∃ more, before = text ++ more := by
  rw [Charset.decode?_append htext] at h
  obtain ⟨later, hlater, heq⟩ := Option.map_eq_some_iff.mp h
  rcases List.eq_nil_or_concat later with rfl | ⟨more, c, rfl⟩
  · exact absurd (Charset.eq_nil_of_decode?_eq_nil hlater) hgap
  · rw [List.concat_eq_append, ← List.append_assoc] at heq
    exact ⟨more, (List.append_inj' heq rfl).1.symm⟩

/-- There is one place where the root of a document ends. -/
theorem endsRoot_unique {head' : List UInt8} (h : EndsRoot whole head) (h' : EndsRoot whole head') : head = head' := by
  wlog hle : head.length ≤ head'.length generalizing head head'
  · exact (this h' h (Nat.le_of_not_le hle)).symm
  obtain ⟨opening, content, rest, before, limit, depth, r, hopening, hwhole, hbody, hcontent, hread, hend⟩ := h
  obtain ⟨_, content', rest', before', limit', depth', r', hopening', hwhole', hbody', hcontent', hread', hend'⟩ := h'
  cases hopening.symm.trans hopening'
  have hlengths := congrArg List.length (hwhole.symm.trans hwhole')
  have hlengths' := congrArg List.length (hbody.symm.trans hbody')
  rw [List.length_append, List.length_append] at hlengths hlengths'
  obtain ⟨gap, rfl⟩ : content <+: content' :=
    List.prefix_of_prefix_length_le ⟨rest, hbody.symm⟩ ⟨rest', hbody'.symm⟩ (by omega)
  by_cases hgap : gap = []
  · subst hgap
    rw [List.append_nil] at hbody'
    obtain rfl : rest = rest' := List.append_cancel_left (hbody.symm.trans hbody')
    exact List.append_cancel_right (hwhole.symm.trans hwhole')
  · -- After the first of two ends nothing else could end the root.
    obtain ⟨more, rfl⟩ := exists_of_decode?_append hcontent' hcontent hgap
    rw [List.append_assoc, List.singleton_append] at hread'
    have hplace := Reading.place_of_readAll_rootEnd hread hend hread'
    have hsound := Reading.isSound_of_readAll (Reading.isSound_start _) hread'
    exact absurd hplace (Reading.place_ne_epilogue_of_isAtRootEnd hsound hend')

/-- A document is malformed if no reading of its text has the root behind it. -/
theorem readDocument_of_no_root {opening : Opening} (hopening : Opening.ofBytes whole = .ok opening)
    (hnone : ∀ text limit depth r, opening.charset.decode? opening.body = some text →
      Reading.readAll limit depth opening.charset.alphabet (Reading.start opening.standalone) text = some r →
      r.place ≠ .epilogue) :
    readDocument whole = .error .malformed := by
  have htags (opened : Nat) : tags? opened opening.charset opening.standalone opening.body = none := by
    rcases htags : tags? opened opening.charset opening.standalone opening.body with _ | tags
    · rfl
    obtain ⟨text, limit, depth, r, htext, hread, hplace⟩ := tags?_eq_some htags
    exact absurd hplace (hnone text limit depth r htext hread)
  rw [readDocument, hopening]
  simp only
  rw [htags]

/-- A document that is cut off before its root has ended is malformed. -/
theorem readDocument_of_cut (h : EndsRoot whole head) (hcut : cut <+: head) (hproper : cut ≠ head) :
    readDocument cut = .error .malformed := by
  obtain ⟨opening, content, rest, before, limit, depth, r, hopening, rfl, hbody, hcontent, hread, hend⟩ := h
  obtain ⟨gap, rfl⟩ := hcut
  have hgap : gap ≠ [] := by
    rintro rfl
    exact hproper (List.append_nil cut).symm
  rw [List.append_assoc] at hopening
  rcases Opening.ofBytes_append hopening with hmalformed | ⟨body, hbegun, hrest⟩ | ⟨begun, hbegun, hnone⟩
  · rw [readDocument, hmalformed]
  · rw [hbody, ← List.append_assoc] at hrest
    obtain rfl := List.append_cancel_right hrest
    refine readDocument_of_no_root hbegun fun text limit' depth' r' htext hread' hplace => ?_
    obtain ⟨more, rfl⟩ := exists_of_decode?_append hcontent htext hgap
    have hsound := Reading.isSound_of_readAll (Reading.isSound_start _) hread
    exact Reading.place_ne_epilogue_of_isAtRootEnd hsound hend (Reading.place_of_readAll_append hread' hread hplace)
  · refine readDocument_of_no_root hbegun fun text limit' depth' r' htext hread' hplace => ?_
    obtain ⟨before', later, middle, rfl, -⟩ := Reading.exists_isAtRootEnd hread' hplace
    exact hnone _ htext (List.mem_append_right before' List.mem_cons_self)

end Gatekeeper.Markup
