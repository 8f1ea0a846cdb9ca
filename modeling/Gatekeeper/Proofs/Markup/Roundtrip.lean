import Gatekeeper.Proofs.Markup.Reading
import Gatekeeper.Proofs.Text.Utf8

/-! Whole documents are read back from their bytes. The opening of a document shows the charset, by a declaration or
without one, and what comes after the opening leads to the start tags of the root and of all elements in it. -/

namespace Gatekeeper.Markup

open Text

theorem isAllowed_of_isSpace {c : Char} (h : isSpace c = true) : isAllowed c = true := by
  simp only [isSpace, Bool.or_eq_true, decide_eq_true_eq] at h
  rcases h with ((rfl | rfl) | rfl) | rfl
  all_goals decide

/-- A text that may occur in a document is read back from its bytes. -/
theorem Charset.decode?_flatMap {cs : List Char} (h : ∀ c ∈ cs, isAllowed c = true) :
    Charset.utf8.decode? (cs.flatMap utf8Bytes) = some cs := by
  rw [decode?, pieces, utf8Pieces_flatMap]
  induction cs with
  | nil => rfl
  | cons c rest ih =>
      have hrest := ih fun d hd => h d (List.mem_cons_of_mem c hd)
      rw [List.map_cons, List.mapM_cons, hrest, Option.filter_some, if_pos (h c List.mem_cons_self)]
      rfl

namespace Reading

variable {limit : Nat} {expand : List Char → Reading → Option Reading}

/-- White space before the root says nothing. -/
theorem leads_spaces {cs : List Char} (h : ∀ c ∈ cs, isSpace c = true) (standalone : Bool) :
    Leads (step ⟨.standard, limit⟩ expand) (start standalone) cs (start standalone) := by
  induction cs with
  | nil => exact Leads.refl _
  | cons c rest ih =>
      have hspace : isSpace c = true := h c List.mem_cons_self
      have hangle : c ≠ '<' := by
        rintro rfl
        cases hspace
      refine Leads.cons ?_ (ih fun d hd => h d (List.mem_cons_of_mem c hd))
      simp [step, start, idleStep, hangle, hspace, Reading.rest, turn]

end Reading

/-- A root is read back, also after white space. It declares nothing that could be read in its place. -/
theorem tags?_flatMap (opened : Nat) (style : Style) (element : Element) {spaces : List Char}
    (hspaces : ∀ c ∈ spaces, isSpace c = true) :
    tags? opened .utf8 false ((spaces ++ style.root element).flatMap utf8Bytes) = some element.tags := by
  have hallowed : ∀ c ∈ spaces ++ style.root element, isAllowed c = true := by
    intro c hc
    rcases List.mem_append.mp hc with hc | hc
    · exact isAllowed_of_isSpace (hspaces c hc)
    · exact style.isAllowed_of_mem_root element c hc
  have hread (limit depth : Nat) :
      Reading.readAll limit (depth + 1) .standard (Reading.start false) (spaces ++ style.root element) =
        some { Reading.start false with
          piece := .idle 0, place := .epilogue,
          tags := element.inner.tags.reverse ++ [⟨element.name.chars, element.attributes.values⟩] } := by
    have hready : (Reading.start false).IsReady := ⟨.inr ⟨false, rfl⟩, ⟨0, rfl⟩, rfl, rfl⟩
    exact (Reading.leads_spaces hspaces false).append (Reading.leads_element hready style element.name
      element.attributes fun hinside => Reading.exists_leads_forest hinside style element.inner)
  rw [tags?, Charset.decode?_flatMap hallowed]
  simp only [Charset.alphabet, hread]
  simp [Reading.isComplete, isAffordable, Reading.start, Dtd.empty, Element.tags]

theorem toNat_charOfNat (b : UInt8) : (Char.ofNat b.toNat).toNat = b.toNat := by
  have hb : b.toNat < 256 := b.toNat_lt
  have hvalid : b.toNat.isValidChar := .inl (by omega)
  rw [Char.ofNat, dif_pos hvalid]
  rfl

/-- What stands before the first closing mark is found, if no question mark is in it. -/
theorem untilClosing_append {inner : List Char} (h : '?' ∉ inner) (after : List Char) :
    untilClosing (inner ++ '?' :: '>' :: after) = some (inner, after) := by
  induction inner with
  | nil => rfl
  | cons c rest ih =>
      rw [List.mem_cons, not_or] at h
      rw [List.cons_append, untilClosing, ih h.2]
      · rfl
      · exact fun _ hc => absurd hc.symm h.1

namespace Opening

/-- A document that begins with a tag has no declaration. -/
theorem ofBytes_of_ne {b : UInt8} (hzero : b.toNat ≠ 0) (hasked : b.toNat ≠ 0x3F) (after : List UInt8) :
    ofBytes (0x3C :: b :: after) = .ok ⟨.utf8, false, 0x3C :: b :: after⟩ := by
  have hsniff : sniff (0x3C :: b :: after) = some (.utf8, 0x3C :: b :: after) := by
    have hb : b ≠ 0 := by
      rintro rfl
      exact hzero rfl
    rw [sniff] <;> simp [hb]
  have hview : (plainView .utf8 (0x3C :: b :: after)).take 5 ≠ "<?xml".toList := by
    intro hview
    have hsecond : Char.ofNat b.toNat = '?' := by
      have hget := congrArg (fun cs => cs[1]?) hview
      simpa [plainView] using hget
    have hnat := toNat_charOfNat b
    rw [hsecond] at hnat
    exact hasked hnat.symm
  rw [ofBytes, hsniff]
  simp only [hview, ne_eq, not_false_eq_true, decide_true, Bool.true_or, if_true]

theorem ofBytes_root (style : Style) (element : Element) :
    ofBytes ((style.root element).flatMap utf8Bytes) =
      .ok ⟨.utf8, false, (style.root element).flatMap utf8Bytes⟩ := by
  obtain ⟨first, rest, hchars, hfirst, -⟩ := element.name.exists_eq_cons
  obtain ⟨b, more, hbytes, hb⟩ := exists_utf8Bytes_eq_cons first
  obtain ⟨after, hroot⟩ : ∃ after, style.root element = '<' :: first :: after := by
    rw [Style.root, Style.element, hchars]
    exact ⟨_, rfl⟩
  have hne (n : Nat) (hn : isNameStart .standard (Char.ofNat n) = false) (hlow : n < 0x80) : b.toNat ≠ n := by
    rintro rfl
    rcases hb with heq | hhigh
    · rw [heq, Char.ofNat_toNat, hfirst] at hn
      cases hn
    · omega
  rw [hroot, List.flatMap_cons, List.flatMap_cons, hbytes]
  exact ofBytes_of_ne (hne 0 (by decide) (by decide)) (hne 0x3F (by decide) (by decide)) _

/-- The declaration that is written says that the charset is UTF-8. -/
theorem ofBytes_declared (body : List Char) :
    ofBytes (("<?xml".toList ++ Style.declared ++ '?' :: '>' :: body).flatMap utf8Bytes) =
      .ok ⟨.utf8, false, body.flatMap utf8Bytes⟩ := by
  -- Only the opening is evaluated, whatever follows it.
  let opening := "<?xml".toList ++ Style.declared ++ ['?', '>']
  let shown := (body.flatMap utf8Bytes).map fun b => Char.ofNat b.toNat
  have hbytes : ("<?xml".toList ++ Style.declared ++ '?' :: '>' :: body).flatMap utf8Bytes =
      opening.flatMap utf8Bytes ++ body.flatMap utf8Bytes := by
    rw [← List.flatMap_append]
    simp [opening]
  have hsniff : sniff (opening.flatMap utf8Bytes ++ body.flatMap utf8Bytes) =
      some (.utf8, opening.flatMap utf8Bytes ++ body.flatMap utf8Bytes) := by
    have hfirst : opening.flatMap utf8Bytes = 0x3C :: 0x3F :: (opening.flatMap utf8Bytes).drop 2 := by decide +kernel
    rw [hfirst]
    rfl
  have hview : plainView .utf8 (opening.flatMap utf8Bytes ++ body.flatMap utf8Bytes) =
      "<?xml".toList ++ (Style.declared ++ '?' :: '>' :: shown) := by
    have hopening : (opening.flatMap utf8Bytes).map (fun b => Char.ofNat b.toNat) = opening := by decide +kernel
    rw [plainView, List.map_append, hopening]
    · simp [opening, shown]
    · nofun
  have htake : ("<?xml".toList ++ (Style.declared ++ '?' :: '>' :: shown)).take 5 = "<?xml".toList :=
    List.take_left' (by decide +kernel)
  have hdrop : ("<?xml".toList ++ (Style.declared ++ '?' :: '>' :: shown)).drop 5 =
      Style.declared ++ '?' :: '>' :: shown :=
    List.drop_left' (by decide +kernel)
  have hspace : (Style.declared ++ '?' :: '>' :: shown).head?.any isSpace = true := by
    have hdeclared : Style.declared = ' ' :: Style.declared.drop 1 := by decide +kernel
    rw [hdeclared]
    rfl
  have hclosing : untilClosing (Style.declared ++ '?' :: '>' :: shown) = some (Style.declared, shown) :=
    untilClosing_append (by decide +kernel) shown
  have hdeclaration : declaration? Style.declared = some (some "UTF-8".toList, false) := by decide +kernel
  have hcharset : Charset.utf8.declared (String.ofList "UTF-8".toList) = .ok (some .utf8) := by decide +kernel
  have hbody : (opening.flatMap utf8Bytes ++ body.flatMap utf8Bytes).drop
      ((5 + Style.declared.length + 2) * unitSize .utf8) = body.flatMap utf8Bytes :=
    List.drop_left' (by decide +kernel)
  rw [hbytes, ofBytes, hsniff]
  simp only [hview, htake, hdrop, hspace, hclosing, hdeclaration, hcharset, hbody]
  simp

end Opening

/-- A document is read back: the start tags in it are those of its root and of all elements in the root. -/
theorem readDocument_document (style : Style) (element : Element) :
    readDocument ((style.document element).flatMap utf8Bytes) = .ok element.tags := by
  rw [Style.document]
  split
  · have hopening := Opening.ofBytes_declared ('\n' :: style.root element)
    have htags opened := tags?_flatMap opened style element (List.forall_mem_singleton.mpr (by decide : isSpace '\n' = true))
    rw [readDocument, hopening]
    simp only
    rw [show '\n' :: style.root element = ['\n'] ++ style.root element from rfl, htags]
  · have htags opened := tags?_flatMap opened style element fun _ h => absurd h List.not_mem_nil
    simp only [List.nil_append] at htags
    rw [readDocument, Opening.ofBytes_root]
    simp only
    rw [htags]

end Gatekeeper.Markup
