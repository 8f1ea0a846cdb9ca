import Gatekeeper.Proofs.Markup.Value

/-! Documents are read back. Reading what was written of an element leads from the state before it to the state after
it, with its start tag and those of the elements in it read in the order of the document. -/

namespace Gatekeeper.Markup

namespace TagScan

/-- Reads one character of a tag that goes on. -/
def more? (scan : TagScan) (c : Char) : Option TagScan :=
  match scan.step .standard c with
  | some (.more later) => some later
  | _ => none

/-- Whether what was read so far of a tag is complete, so that more may follow or the tag may end. -/
def IsAt (scan : TagScan) (tag : RawTag) : Prop :=
  ∀ c, isNamePart .standard c = false → scan.step .standard c = boundary? tag c

variable {scan : TagScan} {tag : RawTag}

theorem isNamePart_of_isNameChar {c : Char} (h : isNameChar .standard c = true) : isNamePart .standard c = true := by
  rw [isNamePart, h, Bool.or_true]

theorem ended?_reverse (name : Name) : ended? .standard name.chars.reverse = some name.chars := by
  have hspan : name.chars.span (fun c => decide (c ≠ ':')) = (name.chars, []) := by
    have hall : ∀ c ∈ name.chars, decide (c ≠ ':') = true :=
      fun c hc => decide_eq_true (name.ne_of_mem hc (by decide))
    rw [List.span_eq_takeWhile_dropWhile, List.takeWhile_eq_self_iff.mpr hall, List.dropWhile_eq_nil_iff.mpr hall]
  have hqualified : isQualifiedName .standard name.chars = true := by
    rw [isQualifiedName, hspan]
    exact name.wellFormed
  rw [ended?, List.reverse_reverse, if_pos hqualified]

theorem isAt_name (name : Name) : IsAt (.name name.chars.reverse) ⟨name.chars, [], false⟩ := by
  intro c hc
  rw [step, hc, ended?_reverse]
  rfl

theorem isAt_afterText (tag : RawTag) : IsAt (.afterText tag) tag :=
  fun _ _ => rfl

/-- A complete tag may end. -/
theorem step_closing (h : scan.IsAt tag) : scan.step .standard '>' = some (finish tag false) := by
  rw [h '>' (by decide)]
  rfl

theorem more?_slash (h : scan.IsAt tag) : more? scan '/' = some (.slash tag) := by
  rw [more?, h '/' (by decide)]
  rfl

/-- Reading an attribute adds it to the tag. -/
theorem leads_attribute (style : Style) (hscan : IsAt scan tag) (name : Name) {raw : List Char}
    (hraw : ∀ c ∈ raw, c ≠ style.quote) :
    Leads more? scan (' ' :: (name.chars ++ '=' :: style.quote :: (raw ++ [style.quote])))
      (.afterText (addAttribute tag name.chars raw)) := by
  have hgap : more? scan ' ' = some (.gap tag) := by
    rw [more?, hscan ' ' (by decide)]
    rfl
  have hkey : Leads more? (.gap tag) name.chars (.key tag name.chars.reverse) := by
    obtain ⟨first, rest, hchars, hfirst, hrest⟩ := name.exists_eq_cons
    rw [hchars, List.reverse_cons]
    refine Leads.cons ?_ (Leads.gather (fun soFar => key tag soFar) fun c hc soFar => ?_)
    · rw [more?, step, if_pos hfirst]
    · rw [more?, step, if_pos (isNamePart_of_isNameChar (hrest c hc))]
  have hsign : more? (.key tag name.chars.reverse) '=' = some (.mark tag name.chars) := by
    rw [more?, step, if_neg (by decide), ended?_reverse]
    rfl
  have hmark : more? (.mark tag name.chars) style.quote = some (.text tag name.chars style.quote []) := by
    rcases style.isQuote with hquote | hquote <;> rw [hquote] <;> rfl
  have htext : Leads more? (.text tag name.chars style.quote []) raw
      (.text tag name.chars style.quote (raw.reverse ++ [])) := by
    refine Leads.gather (fun soFar => text tag name.chars style.quote soFar) fun c hc soFar => ?_
    rw [more?, step, if_neg (hraw c hc)]
  have hclosed : more? (.text tag name.chars style.quote (raw.reverse ++ [])) style.quote =
      some (.afterText (addAttribute tag name.chars raw)) := by
    rw [more?, step, if_pos rfl, List.append_nil, List.reverse_reverse]
  refine Leads.cons hgap (Leads.append hkey ?_)
  exact Leads.cons hsign (Leads.cons hmark (Leads.append htext (Leads.single hclosed)))

/-- Reading attributes adds them to the tag. -/
theorem exists_leads_attributes (style : Style) (hscan : IsAt scan tag) (entries : List (Name × Words)) :
    ∃ later,
      Leads more? scan (entries.flatMap fun entry =>
        ' ' :: (entry.1.chars ++ '=' :: style.quote :: (entry.2.chars.flatMap escape ++ [style.quote]))) later ∧
      IsAt later { tag with
        attributes := (entries.map fun entry => (entry.1.chars, entry.2.chars.flatMap escape)).reverse ++
          tag.attributes } := by
  induction entries generalizing scan tag with
  | nil => exact ⟨scan, Leads.refl scan, hscan⟩
  | cons entry rest ih =>
      have hraw : ∀ c ∈ entry.2.chars.flatMap escape, c ≠ style.quote := by
        intro c hc
        obtain ⟨d, -, hc⟩ := List.mem_flatMap.mp hc
        exact ne_quote_of_mem_escape style hc
      obtain ⟨later, hleads, hat⟩ := ih (isAt_afterText (addAttribute tag entry.1.chars (entry.2.chars.flatMap escape)))
      refine ⟨later, Leads.append (leads_attribute style hscan entry.1 hraw) hleads, ?_⟩
      simpa [addAttribute] using hat

end TagScan

namespace Reading

variable {limit : Nat} {expand : List Char → Reading → Option Reading} {r : Reading}

/-- Whether an element may begin: the reader is between tags in a text of the document itself, before the root or in it,
and no attributes have been declared. -/
structure IsReady (r : Reading) : Prop where
  place : r.place = .content ∨ ∃ hasDoctype, r.place = .prologue hasDoctype
  piece : ∃ brackets, r.piece = .idle brackets
  rules : r.dtd.rules = []
  floor : r.floor = 0

/-- Whether a reader is inside an element, between tags. -/
structure IsInside (r : Reading) : Prop extends IsReady r where
  content : r.place = .content
  elements : r.elements ≠ []

/-- The state after a start tag. -/
def afterTag (r : Reading) (name : Name) (attributes : Attributes) (isClosed : Bool) : Reading :=
  if isClosed then
    { r with
      piece := .idle 0, place := if r.elements.isEmpty then .epilogue else .content,
      tags := ⟨name.chars, attributes.values⟩ :: r.tags }
  else
    { r with
      piece := .idle 0, place := .content, elements := ⟨name.chars, r.bindings⟩ :: r.elements,
      tags := ⟨name.chars, attributes.values⟩ :: r.tags }

theorem openElement_raws (hrules : r.dtd.rules = []) (name : Name) (attributes : Attributes) (isClosed : Bool) :
    r.openElement ⟨.standard, limit⟩ ⟨name.chars, attributes.raws, isClosed⟩ =
      some (r.afterTag name attributes isClosed) := by
  have hdistinct : allDistinct (attributes.raws.map Prod.fst) = true := by
    rw [attributes.map_fst_raws]
    exact allDistinct_of_nodup attributes.distinct
  have hdefaults : defaults r.dtd ⟨name.chars, attributes.raws, isClosed⟩ = [] := by
    rw [defaults, hrules]
    rfl
  rw [openElement, hdistinct, attributes.values?_raws hrules, hdefaults]
  simp only [List.append_nil, attributes.extend?_values, attributes.admits_values, afterTag, Bool.not_true,
    Bool.false_eq_true, if_false]
  split <;> rfl

/-- Outside of a document type an angle bracket and the beginning of a name begin a start tag. -/
theorem leads_opened (h : r.IsReady) {first : Char} (hfirst : isNameStart .standard first = true) :
    Leads (step ⟨.standard, limit⟩ expand) r ['<', first] { r with piece := .tag (.name [first]) } := by
  have hname : isNameChar .standard first = true := isNameChar_of_isNameStart hfirst
  have hexclaimed : first ≠ '!' := ne_of_isNameChar hname (by decide)
  have hasked : first ≠ '?' := ne_of_isNameChar hname (by decide)
  have hslash : first ≠ '/' := ne_of_isNameChar hname (by decide)
  obtain ⟨brackets, hpiece⟩ := h.piece
  refine Leads.cons (by rw [step, hpiece]; rfl) (Leads.single ?_)
  rcases h.place with hplace | ⟨hasDoctype, hplace⟩
  · simp [step, openedStep, hplace, hexclaimed, hasked, hslash, hfirst, turn]
  · simp [step, openedStep, hplace, hexclaimed, hasked, hfirst, turn]

/-- What is read of a tag that goes on changes nothing else. -/
theorem leads_tag {scan later : TagScan} {cs : List Char} (h : Leads TagScan.more? scan cs later) :
    Leads (step ⟨.standard, limit⟩ expand) { r with piece := .tag scan } cs { r with piece := .tag later } := by
  refine Leads.map (fun scan => { r with piece := .tag scan }) (fun {scan later c} hstep => ?_) h
  rw [TagScan.more?] at hstep
  split at hstep
  · rename_i hmore
    cases hstep
    simp [step, hmore, turn]
  · cases hstep

theorem step_tag_of_complete {scan : TagScan} {c : Char} {name : Name} {attributes : Attributes} {isClosed : Bool}
    (hrules : r.dtd.rules = [])
    (h : scan.step .standard c = some (.complete ⟨name.chars, attributes.raws, isClosed⟩)) :
    step ⟨.standard, limit⟩ expand { r with piece := .tag scan } c = some (r.afterTag name attributes isClosed) := by
  simp only [step, h]
  refine (openElement_raws (r := { r with piece := .tag scan }) hrules name attributes isClosed).trans ?_
  cases isClosed <;> rfl

/-- A tag ends with an angle bracket, before which a slash may stand. -/
theorem leads_tagEnd {scan : TagScan} {name : Name} {attributes : Attributes} (hrules : r.dtd.rules = [])
    (hscan : scan.IsAt ⟨name.chars, attributes.raws.reverse, false⟩) (isClosed : Bool) :
    Leads (step ⟨.standard, limit⟩ expand) { r with piece := .tag scan } (if isClosed then ['/', '>'] else ['>'])
      (r.afterTag name attributes isClosed) := by
  have hfinish (isClosed : Bool) : TagScan.finish ⟨name.chars, attributes.raws.reverse, false⟩ isClosed =
      .complete ⟨name.chars, attributes.raws, isClosed⟩ := by
    rw [TagScan.finish, List.reverse_reverse]
  cases isClosed with
  | false =>
      refine Leads.single (step_tag_of_complete hrules ?_)
      rw [TagScan.step_closing hscan, hfinish]
  | true =>
      refine Leads.append (leads_tag (Leads.single (TagScan.more?_slash hscan)))
        (Leads.single (step_tag_of_complete hrules ?_))
      rw [← hfinish true]
      rfl

/-- Reading a start tag adds it to those read before. -/
theorem leads_startTag (h : r.IsReady) (style : Style) (name : Name) (attributes : Attributes) (isClosed : Bool) :
    Leads (step ⟨.standard, limit⟩ expand) r
      ('<' :: (name.chars ++ (style.attributes attributes ++ if isClosed then ['/', '>'] else ['>'])))
      (r.afterTag name attributes isClosed) := by
  obtain ⟨first, rest, hchars, hfirst, hrest⟩ := name.exists_eq_cons
  have hname : Leads TagScan.more? (.name [first]) rest (.name name.chars.reverse) := by
    rw [hchars, List.reverse_cons]
    refine Leads.gather (fun soFar => TagScan.name soFar) fun c hc soFar => ?_
    rw [TagScan.more?, TagScan.step, if_pos (TagScan.isNamePart_of_isNameChar (hrest c hc))]
  obtain ⟨later, hattributes, hat⟩ :=
    TagScan.exists_leads_attributes style (TagScan.isAt_name name) attributes.entries
  rw [List.append_nil] at hat
  have hopened : Leads (step ⟨.standard, limit⟩ expand) r ['<', first] { r with piece := .tag (.name [first]) } :=
    leads_opened h hfirst
  have hscanned : Leads (step ⟨.standard, limit⟩ expand) { r with piece := .tag (.name [first]) }
      (rest ++ style.attributes attributes) { r with piece := .tag later } :=
    (leads_tag hname).append (leads_tag hattributes)
  have hended : Leads (step ⟨.standard, limit⟩ expand) { r with piece := .tag later }
      (if isClosed then ['/', '>'] else ['>']) (r.afterTag name attributes isClosed) :=
    leads_tagEnd h.rules hat isClosed
  rw [hchars]
  simpa using hopened.append (hscanned.append hended)

/-- A text says nothing to a reader who is after tags. -/
theorem exists_leads_escape (h : r.IsInside) (c : Char) :
    ∃ brackets, Leads (step ⟨.standard, limit⟩ expand) r (escape c) { r with piece := .idle brackets } := by
  obtain ⟨brackets, hpiece⟩ := h.piece
  have hplace := h.content
  rcases escape_cases c with ⟨hplain, hescape⟩ | ⟨body, hescape, hrefers, hbody⟩
  · rw [hescape]
    by_cases hbracket : c = ']'
    · refine ⟨min 2 (brackets + 1), Leads.single ?_⟩
      simp [step, hpiece, idleStep, hplace, hbracket, turn]
    · refine ⟨0, Leads.single ?_⟩
      simp [step, hpiece, idleStep, hplace, hplain.ne_angle, hplain.ne_closing, hplain.ne_ampersand, hbracket, rest,
        turn]
  · have hopened : step ⟨.standard, limit⟩ expand r '&' = some { r with piece := .reference [] } := by
      simp [step, hpiece, idleStep, hplace, turn]
    have hgathered : Leads (step ⟨.standard, limit⟩ expand) { r with piece := .reference [] } body
        { r with piece := .reference (body.reverse ++ []) } := by
      refine Leads.gather (fun soFar => { r with piece := .reference soFar }) fun d hd soFar => ?_
      simp [step, (of_isInner (hbody d hd)).2.1, turn]
    have hclosed : step ⟨.standard, limit⟩ expand { r with piece := .reference (body.reverse ++ []) } ';' =
        some { r with piece := .idle 0 } := by
      rcases hrefers with hchar | ⟨name, hname, hpredefined⟩
      · simp [step, referenceEnd, hplace, hchar, rest, turn]
      · simp [step, referenceEnd, hplace, hname, hpredefined, rest, turn]
    rw [hescape]
    exact ⟨0, Leads.cons hopened (Leads.append hgathered (Leads.single hclosed))⟩

theorem exists_leads_words (h : r.IsInside) (cs : List Char) :
    ∃ brackets,
      Leads (step ⟨.standard, limit⟩ expand) r (cs.flatMap escape) { r with piece := .idle brackets } := by
  induction cs generalizing r with
  | nil =>
      obtain ⟨brackets, hpiece⟩ := h.piece
      exact ⟨brackets, hpiece ▸ Leads.refl r⟩
  | cons c rest ih =>
      obtain ⟨middle, hfirst⟩ := exists_leads_escape h c
      obtain ⟨brackets, hrest⟩ := @ih { r with piece := .idle middle } { h with piece := ⟨middle, rfl⟩ }
      exact ⟨brackets, Leads.append hfirst hrest⟩

theorem endName_reverse (name : Name) : endName name.chars.reverse = name.chars := by
  have hspace : ∀ c ∈ name.chars, isSpace c = false := by
    intro c hc
    have hblank : c ≠ ' ' := name.ne_of_mem hc (by decide)
    have htab : c ≠ '\t' := name.ne_of_mem hc (by decide)
    have hnewline : c ≠ '\n' := name.ne_of_mem hc (by decide)
    have hreturn : c ≠ '\r' := name.ne_of_mem hc (by decide)
    simp [isSpace, hblank, htab, hnewline, hreturn]
  have hkept : name.chars.reverse.dropWhile isSpace = name.chars.reverse := by
    rw [List.dropWhile_eq_self_iff]
    intro hlength
    rw [hspace _ (List.mem_reverse.mp (List.getElem_mem hlength))]
    exact Bool.false_ne_true
  rw [endName, hkept, List.reverse_reverse]

/-- An end tag closes the element that was opened last. -/
theorem leads_endTag (h : r.IsInside) {name : Name} {outer : Bindings} {others : List OpenElement}
    (helements : r.elements = ⟨name.chars, outer⟩ :: others) :
    Leads (step ⟨.standard, limit⟩ expand) r ('<' :: '/' :: (name.chars ++ ['>']))
      { r with
        piece := .idle 0, elements := others, bindings := outer,
        place := if others.isEmpty then .epilogue else .content } := by
  obtain ⟨brackets, hpiece⟩ := h.piece
  have hopened : step ⟨.standard, limit⟩ expand r '<' = some { r with piece := .opened } := by
    simp [step, hpiece, idleStep, turn]
  have hslash : step ⟨.standard, limit⟩ expand { r with piece := .opened } '/' =
      some { r with piece := .endTag [] } := by
    simp [step, openedStep, h.content, turn]
  have hgathered : Leads (step ⟨.standard, limit⟩ expand) { r with piece := .endTag [] } name.chars
      { r with piece := .endTag (name.chars.reverse ++ []) } := by
    refine Leads.gather (fun soFar => { r with piece := .endTag soFar }) fun c hc soFar => ?_
    have hc : c ≠ '>' := name.ne_of_mem hc (by decide)
    simp [step, hc, turn]
  have hopen : ((⟨name.chars, outer⟩ :: others : List OpenElement).drop r.floor).isEmpty = false := by
    rw [h.floor]
    rfl
  refine Leads.cons hopened (Leads.cons hslash (Leads.append hgathered (Leads.single ?_)))
  simp [step, closeElement, endName_reverse, helements, hopen]

/-- An element is read with what is read of its content. -/
theorem leads_element (h : r.IsReady) (style : Style) (name : Name) (attributes : Attributes) {inner : Forest}
    (hinner : ∀ {inside : Reading}, inside.IsInside → ∃ brackets,
      Leads (step ⟨.standard, limit⟩ expand) inside (style.forest inner)
        { inside with piece := .idle brackets, tags := inner.tags.reverse ++ inside.tags }) :
    Leads (step ⟨.standard, limit⟩ expand) r (style.element name attributes inner.isNil (style.forest inner))
      { r with
        piece := .idle 0, place := if r.elements.isEmpty then .epilogue else .content,
        tags := inner.tags.reverse ++ ⟨name.chars, attributes.values⟩ :: r.tags } := by
  rw [Style.element]
  -- Only an element that holds nothing ends with its start tag, and then no other tags are read in it.
  by_cases hclosed : (style.closesEmpty && inner.isNil) = true
  · have hnil : inner.tags = [] := by
      cases inner <;> simp_all [Forest.isNil, Forest.tags]
    rw [if_pos hclosed, hnil]
    exact leads_startTag h style name attributes true
  · let inside := r.afterTag name attributes false
    have hinside : inside.IsInside :=
      ⟨⟨.inl rfl, ⟨0, rfl⟩, h.rules, h.floor⟩, rfl, List.cons_ne_nil _ _⟩
    have hstart : Leads (step ⟨.standard, limit⟩ expand) r
        ('<' :: (name.chars ++ (style.attributes attributes ++ ['>']))) inside :=
      leads_startTag h style name attributes false
    obtain ⟨brackets, hcontent⟩ := hinner hinside
    let after : Reading := { inside with piece := .idle brackets, tags := inner.tags.reverse ++ inside.tags }
    have hafter : after.IsInside := { hinside with piece := ⟨brackets, rfl⟩ }
    have hend : Leads (step ⟨.standard, limit⟩ expand) after ('<' :: '/' :: (name.chars ++ ['>']))
        { r with
          piece := .idle 0, place := if r.elements.isEmpty then .epilogue else .content,
          tags := inner.tags.reverse ++ ⟨name.chars, attributes.values⟩ :: r.tags } :=
      leads_endTag hafter rfl
    rw [if_neg hclosed]
    simpa using hstart.append (hcontent.append hend)

/-- What stands inside an element is read back. -/
theorem exists_leads_forest (h : r.IsInside) (style : Style) (forest : Forest) :
    ∃ brackets, Leads (step ⟨.standard, limit⟩ expand) r (style.forest forest)
      { r with piece := .idle brackets, tags := forest.tags.reverse ++ r.tags } := by
  -- Every element is closed where it was opened, so that the reader stays inside the same one from part to part.
  induction forest generalizing r with
  | nil =>
      obtain ⟨brackets, hpiece⟩ := h.piece
      exact ⟨brackets, hpiece ▸ Leads.refl r⟩
  | words text rest ih =>
      obtain ⟨middle, htext⟩ := exists_leads_words h text.chars
      obtain ⟨brackets, hrest⟩ := @ih { r with piece := .idle middle } { h with piece := ⟨middle, rfl⟩ }
      exact ⟨brackets, htext.append hrest⟩
  | element name attributes inner rest ihInner ihRest =>
      have helement : Leads (step ⟨.standard, limit⟩ expand) r
          (style.element name attributes inner.isNil (style.forest inner))
          { r with
            piece := .idle 0, tags := inner.tags.reverse ++ ⟨name.chars, attributes.values⟩ :: r.tags } := by
        have hread := leads_element h.toIsReady style name attributes ihInner
        have hopen : r.elements.isEmpty = false := List.isEmpty_eq_false_iff.mpr h.elements
        simp only [hopen, Bool.false_eq_true, if_false] at hread
        rw [← h.content] at hread
        exact hread
      obtain ⟨brackets, hrest⟩ := @ihRest
        { r with piece := .idle 0, tags := inner.tags.reverse ++ ⟨name.chars, attributes.values⟩ :: r.tags }
        { h with piece := ⟨0, rfl⟩ }
      refine ⟨brackets, ?_⟩
      rw [Style.forest, Forest.tags]
      simpa using helement.append hrest

end Reading

end Gatekeeper.Markup
