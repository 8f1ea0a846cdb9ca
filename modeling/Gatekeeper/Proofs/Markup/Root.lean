import Gatekeeper.Proofs.Markup.Limit

/-! The root element in a reading. Elements are open just while the root is, and nothing that comes after the root
opens one again. So a document has its root behind it from one character on: the closing bracket of the root's end
tag, or of its only tag. -/

namespace Gatekeeper.Markup

/-- Whether the root has not begun. -/
def Place.isBeforeRoot : Place → Bool
  | prologue _ => true
  | doctype _ => true
  | content => false
  | epilogue => false

namespace Reading

/-- Whether elements are open just inside the root, and no tag is read after it. -/
structure IsSound (r : Reading) : Prop where
  content_iff : r.place = .content ↔ r.elements ≠ []
  noTag : r.place = .epilogue → ∀ scan, r.piece ≠ .tag scan

/-- Whether a closing bracket would end the root: as the end of the end tag of the only open element, or of an element
that is closed at once while none is open. -/
def IsAtRootEnd (r : Reading) : Prop :=
  (∃ soFar, r.piece = .endTag soFar ∧ r.elements.length = 1) ∨
    ∃ tag, r.piece = .tag (.slash tag) ∧ r.elements = []

/-- What one character does to the place and to the open elements. -/
inductive Moves (expand : List Char → Reading → Option Reading) (r : Reading) (c : Char) (after : Reading) : Prop
  | stays (hplace : after.place = r.place) (helements : after.elements = r.elements)
      (hpiece : r.place = .epilogue → (∀ scan, r.piece ≠ .tag scan) → ∀ scan, after.piece ≠ .tag scan)
  | declares (hplace : r.place.isBeforeRoot = true) (hafter : after.place.isBeforeRoot = true)
      (helements : after.elements = r.elements)
  | opens (scan : TagScan) (element : OpenElement) (hpiece : r.piece = .tag scan) (hplace : after.place = .content)
      (helements : after.elements = element :: r.elements)
  | closesAtOnce (tag : RawTag) (hpiece : r.piece = .tag (.slash tag)) (hc : c = '>')
      (hafter : after.piece = .idle 0) (hplace : after.place = if r.elements.isEmpty then .epilogue else .content)
      (helements : after.elements = r.elements)
  | closes (soFar : List Char) (element : OpenElement) (hpiece : r.piece = .endTag soFar) (hc : c = '>')
      (hafter : after.piece = .idle 0) (hplace : after.place = if after.elements.isEmpty then .epilogue else .content)
      (helements : r.elements = element :: after.elements)
  | expands (name : List Char) (hplace : r.place = .content)
      (hexpand : expand name { r with piece := .idle 0 } = some after)

variable {limit : Nat} {alphabet : Alphabet} {rules : Rules} {expand : List Char → Reading → Option Reading}
  {r after : Reading} {c : Char}

theorem moves_of_turn {piece : Piece} (h : r.turn piece = some after)
    (hpiece : r.place = .epilogue → (∀ scan, r.piece ≠ .tag scan) → ∀ scan, piece ≠ .tag scan) :
    Moves expand r c after := by
  cases h
  exact .stays rfl rfl hpiece

/-- An element that is closed at once ends with a slash and a bracket. -/
theorem eq_slash_of_complete {scan : TagScan} {raw : RawTag} (h : scan.step alphabet c = some (.complete raw))
    (hclosed : raw.isClosed = true) : c = '>' ∧ ∃ tag, scan = .slash tag := by
  have hboundary : ∀ tag, TagScan.boundary? tag c = some (.complete raw) → False := by
    intro tag hboundary
    unfold TagScan.boundary? at hboundary
    repeat' split at hboundary
    all_goals cases hboundary
    cases hclosed
  cases scan with
  | name soFar =>
      simp only [TagScan.step] at h
      split at h
      · cases h
      · obtain ⟨ended, -, h⟩ := Option.bind_eq_some_iff.mp h
        exact (hboundary _ h).elim
  | gap tag =>
      simp only [TagScan.step] at h
      split at h
      · cases h
      · exact (hboundary _ h).elim
  | key tag soFar =>
      simp only [TagScan.step] at h
      split at h
      · cases h
      · obtain ⟨ended, -, h⟩ := Option.bind_eq_some_iff.mp h
        repeat' split at h
        all_goals cases h
  | afterText tag => exact (hboundary _ h).elim
  | slash tag =>
      simp only [TagScan.step] at h
      split at h
      · rename_i hc
        exact ⟨hc, tag, rfl⟩
      · cases h
  | _ =>
      simp only [TagScan.step] at h
      repeat' split at h
      all_goals cases h

theorem openElement_eq_some {raw : RawTag} (h : r.openElement rules raw = some after) :
    if raw.isClosed then
      after.piece = .idle 0 ∧ after.place = (if r.elements.isEmpty then .epilogue else .content) ∧
        after.elements = r.elements
    else after.place = .content ∧ ∃ element, after.elements = element :: r.elements := by
  unfold openElement at h
  split at h
  · cases h
  split at h
  · cases h
  simp only at h
  split at h
  · cases h
  split at h
  · cases h
  split at h
  · rename_i hclosed
    cases h
    rw [if_pos hclosed]
    exact ⟨rfl, rfl, rfl⟩
  · rename_i hopen
    cases h
    rw [if_neg hopen]
    exact ⟨rfl, _, rfl⟩

theorem moves_of_openElement {scan : TagScan} {raw : RawTag} (hpiece : r.piece = .tag scan)
    (hscan : scan.step alphabet c = some (.complete raw)) (h : r.openElement rules raw = some after) :
    Moves expand r c after := by
  have hopened := openElement_eq_some h
  split at hopened
  · rename_i hclosed
    obtain ⟨hc, tag, rfl⟩ := eq_slash_of_complete hscan hclosed
    exact .closesAtOnce tag hpiece hc hopened.1 hopened.2.1 hopened.2.2
  · obtain ⟨hplace, element, helements⟩ := hopened
    exact .opens scan element hpiece hplace helements

theorem moves_of_closeElement {soFar name : List Char} (hpiece : r.piece = .endTag soFar) (hc : c = '>')
    (h : r.closeElement name = some after) : Moves expand r c after := by
  unfold closeElement at h
  split at h
  · cases h
  · rename_i element outer helements
    split at h
    · cases h
      exact .closes soFar element hpiece hc rfl rfl helements
    · cases h

theorem moves_of_referenceEnd {soFar : List Char} (h : referenceEnd ⟨alphabet, limit⟩ expand r soFar = some after) :
    Moves expand r c after := by
  unfold referenceEnd at h
  split at h
  case h_1 => exact moves_of_turn h (by simp)
  case h_2 name hplace _ =>
    split at h
    · exact moves_of_turn h (by simp)
    · exact .expands name hplace h
  case h_3 stage name hplace _ =>
    cases h
    exact .stays rfl rfl (by simp)
  case h_4 => cases h

theorem moves_of_keywordEnd {keyword : List Char} (h : r.keywordEnd keyword = some after) :
    Moves expand r c after := by
  unfold keywordEnd at h
  split at h
  case h_1 hplace =>
    split at h
    · cases h
      exact .declares (by rw [hplace]; rfl) rfl rfl
    · cases h
  case h_2 stage hplace =>
    obtain ⟨next, -, rfl⟩ := Option.map_eq_some_iff.mp h
    exact .declares (by rw [hplace]; rfl) rfl rfl
  case h_3 => cases h

theorem symbolStep_eq_some {symbol : Symbol} (h : symbolStep rules r symbol = some after) :
    r.place.isBeforeRoot = true ∧ after.place.isBeforeRoot = true ∧ after.elements = r.elements := by
  unfold symbolStep at h
  split at h
  · rename_i stage hplace
    have hbefore : r.place.isBeforeRoot = true := by
      rw [hplace]
      rfl
    split at h
    all_goals cases h
    all_goals exact ⟨hbefore, rfl, rfl⟩
  · cases h

theorem moves_of_symbols {symbols : List Symbol} {scan : SymbolScan}
    (h : symbols.foldlM (symbolStep rules) { r with piece := .declaration scan } = some after) :
    Moves expand r c after := by
  have hrun : ∀ start : Reading, symbols.foldlM (symbolStep rules) start = some after →
      after = start ∨
        start.place.isBeforeRoot = true ∧ after.place.isBeforeRoot = true ∧ after.elements = start.elements := by
    clear h
    induction symbols with
    | nil =>
        intro start hfold
        exact .inl (Option.some.inj hfold).symm
    | cons symbol rest ih =>
        intro start hfold
        rw [List.foldlM_cons] at hfold
        obtain ⟨middle, hfirst, hrest⟩ := Option.bind_eq_some_iff.mp hfold
        obtain ⟨hbefore, hmiddle, helements⟩ := symbolStep_eq_some hfirst
        rcases ih middle hrest with rfl | ⟨-, hafter, hsame⟩
        · exact .inr ⟨hbefore, hmiddle, helements⟩
        · exact .inr ⟨hbefore, hafter, hsame.trans helements⟩
  rcases hrun _ h with rfl | ⟨hbefore, hafter, helements⟩
  · exact .stays rfl rfl (by simp)
  · exact .declares hbefore hafter helements

theorem moves_of_step (h : step ⟨alphabet, limit⟩ expand r c = some after) : Moves expand r c after := by
  unfold step at h
  cases hpiece : r.piece with
  | idle brackets =>
      simp only [hpiece, idleStep] at h
      cases hplace : r.place with
      | doctype stage =>
          simp only [hplace] at h
          repeat' split at h
          case isFalse.isFalse.isFalse.isTrue =>
            cases h
            exact .declares (by rw [hplace]; rfl) rfl rfl
          all_goals first | cases h; done | exact moves_of_turn h (by simp)
      | _ =>
          simp only [hplace] at h
          repeat' split at h
          all_goals first | cases h; done | exact moves_of_turn h (by simp)
  | opened =>
      simp only [hpiece, openedStep] at h
      cases hplace : r.place
      all_goals
        simp only [hplace] at h
        repeat' split at h
        all_goals first | cases h; done | exact moves_of_turn h (by simp [hplace])
  | exclaimed =>
      simp only [hpiece, exclaimedStep] at h
      repeat' split at h
      all_goals first | cases h; done | exact moves_of_turn h (by simp)
  | tag scan =>
      simp only [hpiece] at h
      split at h
      · cases h
      · rename_i later hscan
        exact moves_of_turn h fun _ hnone => (hnone scan hpiece).elim
      · rename_i raw hscan
        exact moves_of_openElement hpiece hscan h
  | endTag soFar =>
      simp only [hpiece] at h
      split at h
      · rename_i hc
        exact moves_of_closeElement hpiece hc h
      · exact moves_of_turn h (by simp)
  | reference soFar =>
      simp only [hpiece] at h
      split at h
      · exact moves_of_referenceEnd h
      · exact moves_of_turn h (by simp)
  | keyword soFar =>
      simp only [hpiece] at h
      repeat' split at h
      · exact moves_of_turn h (by simp)
      · exact moves_of_keywordEnd h
      · cases h
  | declaration scan =>
      simp only [hpiece, declarationStep] at h
      split at h
      · cases h
      · exact moves_of_symbols h
  | _ =>
      simp only [hpiece] at h
      repeat' split at h
      all_goals first | cases h; done | exact moves_of_turn h (by simp)

/-- Whether the texts of entities, which stand inside the root, lead back into it. -/
def ReturnsInside (expand : List Char → Reading → Option Reading) : Prop :=
  ∀ name r after, r.IsSound → r.place = .content → expand name r = some after → after.IsSound ∧ after.place = .content

/-- No character after the root leads out of there. -/
theorem Moves.isSound (h : Moves expand r c after) (hexpand : ReturnsInside expand) (hr : r.IsSound) :
    after.IsSound ∧ (r.place = .epilogue → after.place = .epilogue) := by
  cases h with
  | stays hplace helements hpiece =>
      refine ⟨⟨?_, fun hepilogue => ?_⟩, fun hepilogue => hplace.trans hepilogue⟩
      · rw [hplace, helements]
        exact hr.content_iff
      · rw [hplace] at hepilogue
        exact hpiece hepilogue (hr.noTag hepilogue)
  | declares hplace hafter helements =>
      have hempty : r.elements = [] := by
        by_contra hopen
        rw [hr.content_iff.mpr hopen] at hplace
        cases hplace
      refine ⟨⟨?_, fun hepilogue => ?_⟩, fun hepilogue => ?_⟩
      · rw [helements, hempty]
        refine ⟨fun hcontent => ?_, fun hopen => absurd rfl hopen⟩
        rw [hcontent] at hafter
        cases hafter
      · rw [hepilogue] at hafter
        cases hafter
      · rw [hepilogue] at hplace
        cases hplace
  | opens scan element hpiece hplace helements =>
      refine ⟨⟨?_, fun hepilogue => ?_⟩, fun hepilogue => absurd hpiece (hr.noTag hepilogue scan)⟩
      · rw [hplace, helements]
        simp
      · rw [hplace] at hepilogue
        cases hepilogue
  | closesAtOnce tag hpiece _ hafter hplace helements =>
      refine ⟨⟨?_, fun _ scan => ?_⟩, fun hepilogue => absurd hpiece (hr.noTag hepilogue _)⟩
      · rw [hplace, helements]
        cases r.elements <;> simp
      · rw [hafter]
        simp
  | closes soFar element hpiece _ hafter hplace helements =>
      refine ⟨⟨?_, fun _ scan => ?_⟩, fun hepilogue => ?_⟩
      · rw [hplace]
        cases after.elements <;> simp
      · rw [hafter]
        simp
      · have hcontent : r.place = .content := hr.content_iff.mpr (by simp [helements])
        rw [hcontent] at hepilogue
        cases hepilogue
  | expands name hplace hstep =>
      have hidle : IsSound { r with piece := .idle 0 } := ⟨hr.content_iff, by simp⟩
      obtain ⟨hafter, -⟩ := hexpand _ _ _ hidle hplace hstep
      refine ⟨hafter, fun hepilogue => ?_⟩
      rw [hplace] at hepilogue
      cases hepilogue

/-- A character that leads behind the root is the closing bracket at its end. -/
theorem Moves.isAtRootEnd (h : Moves expand r c after) (hexpand : ReturnsInside expand) (hr : r.IsSound)
    (hplace : r.place ≠ .epilogue) (hafter : after.place = .epilogue) : c = '>' ∧ r.IsAtRootEnd := by
  cases h with
  | stays hsame => exact absurd (hsame.symm.trans hafter) hplace
  | declares _ hbefore =>
      rw [hafter] at hbefore
      cases hbefore
  | opens _ _ _ hcontent =>
      rw [hafter] at hcontent
      cases hcontent
  | closesAtOnce tag hpiece hc _ hend =>
      rw [hafter] at hend
      cases helements : r.elements with
      | nil => exact ⟨hc, .inr ⟨tag, hpiece, helements⟩⟩
      | cons element outer =>
          rw [helements] at hend
          cases hend
  | closes soFar element hpiece hc _ hend helements =>
      rw [hafter] at hend
      cases houter : after.elements with
      | nil => exact ⟨hc, .inl ⟨soFar, hpiece, by rw [helements, houter, List.length_singleton]⟩⟩
      | cons element outer =>
          rw [houter] at hend
          cases hend
  | expands name hcontent hstep =>
      have hidle : IsSound { r with piece := .idle 0 } := ⟨hr.content_iff, by simp⟩
      obtain ⟨-, hinside⟩ := hexpand _ _ _ hidle hcontent hstep
      rw [hafter] at hinside
      cases hinside

/-- A run of characters keeps what every character keeps. -/
theorem isSound_of_foldlM {text : List Char} (hexpand : ReturnsInside expand) (hr : r.IsSound)
    (h : text.foldlM (step ⟨alphabet, limit⟩ expand) r = some after) :
    after.IsSound ∧ (r.place = .epilogue → after.place = .epilogue) := by
  induction text generalizing r with
  | nil =>
      cases h
      exact ⟨hr, id⟩
  | cons c rest ih =>
      rw [List.foldlM_cons] at h
      obtain ⟨middle, hfirst, hrest⟩ := Option.bind_eq_some_iff.mp h
      obtain ⟨hmiddle, hstays⟩ := (moves_of_step hfirst).isSound hexpand hr
      obtain ⟨hafter, hlater⟩ := ih hmiddle hrest
      exact ⟨hafter, fun hepilogue => hlater (hstays hepilogue)⟩

theorem returnsInside_expandWith {readText : Reading → List Char → Option Reading}
    (h : ∀ r text after, r.IsSound → readText r text = some after → after.IsSound) :
    ReturnsInside (expandWith rules readText) := by
  intro name r after hr hplace hexpand
  unfold expandWith at hexpand
  split at hexpand
  · simp only at hexpand
    split at hexpand
    · cases hexpand
    · split at hexpand
      · cases hexpand
      · rename_i text _ _ _ read hread
        split at hexpand
        · rename_i hback
          cases hexpand
          have hsound : read.IsSound := by
            refine h _ text _ ?_ hread
            exact ⟨hr.content_iff, hr.noTag⟩
          -- As many elements are open as before the text, and so there are some.
          have hlength : read.elements.length = r.elements.length := by
            unfold isBackAt at hback
            split at hback
            · exact of_decide_eq_true hback
            · cases hback
          have hopen : read.elements ≠ [] := by
            rw [← List.length_pos_iff, hlength, List.length_pos_iff]
            exact hr.content_iff.mp hplace
          have hcontent : read.place = .content := hsound.content_iff.mpr hopen
          exact ⟨⟨hsound.content_iff, fun _ => by simp⟩, hcontent⟩
        · cases hexpand
  · cases hexpand

theorem isSound_of_readAll {depth : Nat} {text : List Char} (hr : r.IsSound)
    (h : readAll limit depth alphabet r text = some after) : after.IsSound := by
  induction depth generalizing alphabet r text after with
  | zero => cases h
  | succ depth ih =>
      exact (isSound_of_foldlM (returnsInside_expandWith fun _ _ _ hsound hread => ih hsound hread) hr h).1

theorem returnsInside_readAll (depth : Nat) (alphabet : Alphabet) :
    ReturnsInside (expandWith rules (readAll limit depth alphabet)) :=
  returnsInside_expandWith fun _ _ _ hsound hread => isSound_of_readAll hsound hread

theorem isSound_start (standalone : Bool) : (start standalone).IsSound :=
  ⟨⟨fun hplace => Place.noConfusion hplace, fun hopen => absurd rfl hopen⟩, fun hplace => Place.noConfusion hplace⟩

/-- What is read after the root leaves the root behind, whatever room there is for replaced text. -/
theorem place_of_readAll_append {limit' depth depth' : Nat} {before more : List Char} {standalone : Bool}
    {middle : Reading} (hmiddle : readAll limit depth alphabet (start standalone) before = some middle)
    (h : readAll limit' depth' alphabet (start standalone) (before ++ more) = some after)
    (hplace : middle.place = .epilogue) : after.place = .epilogue := by
  have hmost := readAll_within (le_max_left limit limit') (le_max_left depth depth') alphabet _ _ _ hmiddle
  have hmost' := readAll_within (le_max_right limit limit') (le_max_right depth depth') alphabet _ _ _ h
  generalize max depth depth' = most at hmost hmost'
  cases most with
  | zero => cases hmost
  | succ most =>
      have hsound : middle.IsSound := isSound_of_readAll (isSound_start standalone) hmost
      simp only [readAll] at hmost hmost'
      rw [List.foldlM_append, hmost] at hmost'
      exact (isSound_of_foldlM (returnsInside_readAll most .standard) hsound hmost').2 hplace

/-- Where the root is left behind there is a closing bracket that ends it. -/
theorem exists_isAtRootEnd_of_foldlM {text : List Char} (hexpand : ReturnsInside expand) (hr : r.IsSound)
    (hplace : r.place ≠ .epilogue) (h : text.foldlM (step ⟨alphabet, limit⟩ expand) r = some after)
    (hafter : after.place = .epilogue) :
    ∃ before rest middle, text = before ++ '>' :: rest ∧
      before.foldlM (step ⟨alphabet, limit⟩ expand) r = some middle ∧ middle.IsAtRootEnd := by
  induction text generalizing r with
  | nil =>
      cases h
      exact absurd hafter hplace
  | cons c rest ih =>
      rw [List.foldlM_cons] at h
      obtain ⟨next, hfirst, hrest⟩ := Option.bind_eq_some_iff.mp h
      have hmoves := moves_of_step hfirst
      by_cases hnext : next.place = .epilogue
      · obtain ⟨rfl, hend⟩ := hmoves.isAtRootEnd hexpand hr hplace hnext
        exact ⟨[], rest, r, rfl, rfl, hend⟩
      · obtain ⟨before, later, middle, rfl, hbefore, hend⟩ := ih (hmoves.isSound hexpand hr).1 hnext hrest
        refine ⟨c :: before, later, middle, rfl, ?_, hend⟩
        rw [List.foldlM_cons, hfirst]
        exact hbefore

theorem exists_isAtRootEnd {depth : Nat} {text : List Char} {standalone : Bool}
    (h : readAll limit depth alphabet (start standalone) text = some after) (hafter : after.place = .epilogue) :
    ∃ before rest middle, text = before ++ '>' :: rest ∧
      readAll limit depth alphabet (start standalone) before = some middle ∧ middle.IsAtRootEnd := by
  cases depth with
  | zero => cases h
  | succ depth =>
      exact exists_isAtRootEnd_of_foldlM (returnsInside_readAll depth .standard) (isSound_start standalone)
        (fun hplace => Place.noConfusion hplace) h hafter

/-- Before the closing bracket that ends the root there is more to come. -/
theorem place_ne_epilogue_of_isAtRootEnd (hr : r.IsSound) (h : r.IsAtRootEnd) : r.place ≠ .epilogue := by
  intro hplace
  rcases h with ⟨soFar, -, hlength⟩ | ⟨tag, hpiece, -⟩
  · have hcontent : r.place = .content := hr.content_iff.mpr (List.ne_nil_of_length_eq_add_one hlength)
    rw [hcontent] at hplace
    cases hplace
  · exact hr.noTag hplace _ hpiece

theorem place_of_isAtRootEnd (h : r.IsAtRootEnd) (hstep : step rules expand r '>' = some after) :
    after.place = .epilogue := by
  rcases h with ⟨soFar, hpiece, hlength⟩ | ⟨tag, hpiece, hnone⟩
  · obtain ⟨element, helements⟩ := List.length_eq_one_iff.mp hlength
    simp only [step, hpiece, if_true, closeElement, helements] at hstep
    split at hstep
    · cases hstep
      rfl
    · cases hstep
  · simp only [step, hpiece, TagScan.step, if_true, TagScan.finish] at hstep
    obtain ⟨-, hplace, -⟩ := openElement_eq_some hstep
    rw [hplace, hnone]
    rfl

/-- A text with the bracket that ends the root in it has the root behind it. -/
theorem place_of_readAll_rootEnd {limit' depth depth' : Nat} {before more : List Char} {standalone : Bool}
    {middle : Reading} (hmiddle : readAll limit depth alphabet (start standalone) before = some middle)
    (hend : middle.IsAtRootEnd)
    (h : readAll limit' depth' alphabet (start standalone) (before ++ '>' :: more) = some after) :
    after.place = .epilogue := by
  cases depth' with
  | zero => cases h
  | succ depth' =>
      have hclosed : ∃ closed,
          readAll limit' (depth' + 1) alphabet (start standalone) (before ++ ['>']) = some closed ∧
            closed.place = .epilogue := by
        simp only [readAll, List.foldlM_append, List.foldlM_cons] at h ⊢
        obtain ⟨next, hnext, hrest⟩ := Option.bind_eq_some_iff.mp h
        obtain ⟨closed, hstep, -⟩ := Option.bind_eq_some_iff.mp hrest
        have hread : readAll limit' (depth' + 1) alphabet (start standalone) before = some next := hnext
        obtain rfl : middle = next := readAll_unique hmiddle hread
        refine ⟨closed, ?_, place_of_isAtRootEnd hend hstep⟩
        exact Option.bind_eq_some_iff.mpr ⟨middle, hnext, Option.bind_eq_some_iff.mpr ⟨closed, hstep, rfl⟩⟩
      obtain ⟨closed, hread, hplace⟩ := hclosed
      rw [← List.singleton_append, ← List.append_assoc] at h
      exact place_of_readAll_append hread h hplace

end Reading

end Gatekeeper.Markup
