import Gatekeeper.Files.Path

/-! Paths and their texts. A path that was read from a text, or put together from such paths and plain names, is
read back from its own text. -/

namespace Gatekeeper.Path

variable {path base : Path} {name : String}

/-- Whether a text can stand between two slashes of a path and be kept. -/
def IsName (name : String) : Prop :=
  isPart name.toList = true ∧ '/' ∉ name.toList

instance (name : String) : Decidable (IsName name) :=
  inferInstanceAs (Decidable (_ ∧ _))

/-- Whether the parts of a path are what a text can have between its slashes. -/
def IsReadable (path : Path) : Prop :=
  ∀ part ∈ path.parts, IsName part

theorem splitSlashes_eq_splitOn (cs : List Char) : splitSlashes cs = cs.splitOn '/' := by
  induction cs with
  | nil => rfl
  | cons c rest ih =>
      rw [List.splitOn_cons_eq_if_modifyHead, ← ih]
      by_cases hc : c = '/'
      · rw [hc]
        rfl
      · have hne : ¬(c == '/') = true := by simpa using hc
        rw [if_neg hne, splitSlashes]
        · cases hrest : splitSlashes rest with
          | nil => exact absurd hrest (splitSlashes_ne_nil rest)
          | cons first others => rfl
        · exact hc

theorem slash_not_mem_of_mem_splitSlashes {cs : List Char} :
    ∀ piece ∈ splitSlashes cs, '/' ∉ piece := by
  induction cs with
  | nil => simp [splitSlashes]
  | cons c rest ih =>
      rw [splitSlashes_eq_splitOn, List.splitOn_cons_eq_if_modifyHead, ← splitSlashes_eq_splitOn]
      by_cases hc : c = '/'
      · simpa [hc] using ih
      · have hne : ¬(c == '/') = true := by simpa using hc
        rw [if_neg hne]
        cases hrest : splitSlashes rest with
        | nil => exact absurd hrest (splitSlashes_ne_nil rest)
        | cons first others =>
            rw [hrest, List.forall_mem_cons] at ih
            rw [List.modifyHead_cons, List.forall_mem_cons, List.mem_cons, not_or]
            exact ⟨⟨Ne.symm hc, ih.1⟩, ih.2⟩

theorem isReadable_ofText (s : String) : (ofText s).IsReadable := by
  intro part hpart
  obtain ⟨cs, hcs, rfl⟩ := List.mem_map.mp hpart
  obtain ⟨hpiece, hkept⟩ := List.mem_filter.mp hcs
  rw [IsName, String.toList_ofList]
  exact ⟨hkept, slash_not_mem_of_mem_splitSlashes cs hpiece⟩

theorem IsReadable.join (hbase : base.IsReadable) (hpath : path.IsReadable) : (base.join path).IsReadable := by
  rw [Path.join]
  split
  · exact hpath
  · intro part hpart
    rcases List.mem_append.mp hpart with hfirst | hsecond
    · exact hbase part hfirst
    · exact hpath part hsecond

theorem IsReadable.child (hpath : path.IsReadable) (hname : IsName name) : (path.child name).IsReadable := by
  intro part hpart
  rcases List.mem_append.mp hpart with hfirst | hlast
  · exact hpath part hfirst
  · rwa [List.mem_singleton.mp hlast]

/-- The characters of the parts with slashes between them. -/
def bodyChars (parts : List String) : List Char :=
  ['/'].intercalate (parts.map String.toList)

theorem toList_body (path : Path) :
    (anchorText path.anchor ++ "/".intercalate path.parts).toList =
      (anchorText path.anchor).toList ++ bodyChars path.parts := by
  rw [String.toList_append, String.toList_intercalate]
  rfl

theorem filter_splitSlashes_bodyChars (h : path.IsReadable) :
    (splitSlashes (bodyChars path.parts)).filter isPart = path.parts.map String.toList := by
  by_cases hparts : path.parts = []
  · rw [hparts]
    rfl
  · have hslashes : ∀ cs ∈ path.parts.map String.toList, '/' ∉ cs := by
      rw [List.forall_mem_map]
      exact fun part hpart => (h part hpart).2
    have hkept : ∀ cs ∈ path.parts.map String.toList, isPart cs = true := by
      rw [List.forall_mem_map]
      exact fun part hpart => (h part hpart).1
    rw [splitSlashes_eq_splitOn, bodyChars, List.splitOn_intercalate '/' hslashes (by simpa using hparts)]
    exact List.filter_eq_self.mpr hkept

/-- The characters of the parts do not begin with a slash, so that the start is read as it was written. -/
theorem anchorOf_append_bodyChars (h : path.IsReadable) :
    anchorOf ((anchorText path.anchor).toList ++ bodyChars path.parts) = path.anchor := by
  have hbody : ∀ rest, bodyChars path.parts ≠ '/' :: rest := by
    intro rest hslash
    cases hparts : path.parts with
    | nil =>
        rw [hparts] at hslash
        cases hslash
    | cons first others =>
        obtain ⟨hkept, hfree⟩ := h first (hparts ▸ List.mem_cons_self)
        rw [hparts, bodyChars, List.map_cons] at hslash
        cases hfirst : first.toList with
        | nil =>
            rw [hfirst] at hkept
            cases hkept
        | cons c cs =>
            rw [hfirst, List.intercalate_cons_cons_left] at hslash
            rw [hfirst] at hfree
            exact hfree ((List.cons.inj hslash).1 ▸ List.mem_cons_self)
  generalize bodyChars path.parts = cs at hbody
  cases path.anchor with
  | relative =>
      change anchorOf cs = _
      unfold anchorOf
      split
      · exact absurd rfl (hbody _)
      · exact absurd rfl (hbody _)
      · exact absurd rfl (hbody _)
      · rfl
  | root =>
      change anchorOf ('/' :: cs) = _
      cases cs with
      | nil => rfl
      | cons c rest =>
          rw [anchorOf]
          · exact fun _ hcs => hbody _ hcs
          · exact fun _ hcs => hbody _ hcs
  | doubleRoot =>
      change anchorOf ('/' :: '/' :: cs) = _
      cases cs with
      | nil => rfl
      | cons c rest =>
          rw [anchorOf]
          exact fun _ hcs => hbody _ hcs

theorem splitSlashes_anchorText_append (anchor : Anchor) (cs : List Char) :
    (splitSlashes ((anchorText anchor).toList ++ cs)).filter isPart = (splitSlashes cs).filter isPart := by
  cases anchor <;> rfl

/-- A path is read back from its text. -/
theorem ofText_text (h : path.IsReadable) : ofText path.text = path := by
  have hparts : ((splitSlashes (anchorText path.anchor ++ "/".intercalate path.parts).toList).filter isPart).map
      String.ofList = path.parts := by
    rw [toList_body, splitSlashes_anchorText_append, filter_splitSlashes_bodyChars h, List.map_map]
    simp
  have hanchor : anchorOf (anchorText path.anchor ++ "/".intercalate path.parts).toList = path.anchor := by
    rw [toList_body, anchorOf_append_bodyChars h]
  rw [text]
  split
  · -- the text of nothing is a dot, which is read as nothing
    rename_i hempty
    rw [String.isEmpty_iff] at hempty
    rw [hempty] at hparts hanchor
    calc
      ofText "." = ofText "" := by decide
      _ = path := by rw [ofText, hanchor, hparts]
  · rw [ofText, hanchor, hparts]

/-- A name alone is read as the path of one part. -/
theorem ofText_of_isName (h : IsName name) : ofText name = ⟨.relative, [name]⟩ := by
  have hreadable : IsReadable ⟨.relative, [name]⟩ := by
    intro part hpart
    rwa [List.mem_singleton.mp hpart]
  have hempty : name ≠ "" := by
    rintro rfl
    exact absurd h (by decide)
  have htext : text ⟨.relative, [name]⟩ = name := by
    simp [text, anchorText, hempty]
  calc
    ofText name = ofText (text ⟨.relative, [name]⟩) := by rw [htext]
    _ = ⟨.relative, [name]⟩ := ofText_text hreadable

end Gatekeeper.Path
