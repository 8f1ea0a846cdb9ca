import Gatekeeper.Proofs.Files.Frame

/-! Paths and their last parts. A path that ends in a name leads below where its parent leads, and a directory
that is there already is made without a change. -/

namespace Gatekeeper.Files

open Work Disk

variable {disk : Disk} {path : Path} {part : String} {place target : Location}

theorem follow_append_eq_ok {parts : List String} :
    follow disk place (parts ++ [part]) = .ok target ↔
      ∃ middle, follow disk place parts = .ok middle ∧ disk.node? middle = some .directory ∧
        part.utf8ByteSize ≤ maxName ∧ target = step middle part := by
  induction parts generalizing place with
  | nil =>
      rw [List.nil_append, follow_cons_eq_ok]
      simp only [follow, Except.ok.injEq, exists_eq_left', eq_comm]
  | cons first rest ih =>
      rw [List.cons_append, follow_cons_eq_ok, ih]
      simp only [follow_cons_eq_ok]
      constructor
      · rintro ⟨hplace, hfirst, middle, hmiddle, hrest⟩
        exact ⟨middle, ⟨hplace, hfirst, hmiddle⟩, hrest⟩
      · rintro ⟨middle, ⟨hplace, hfirst, hmiddle⟩, hrest⟩
        exact ⟨hplace, hfirst, middle, hmiddle, hrest⟩

theorem text_child (part : String) (h : path.parts ≠ []) :
    (path.child part).text = Path.anchorText path.anchor ++ ("/".intercalate path.parts ++ "/" ++ part) := by
  have hbody : "/".intercalate (path.child part).parts = "/".intercalate path.parts ++ "/" ++ part := by
    rw [Path.child, String.intercalate_append_of_ne_nil h (List.cons_ne_nil part [])]
    simp
  have hanchor : (path.child part).anchor = path.anchor := rfl
  rw [Path.text, hbody, hanchor, if_neg]
  simp

theorem utf8ByteSize_text_lt_of_child (h : (path.child part).text.utf8ByteSize < maxPath) :
    path.text.utf8ByteSize < maxPath := by
  by_cases hparts : path.parts = []
  · have hshort : ∀ anchor, (Path.mk anchor []).text.utf8ByteSize < maxPath := by
      intro anchor
      cases anchor <;> decide +kernel
    obtain ⟨anchor, parts⟩ := path
    obtain rfl : parts = [] := hparts
    exact hshort anchor
  · rw [text_child part hparts] at h
    simp only [String.utf8ByteSize_append] at h
    rw [Path.text]
    split
    · decide
    · rw [String.utf8ByteSize_append]
      omega

theorem locate_eq_ok_iff :
    locate disk path = .ok place ↔
      (∀ part ∈ path.parts, part.contains (Char.ofNat 0) = false) ∧ path.text.utf8ByteSize < maxPath ∧
        follow disk (start disk path.anchor) path.parts = .ok place := by
  rw [locate]
  split
  · rename_i hnul
    obtain ⟨part, hpart, hcontains⟩ := List.any_eq_true.mp hnul
    constructor
    · intro h
      cases h
    · rintro ⟨hnone, -⟩
      rw [hnone part hpart] at hcontains
      cases hcontains
  · rename_i hnul
    have hnone : ∀ part ∈ path.parts, part.contains (Char.ofNat 0) = false := by
      intro part hpart
      by_contra hcontains
      exact hnul (List.any_eq_true.mpr ⟨part, hpart, by simpa using hcontains⟩)
    split
    · rename_i hlong
      simp [Nat.not_lt.mpr hlong]
    · rename_i hlong
      exact ⟨fun h => ⟨hnone, Nat.lt_of_not_le hlong, h⟩, fun h => h.2.2⟩

/-- A path leads below where its parent leads, if there is a directory and the name and the text are short. -/
theorem locate_child_eq_ok_iff :
    locate disk (path.child part) = .ok target ↔
      ∃ middle, locate disk path = .ok middle ∧ disk.node? middle = some .directory ∧
        part.contains (Char.ofNat 0) = false ∧ part.utf8ByteSize ≤ maxName ∧
        (path.child part).text.utf8ByteSize < maxPath ∧ target = step middle part := by
  have hparts : (path.child part).parts = path.parts ++ [part] := rfl
  have hanchor : (path.child part).anchor = path.anchor := rfl
  simp only [locate_eq_ok_iff, hparts, hanchor, follow_append_eq_ok, List.forall_mem_append,
    List.forall_mem_singleton]
  constructor
  · rintro ⟨⟨hfirst, hlast⟩, htext, middle, hfollow, hdirectory, hname, htarget⟩
    exact ⟨middle, ⟨hfirst, utf8ByteSize_text_lt_of_child htext, hfollow⟩, hdirectory, hlast, hname, htext,
      htarget⟩
  · rintro ⟨middle, ⟨hfirst, -, hfollow⟩, hdirectory, hlast, hname, htext, htarget⟩
    exact ⟨⟨hfirst, hlast⟩, htext, middle, hfollow, hdirectory, hname, htarget⟩

theorem child_parent_of_endsInName (h : endsInName path = true) :
    path.parent.child path.name = path ∧ path.name ≠ ".." := by
  rw [endsInName] at h
  split at h
  · rename_i part hlast
    have hname : path.name = part := by rw [Path.name, hlast, Option.getD_some]
    refine ⟨?_, ?_⟩
    · rw [hname, Path.child, Path.parent]
      simp only
      rw [List.dropLast_append_getLast? part hlast]
    · rw [hname]
      simpa using h
  · cases h

theorem step_of_ne {part : String} (h : part ≠ "..") (place : Location) : step place part = place ++ [part] := by
  rw [step, if_neg h]

theorem run_makeOr_of_directory {otherwise : Path → Files Unit} (h : locate disk path = .ok place)
    (hdirectory : disk.node? place = some .directory) :
    (makeOr otherwise path).run disk = .ok () disk := by
  have hmake := run_makeDirectory path disk
  rw [h] at hmake
  simp only [hdirectory, Option.isNone_some, Bool.and_false, Bool.false_eq_true, if_false] at hmake
  have hfound : (isDirectory path).run disk = .ok true disk := by
    rw [isDirectory, EStateM.run_bind, EStateM.run_get]
    simp only [Files.lookup, h, hdirectory]
    rfl
  rw [makeOr, EStateM.run_bind, EStateM.run_get]
  simp only [hmake]
  rw [EStateM.run_bind, hfound]
  rfl

/-- A directory that is there already is made without a change. -/
theorem run_ensureDirectory_of_directory (h : locate disk path = .ok place)
    (hdirectory : disk.node? place = some .directory) : (ensureDirectory path).run disk = .ok () disk := by
  rw [run_ensureDirectory]
  cases disk.levels <;> exact run_makeOr_of_directory h hdirectory

end Gatekeeper.Files
