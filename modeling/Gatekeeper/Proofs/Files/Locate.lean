import Gatekeeper.Files.Access

/-! Where paths lead. There are no links, so a path that leads somewhere leads to the location that its
parts name, and it does so as long as every location on its way is a directory. -/

namespace Gatekeeper.Files

/-- The locations that are left behind when names are followed. -/
def passed : Location → List String → List Location
  | _, [] => []
  | place, part :: rest => place :: passed (step place part) rest

/-- The locations on the way of a path, without the one that it leads to. -/
def route (home : Location) (path : Path) : List Location :=
  passed (if path.isAbsolute then [] else home) path.parts

theorem start_eq (disk : Disk) (path : Path) :
    start disk path.anchor = if path.isAbsolute then [] else disk.home := by
  unfold start Path.isAbsolute
  cases path.anchor <;> rfl

theorem follow_cons_eq_ok {disk : Disk} {part : String} {rest : List String} {place target : Location} :
    follow disk place (part :: rest) = .ok target ↔
      disk.node? place = some .directory ∧ part.utf8ByteSize ≤ maxName ∧
        follow disk (step place part) rest = .ok target := by
  rw [follow]
  split
  · rename_i hnone
    simp [hnone]
  · rename_i hfile
    simp [hfile]
  · rename_i hdirectory
    split
    · rename_i hlong
      simp only [reduceCtorEq, false_iff]
      omega
    · rename_i hshort
      simp only [hdirectory, true_and]
      exact ⟨fun h => ⟨Nat.le_of_not_lt hshort, h⟩, And.right⟩

theorem foldl_step_of_follow {disk : Disk} {parts : List String} {place target : Location}
    (h : follow disk place parts = .ok target) : target = parts.foldl step place := by
  induction parts generalizing place with
  | nil =>
      cases h
      rfl
  | cons part rest ih => exact ih (follow_cons_eq_ok.mp h).2.2

theorem directory_of_follow {disk : Disk} {parts : List String} {place target : Location}
    (h : follow disk place parts = .ok target) :
    ∀ left ∈ passed place parts, disk.node? left = some .directory := by
  induction parts generalizing place with
  | nil => exact fun _ hleft => nomatch hleft
  | cons part rest ih =>
      obtain ⟨hplace, -, hrest⟩ := follow_cons_eq_ok.mp h
      intro left hleft
      rcases List.mem_cons.mp hleft with rfl | hleft
      · exact hplace
      · exact ih hrest left hleft

theorem follow_of_follow {disk later : Disk} {parts : List String} {place target : Location}
    (h : follow disk place parts = .ok target)
    (hlater : ∀ left ∈ passed place parts, later.node? left = some .directory) :
    follow later place parts = .ok target := by
  induction parts generalizing place with
  | nil =>
      cases h
      rfl
  | cons part rest ih =>
      obtain ⟨-, hpart, hrest⟩ := follow_cons_eq_ok.mp h
      refine follow_cons_eq_ok.mpr ⟨hlater place List.mem_cons_self, hpart, ih hrest ?_⟩
      exact fun left hleft => hlater left (List.mem_cons_of_mem place hleft)

theorem follow_of_locate {disk : Disk} {path : Path} {place : Location}
    (h : locate disk path = .ok place) : follow disk (start disk path.anchor) path.parts = .ok place := by
  unfold locate at h
  split at h
  · cases h
  · split at h
    · cases h
    · exact h

/-- A path that leads somewhere leads to the location that it names. -/
theorem eq_nominal_of_locate {disk : Disk} {path : Path} {place : Location}
    (h : locate disk path = .ok place) : place = nominal disk.home path := by
  rw [foldl_step_of_follow (follow_of_locate h), start_eq, nominal]

theorem directory_of_locate {disk : Disk} {path : Path} {place : Location}
    (h : locate disk path = .ok place) :
    ∀ left ∈ route disk.home path, disk.node? left = some .directory := by
  have hfollow := directory_of_follow (follow_of_locate h)
  rwa [start_eq] at hfollow

/-- A path goes on to lead where it led while the locations on its way are directories. -/
theorem locate_of_locate {disk later : Disk} {path : Path} {place : Location}
    (h : locate disk path = .ok place) (hhome : later.home = disk.home)
    (hlater : ∀ left ∈ route disk.home path, later.node? left = some .directory) :
    locate later path = .ok place := by
  have hfollow := follow_of_locate h
  have hstart : start later path.anchor = start disk path.anchor := by
    rw [start_eq, start_eq, hhome]
  unfold locate at h ⊢
  split at h
  · cases h
  · split at h
    · cases h
    · rename_i hnul hlong
      rw [if_neg hnul, if_neg hlong, hstart]
      apply follow_of_follow hfollow
      rwa [start_eq]

/-- The content of the file that a path leads to. -/
def content? (disk : Disk) (path : Path) : Option (List UInt8) :=
  match lookup disk path with
  | .ok (some (.file _ _ bytes)) => some bytes
  | _ => none

theorem content?_eq_some_iff {disk : Disk} {path : Path} {bytes : List UInt8} :
    content? disk path = some bytes ↔ ∃ place, locate disk path = .ok place ∧ disk.bytes? place = some bytes := by
  rw [content?, lookup]
  cases hlocate : locate disk path with
  | error cause => cases cause <;> simp
  | ok place =>
      simp only [Except.ok.injEq, exists_eq_left', Disk.bytes?]
      rcases disk.node? place with _ | _ | ⟨id, executable, other⟩ <;> simp

/-- A name that is too long for a file makes a look at it fail, where other ways that lead nowhere do not. -/
theorem lookup_of_maxName_lt {disk : Disk} {name : String} (hhome : disk.node? disk.home = some .directory)
    (hnul : name.contains (Char.ofNat 0) = false) (hlong : maxName < name.utf8ByteSize) :
    lookup disk ⟨.relative, [name]⟩ = .error .nameTooLong := by
  have hlocate : locate disk ⟨.relative, [name]⟩ = .error .nameTooLong := by
    rw [locate, if_neg (by simpa using hnul)]
    split
    · rfl
    · rw [start, follow, hhome]
      exact if_pos hlong
  rw [lookup, hlocate]

end Gatekeeper.Files
