import Gatekeeper.Baseline
import Gatekeeper.Proofs.Files.Frame

/-! Storing a ratio is all or nothing. When it succeeds, its file holds the ratio's text and a line end;
when it fails, every location holds what it held. Either way nothing else is on the disk but directories
that were missing above the file, and the new file that carried the text is gone. -/

namespace Gatekeeper.Baseline

open Work Disk Files

variable {R : Option Node → Option Node → Prop} [Allowance R] {home place : Location}

/-- A new file is made where its absolute path leads, if nothing stands there. -/
theorem run_createNew (path : Path) (bytes : List UInt8) (disk : Disk) :
    (createNew path bytes).run disk = match locate disk (absolute disk.home path) with
      | .ok _ =>
        if (disk.node? (nominal disk.home path)).isSome then .error .alreadyExists disk
        else .ok (nominal disk.home path) (disk.create (nominal disk.home path) false bytes)
      | .error cause => .error cause disk := by
  rw [createNew, EStateM.run_bind, run_resolveAbsolute]
  cases locate disk (absolute disk.home path) with
  | error cause => rfl
  | ok _ =>
      simp only [EStateM.run_bind, EStateM.run_get]
      cases disk.node? (nominal disk.home path) <;> rfl

/-- A file can be moved over what is no directory, by a path that ends in a name. -/
theorem of_replace_eq_ok {source : Location} {path : Path} {disk after : Disk}
    (h : (Files.replace source path).run disk = .ok () after) :
    ∃ target node, endsInName path = true ∧ locate disk path = .ok target ∧ disk.node? source = some node ∧
      disk.node? target ≠ some .directory ∧ after = (disk.erase source).put target node := by
  rw [Files.replace, EStateM.run_bind, run_resolve] at h
  cases hlocate : locate disk path with
  | error cause =>
      rw [hlocate] at h
      cases h
  | ok target =>
      rw [hlocate] at h
      simp only at h
      split at h
      · cases h
      · rename_i hname
        simp only [EStateM.run_bind, EStateM.run_get] at h
        split at h
        · cases h
        · rename_i node hsource hdirectory
          cases h
          exact ⟨target, node, by simpa using hname, rfl, hsource, hdirectory, rfl⟩
        · cases h

theorem of_replace_eq_error {source : Location} {path : Path} {disk after : Disk} {cause : FileError}
    (h : (Files.replace source path).run disk = .error cause after) : after = disk := by
  rw [Files.replace, EStateM.run_bind, run_resolve] at h
  cases hlocate : locate disk path with
  | error cause =>
      rw [hlocate] at h
      cases h
      rfl
  | ok target =>
      rw [hlocate] at h
      simp only at h
      split at h
      · cases h
        rfl
      · simp only [EStateM.run_bind, EStateM.run_get] at h
        split at h
        · cases h
          rfl
        · cases h
        · cases h
          rfl

theorem node?_erase_create {temporary : Location} {disk : Disk}
    (hfree : disk.node? temporary = none) (bytes : List UInt8) (other : Location) :
    ((disk.create temporary false bytes).erase temporary).node? other = disk.node? other := by
  by_cases hother : other = temporary
  · subst hother
    rw [node?_erase_self, hfree]
  · rw [node?_erase_of_ne hother, node?_create_of_ne hother]

/-- A new file that was moved to its place is what stands there, and all else is as it was before. -/
theorem of_moveNew_eq_ok {temporary : Location} {path : Path} {bytes : List UInt8} {disk after : Disk}
    (hfree : disk.node? temporary = none)
    (h : (moveNew temporary path).run (disk.create temporary false bytes) = .ok () after) :
    ∃ target, locate after path = .ok target ∧ endsInName path = true ∧ after.levels = disk.levels ∧
      disk.node? target ≠ some .directory ∧ after.home = disk.home ∧
      after.node? target = some (.file disk.nextId false bytes) ∧
      ∀ other, other ≠ target → after.node? other = disk.node? other := by
  rw [moveNew, run_tryCatch] at h
  cases hreplace : (Files.replace temporary path).run (disk.create temporary false bytes) with
  | error cause state =>
      rw [hreplace] at h
      cases h
  | ok _ state =>
      rw [hreplace] at h
      cases h
      obtain ⟨target, node, hname, hlocate, hnode, hdirectory, rfl⟩ := of_replace_eq_ok hreplace
      rw [node?_create_self] at hnode
      cases hnode
      refine ⟨target, ?_, hname, rfl, ?_, rfl, node?_put_self _ _ _, ?_⟩
      · refine locate_of_locate hlocate rfl fun left hleft => ?_
        -- a location on the way is a directory, so it is neither the new file nor its place
        have hleft := directory_of_locate hlocate left hleft
        have htarget : left ≠ target := fun heq => hdirectory (heq ▸ hleft)
        have htemporary : left ≠ temporary := by
          rintro rfl
          rw [node?_create_self] at hleft
          cases hleft
        rw [node?_put_of_ne htarget, node?_erase_of_ne htemporary, hleft]
      · by_cases htarget : target = temporary
        · rw [htarget, hfree]
          simp
        · rwa [node?_create_of_ne htarget] at hdirectory
      · intro other hother
        rw [node?_put_of_ne hother, node?_erase_create hfree]

theorem of_moveNew_eq_error {temporary : Location} {path : Path} {bytes : List UInt8} {disk after : Disk}
    {cause : FileError} (hfree : disk.node? temporary = none)
    (h : (moveNew temporary path).run (disk.create temporary false bytes) = .error cause after) :
    after.home = disk.home ∧ ∀ other, after.node? other = disk.node? other := by
  rw [moveNew, run_tryCatch] at h
  cases hreplace : (Files.replace temporary path).run (disk.create temporary false bytes) with
  | ok _ state =>
      rw [hreplace] at h
      cases h
  | error cause state =>
      rw [hreplace] at h
      cases h
      rw [of_replace_eq_error hreplace]
      exact ⟨rfl, node?_erase_create hfree bytes⟩

/-- Where the new file for a content comes to stand. -/
def temporaryPlace (disk : Disk) (path : Path) : Location :=
  nominal disk.home (temporaryPath disk path)

/-- A new content that is put at its place goes through a new file, once the directories above are made. -/
theorem steps_of_replaceContent_eq_ok {path : Path} {bytes : List UInt8} {disk after : Disk}
    (h : (replaceContent path bytes).run disk = .ok () after) :
    ∃ made, (ensureDirectory path.parent).run disk = .ok () made ∧
      (∃ target, locate made (absolute made.home (temporaryPath made path)) = .ok target) ∧
      made.node? (temporaryPlace made path) = none ∧
      (moveNew (temporaryPlace made path) path).run (made.create (temporaryPlace made path) false bytes) =
        .ok () after := by
  obtain ⟨_, made, hmade, h⟩ := of_bind_eq_ok h
  rw [EStateM.run_bind, EStateM.run_get] at h
  obtain ⟨temporary, created, hcreated, h⟩ := of_bind_eq_ok h
  rw [run_createNew] at hcreated
  split at hcreated
  · rename_i target htarget
    split at hcreated
    · cases hcreated
    · rename_i hfree
      cases hcreated
      exact ⟨made, hmade, ⟨target, htarget⟩, Option.not_isSome_iff_eq_none.mp hfree, h⟩
  · cases hcreated

/-- A new content is put at its place, and all else is as the making of directories has left it. -/
theorem of_replaceContent_eq_ok {path : Path} {bytes : List UInt8} {disk after : Disk}
    (h : (replaceContent path bytes).run disk = .ok () after) :
    ∃ target id, locate after path = .ok target ∧
      (finish (ensureDirectory path.parent) disk).node? target ≠ some .directory ∧
      after.home = (finish (ensureDirectory path.parent) disk).home ∧
      after.node? target = some (.file id false bytes) ∧
      ∀ other, other ≠ target →
        after.node? other = (finish (ensureDirectory path.parent) disk).node? other := by
  obtain ⟨made, hmade, -, hfree, hmoved⟩ := steps_of_replaceContent_eq_ok h
  rw [finish_of_ok hmade]
  obtain ⟨target, hlocate, -, -, hafter⟩ := of_moveNew_eq_ok hfree hmoved
  exact ⟨target, made.nextId, hlocate, hafter⟩

theorem of_replaceContent_eq_error {path : Path} {bytes : List UInt8} {disk after : Disk}
    {cause : FileError} (h : (replaceContent path bytes).run disk = .error cause after) :
    after.home = (finish (ensureDirectory path.parent) disk).home ∧
      ∀ other, after.node? other = (finish (ensureDirectory path.parent) disk).node? other := by
  rw [replaceContent, EStateM.run_bind] at h
  cases hmade : (ensureDirectory path.parent).run disk with
  | error cause made =>
      rw [hmade] at h
      cases h
      rw [finish_of_error hmade]
      exact ⟨rfl, fun _ => rfl⟩
  | ok _ made =>
      rw [hmade] at h
      rw [finish_of_ok hmade]
      simp only [EStateM.run_bind, EStateM.run_get, run_createNew] at h
      cases hlocate : locate made (absolute made.home (temporaryPath made path)) with
      | error cause =>
          rw [hlocate] at h
          cases h
          exact ⟨rfl, fun _ => rfl⟩
      | ok _ =>
          rw [hlocate] at h
          simp only at h
          by_cases htaken : (made.node? (nominal made.home (temporaryPath made path))).isSome
          · rw [if_pos htaken] at h
            cases h
            exact ⟨rfl, fun _ => rfl⟩
          · rw [if_neg htaken] at h
            exact of_moveNew_eq_error (Option.not_isSome_iff_eq_none.mp htaken) h

/-- Storing is aimed at the location that its path names. -/
theorem keeps_replaceContent {path : Path} (bytes : List UInt8) (h : place ≠ nominal home path) :
    Keeps (Drifts R home place) (replaceContent path bytes) := by
  intro disk hhome
  have hmade : Drifts R home place disk (finish (ensureDirectory path.parent) disk) :=
    keeps_ensureDirectory path.parent disk
  cases hrun : (replaceContent path bytes).run disk with
  | ok _ after =>
      obtain ⟨target, id, hlocate, -, hafter, -, hother⟩ := of_replaceContent_eq_ok hrun
      have hplace : place ≠ target := by
        rwa [eq_nominal_of_locate hlocate, hafter, (hmade hhome).1]
      rw [finish_of_ok hrun]
      exact ⟨hafter.trans (hmade hhome).1, (hother place hplace).symm ▸ (hmade hhome).2⟩
  | error cause after =>
      obtain ⟨hafter, hother⟩ := of_replaceContent_eq_error hrun
      rw [finish_of_error hrun]
      exact ⟨hafter.trans (hmade hhome).1, (hother place).symm ▸ (hmade hhome).2⟩

/-- Storing that fails changes no file at all. -/
theorem drifts_of_replaceContent_eq_error {path : Path} {bytes : List UInt8} {disk after : Disk}
    {cause : FileError} (h : (replaceContent path bytes).run disk = .error cause after) :
    Drifts R home place disk after := by
  intro hhome
  have hmade : Drifts R home place disk (finish (ensureDirectory path.parent) disk) :=
    keeps_ensureDirectory path.parent disk
  obtain ⟨hafter, hother⟩ := of_replaceContent_eq_error h
  exact ⟨hafter.trans (hmade hhome).1, (hother place).symm ▸ (hmade hhome).2⟩

theorem save_eq (disk : Disk) (path : Path) (value : Numeral) :
    save disk path value = match value.inUnit? with
      | none => (.error (.outsideUnit value), disk)
      | some ratio => match (store path ratio).run disk with
        | .ok _ disk => (.ok ratio, disk)
        | .error cause disk => (.error (.file cause), disk) :=
  rfl

/-- The file at the location that a path names holds the text of a ratio, and the path leads there. -/
def Holds (disk : Disk) (path : Path) (ratio : Decimal) : Prop :=
  locate disk path = .ok (nominal disk.home path) ∧
    disk.bytes? (nominal disk.home path) = some (toBytes ratio)

/-- A ratio that was stored is in the unit interval and stands in its file. -/
theorem of_save_eq_ok {disk after : Disk} {path : Path} {value : Numeral} {ratio : Decimal}
    (h : save disk path value = (.ok ratio, after)) :
    value.inUnit? = some ratio ∧ after.home = disk.home ∧ Holds after path ratio := by
  rw [save_eq] at h
  cases hunit : value.inUnit? with
  | none =>
      rw [hunit] at h
      cases h
  | some stored =>
      rw [hunit] at h
      simp only at h
      cases hrun : (store path stored).run disk with
      | error cause later =>
          rw [hrun] at h
          cases h
      | ok _ later =>
          rw [hrun] at h
          cases h
          obtain ⟨target, id, hlocate, -, hhome, hnode, -⟩ := of_replaceContent_eq_ok hrun
          have hmade : Drifts Stays disk.home [] disk (finish (ensureDirectory path.parent) disk) :=
            keeps_ensureDirectory path.parent disk
          have htarget := eq_nominal_of_locate hlocate
          refine ⟨rfl, hhome.trans (hmade rfl).1, htarget ▸ hlocate, ?_⟩
          rw [← htarget, bytes?, hnode]

theorem drifts_save {path : Path} {value : Numeral} (h : place ≠ nominal home path) (disk : Disk) :
    Drifts R home place disk (save disk path value).2 := by
  rw [save_eq]
  split
  · exact Std.Refl.refl disk
  · rename_i ratio _
    split
    · rename_i hrun
      exact (keeps_replaceContent (toBytes ratio) h).ofOk hrun
    · rename_i hrun
      exact (keeps_replaceContent (toBytes ratio) h).ofError hrun

/-- A ratio that was not stored has changed no file. -/
theorem drifts_of_save_eq_error {disk after : Disk} {path : Path} {value : Numeral} {cause : SaveError}
    (h : save disk path value = (.error cause, after)) : Drifts R home place disk after := by
  rw [save_eq] at h
  split at h
  · cases h
    exact Std.Refl.refl disk
  · split at h
    · cases h
    · rename_i hrun
      cases h
      exact drifts_of_replaceContent_eq_error hrun

end Gatekeeper.Baseline
