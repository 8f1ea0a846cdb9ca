import Gatekeeper.Proofs.Baseline.Extent
import Gatekeeper.Proofs.Baseline.Room

/-! Storing is all or nothing on every disk, whatever stands at a path or on its way. A ratio that was stored is in its
file, one that was not has left every file as it was, and in both cases nothing else is on the disk but directories
that were missing above the file. Which of the two it is shows once these directories are made. -/

namespace Gatekeeper

open Work Files

namespace Disk

variable {path : Path} {home place : Location} {before after : Disk}

/-- Where nothing but a directory was made, files are what they were. -/
theorem bytes?_eq_of_makes (h : after.node? place = before.node? place ∨
    Makes path home place (before.node? place) (after.node? place)) : after.bytes? place = before.bytes? place := by
  rcases h with hsame | ⟨hnone, hdirectory, -⟩
  · rw [bytes?, hsame, ← bytes?]
  · rw [bytes?, bytes?, hnone, hdirectory]

/-- A file does not come to stand in the place of a directory. -/
theorem OnlyStores.ne_directory {bytes : List UInt8} (h : OnlyStores path before after)
    (hbytes : after.bytes? place = some bytes) : before.node? place ≠ some .directory := by
  intro hdirectory
  rcases h.node place with hsame | ⟨hnone, -⟩ | ⟨-, -, hnot⟩
  · rw [bytes?, hsame, hdirectory] at hbytes
    cases hbytes
  · rw [hdirectory] at hnone
    cases hnone
  · exact hnot hdirectory

end Disk

namespace Baseline

variable {path : Path} {bytes : List UInt8} {disk after : Disk}

theorem onlyMakes_of_replaceContent_eq_error {cause : FileError}
    (h : (replaceContent path bytes).run disk = .error cause after) : disk.OnlyMakes path.parent after := by
  have hmade : disk.OnlyMakes path.parent (finish (ensureDirectory path.parent) disk) :=
    onlyMakes_ensureDirectory path.parent disk
  obtain ⟨hhome, hother⟩ := of_replaceContent_eq_error h
  exact ⟨hhome.trans hmade.home, fun place => hother place ▸ hmade.node place⟩

/-- Storing that fails has made missing directories at most, and none when the number is no ratio. -/
theorem onlyMakes_of_save_eq_error {value : Numeral} {cause : SaveError}
    (h : save disk path value = (.error cause, after)) :
    disk.OnlyMakes path.parent after ∧ (value.inUnit? = none → after = disk) := by
  rw [save_eq] at h
  cases hunit : value.inUnit? with
  | none =>
      rw [hunit] at h
      cases h
      exact ⟨Std.Refl.refl disk, fun _ => rfl⟩
  | some ratio =>
      rw [hunit] at h
      simp only at h
      refine ⟨?_, nofun⟩
      split at h
      · cases h
      · rename_i hrun
        cases h
        exact onlyMakes_of_replaceContent_eq_error hrun

/-- A new content that was put at a path had a place there, and room beside it, as soon as the directories above it
were made. -/
theorem hasPlace_of_replaceContent_eq_ok (h : (replaceContent path bytes).run disk = .ok () after) :
    ∃ made, (ensureDirectory path.parent).run disk = .ok () made ∧ HasPlace made path ∧ HasRoom made path := by
  obtain ⟨made, hmade, htemporary, hfree, hmoved⟩ := steps_of_replaceContent_eq_ok h
  obtain ⟨target, hlocate, hname, -, hdirectory, hhome, hfile, hother⟩ := of_moveNew_eq_ok hfree hmoved
  have hplace : HasPlace made path := by
    refine ⟨hname, target, locate_of_locate hlocate hhome.symm fun left hleft => ?_, hdirectory⟩
    -- the way to the new file leads through directories, which were there before it
    have hleft := directory_of_locate hlocate left hleft
    have hne : left ≠ target := by
      rintro rfl
      rw [hfile] at hleft
      cases hleft
    rw [← hother left hne, hleft]
  exact ⟨made, hmade, hplace, (locate_temporaryPath_iff hplace).mp htemporary⟩

/-- A new content is put at a path just when the directories above it can be made, and it then has a place there and
room beside it. -/
theorem exists_replaceContent_iff (path : Path) (bytes : List UInt8) (disk : Disk) :
    (∃ after, (replaceContent path bytes).run disk = .ok () after) ↔
      ∃ made, (ensureDirectory path.parent).run disk = .ok () made ∧ HasPlace made path ∧ HasRoom made path := by
  refine ⟨fun ⟨after, h⟩ => hasPlace_of_replaceContent_eq_ok h, fun ⟨made, hmade, hplace, hroom⟩ => ?_⟩
  obtain ⟨after, hafter⟩ := (run_replaceContent_iff hplace bytes).mpr hroom
  obtain ⟨middle, hmiddle, hdirectory, -⟩ := parent_of_hasPlace hplace
  refine ⟨after, ?_⟩
  -- where the directories are made already, making them once more changes nothing
  rw [replaceContent, run_bind_of_ok (run_ensureDirectory_of_directory hmiddle hdirectory)] at hafter
  rw [replaceContent, run_bind_of_ok hmade, hafter]

theorem exists_save_iff (disk : Disk) (path : Path) (value : Numeral) :
    (∃ ratio after, save disk path value = (.ok ratio, after)) ↔
      (∃ ratio, value.inUnit? = some ratio) ∧
        ∃ made, (ensureDirectory path.parent).run disk = .ok () made ∧ HasPlace made path ∧ HasRoom made path := by
  rw [save_eq]
  cases value.inUnit? with
  | none => simp
  | some ratio =>
      rw [← exists_replaceContent_iff path (toBytes ratio) disk]
      simp only [store]
      cases (replaceContent path (toBytes ratio)).run disk <;> simp

/-- Storing a number at a path is all or nothing. When it returns, the number is a ratio in the unit interval whose
text with a line end after it is in the file at the path; when it fails, no file is there or gone or changed. Either
way everything else is as it was, but for directories that were missing above the path, and not even these are made
for a number that is no such ratio. It returns just when the number is one, and the path, once the directories above
it are made, ends in a name, leads to no directory, and leaves room for the name of a new file beside it. -/
theorem save_allOrNothing (disk : Disk) (path : Path) (value : Numeral) :
    (match save disk path value with
      | (.ok ratio, after) =>
        value = .finite ratio ∧ 0 ≤ ratio.value ∧ ratio.value ≤ 1 ∧
          ∃ place, locate after path = .ok place ∧
            after.bytes? place = some (Text.encodeUtf8 (ratio.text ++ "\n")) ∧
            disk.node? place ≠ some .directory ∧
            ∀ other, other ≠ place → after.bytes? other = disk.bytes? other ∧
              (after.node? other = disk.node? other ∨
                Disk.Makes path.parent disk.home other (disk.node? other) (after.node? other))
      | (.error _, after) =>
        (∀ place, after.bytes? place = disk.bytes? place) ∧ disk.OnlyMakes path.parent after ∧
          ((∀ ratio, value = .finite ratio → ¬(0 ≤ ratio.value ∧ ratio.value ≤ 1)) → after = disk)) ∧
    ((∃ ratio after, save disk path value = (.ok ratio, after)) ↔
      (∃ ratio, value = .finite ratio ∧ 0 ≤ ratio.value ∧ ratio.value ≤ 1) ∧
        ∃ made, (ensureDirectory path.parent).run disk = .ok () made ∧ HasPlace made path ∧
          HasRoom made path) := by
  have hratio : ∀ ratio, value.inUnit? = some ratio ↔ value = .finite ratio ∧ 0 ≤ ratio.value ∧ ratio.value ≤ 1 := by
    intro ratio
    rw [Numeral.inUnit?_eq_some_iff, Decimal.inUnit_iff]
  constructor
  · rcases hsave : save disk path value with ⟨_ | ratio, after⟩
    · obtain ⟨hmakes, hsame⟩ := onlyMakes_of_save_eq_error hsave
      refine ⟨fun place => Disk.bytes?_eq_of_makes (hmakes.node place), hmakes, fun houtside => hsame ?_⟩
      rw [Option.eq_none_iff_forall_ne_some]
      intro ratio hunit
      obtain ⟨hvalue, hrange⟩ := (hratio ratio).mp hunit
      exact houtside ratio hvalue hrange
    · obtain ⟨hunit, hhome, hlocate, hbytes⟩ := of_save_eq_ok hsave
      obtain ⟨hvalue, hlow, hhigh⟩ := (hratio ratio).mp hunit
      have hstores : disk.OnlyStores path after := by
        have hreach := onlyStores_save disk path value
        rwa [hsave] at hreach
      refine ⟨hvalue, hlow, hhigh, _, hlocate, hbytes, hstores.ne_directory hbytes, fun other hother => ?_⟩
      have hnode : after.node? other = disk.node? other ∨
          Disk.Makes path.parent disk.home other (disk.node? other) (after.node? other) := by
        rcases hstores.node other with hsame | hmade | ⟨hplace, -⟩
        · exact .inl hsame
        · exact .inr hmade
        · exact absurd (hhome ▸ hplace) hother
      exact ⟨Disk.bytes?_eq_of_makes hnode, hnode⟩
  · simp only [exists_save_iff, hratio]

end Baseline

end Gatekeeper
