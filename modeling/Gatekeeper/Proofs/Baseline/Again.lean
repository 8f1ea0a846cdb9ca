import Gatekeeper.Proofs.Baseline.Twin

/-! Storing again. Where a ratio was stored there is room to store the next one: the directories are there, the new
file was moved away, and so its name is free once more. -/

namespace Gatekeeper.Baseline

open Work Disk Files

variable {disk after : Disk} {path : Path} {bytes : List UInt8}

theorem temporaryName_ne (name : String) (n : Nat) : temporaryName name n ≠ name := by
  intro h
  have hlengths := congrArg (List.length ∘ String.toList) h
  simp only [Function.comp_apply, toList_temporaryName, List.length_cons, List.length_append] at hlengths
  omega

/-- The new files beside a file have other names than it. -/
theorem leavesFree_nominal {home : Location} (h : endsInName path = true) :
    LeavesFree home {nominal home path} path := by
  obtain ⟨hpath, hup⟩ := child_parent_of_endsInName h
  intro n hsame
  rw [Set.mem_singleton_iff, ← hpath, Path.parent_child, Path.name_child, nominal_child _ _ hup,
    nominal_child _ _ (temporaryName_ne_up _ _)] at hsame
  exact temporaryName_ne path.name n (List.singleton_inj.mp (List.append_cancel_left hsame))

/-- The absolute path of the directory of a file does not pass the file. -/
theorem isFirm_absolute_parent {home : Location} (h : endsInName path = true) :
    IsFirm home {nominal home path} (absolute home path.parent) := by
  obtain ⟨hpath, hup⟩ := child_parent_of_endsInName h
  refine isFirm_of_length_lt (isAbsolute_absolute home path.parent) fun left hleft => ?_
  rw [Set.mem_singleton_iff.mp hleft, ← hpath, Path.parent_child, nominal_child _ _ hup, List.length_append]
  exact Nat.lt_succ_self _

/-- After a content was put at a path, the next one finds its place and the room for a new file. -/
theorem hasRoom_of_replaceContent_eq_ok (h : (replaceContent path bytes).run disk = .ok () after) :
    HasPlace after path ∧ HasRoom after path := by
  obtain ⟨made, -, ⟨temporary, htemporary⟩, hfree, hmoved⟩ := steps_of_replaceContent_eq_ok h
  obtain ⟨target, hlocate, hname, hlevels, hdirectory, hhome, hnode, hother⟩ := of_moveNew_eq_ok hfree hmoved
  have hplace : HasPlace after path := ⟨hname, target, hlocate, by simp [hnode]⟩
  have htarget : target = nominal made.home path := hhome ▸ eq_nominal_of_locate hlocate
  have halike : Alike made.home {nominal made.home path} made after := by
    rw [← htarget]
    refine ⟨rfl, hhome, hlevels.symm, fun place hne => ?_, fun place hsame => ?_, fun place hsame => ?_⟩
    · rw [seen?, seen?, hother place hne]
    · rwa [Set.mem_singleton_iff.mp hsame]
    · rw [Set.mem_singleton_iff.mp hsame, hnode]
      simp
  refine ⟨hplace, (locate_temporaryPath_iff hplace).mp ⟨temporary, ?_⟩⟩
  rw [← temporaryPath_eq_of_alike halike (leavesFree_nominal hname), hhome, ← locate_eq_ok_iff_of_alike halike]
  exact htemporary

/-- A ratio that was stored can be stored again. -/
theorem exists_save_of_save_eq_ok {ratio : Decimal} (h : save disk path (.finite ratio) = (.ok ratio, after)) :
    ∃ later, save after path (.finite ratio) = (.ok ratio, later) := by
  have hunit := (of_save_eq_ok h).1
  have hin := (Numeral.inUnit?_eq_some_iff.mp hunit).2
  rw [save_eq, hunit] at h
  simp only [store] at h
  split at h
  · rename_i hstored
    cases h
    obtain ⟨hplace, hroom⟩ := hasRoom_of_replaceContent_eq_ok hstored
    exact (save_eq_ok_iff hplace ratio).mpr ⟨hin, hroom⟩
  · cases h

end Gatekeeper.Baseline
