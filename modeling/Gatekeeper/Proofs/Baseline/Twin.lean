import Gatekeeper.Proofs.Baseline.Room
import Gatekeeper.Proofs.Files.Twin

/-! The stored ratio on two disks that are alike. It is loaded as the same, and what is stored goes the same way on
both: the same new file is made, and moved over the old one, which may differ. -/

namespace Gatekeeper.Baseline

open Work Disk Files

variable {home : Location} {loose : Set Location} {one other : Disk} {path : Path}

theorem load_eq_of_alike (h : Alike home loose one other) (hplace : nominal home path ∉ loose) :
    load one path = load other path := by
  rw [load, load]
  rcases lookup_cases h hplace with ⟨cause, hone, hother⟩ | ⟨hone, hother⟩ | ⟨hone, hother⟩ |
    ⟨_, _, _, _, hone, hother⟩ <;> rw [hone, hother]

theorem isTaken_eq_of_alike (h : Alike home loose one other) (hplace : nominal home path ∉ loose) :
    isTaken one path = isTaken other path := by
  rw [isTaken, isTaken, h.home_eq, h.home_eq']
  rcases h.node_cases hplace with ⟨hone, hother⟩ | ⟨hone, hother⟩ | ⟨_, _, _, _, hone, hother⟩ <;>
    simp [hone, hother]

/-- Whether no name of a new file beside a path names a loose location. -/
def LeavesFree (home : Location) (loose : Set Location) (path : Path) : Prop :=
  ∀ n, nominal home (path.parent.child (temporaryName path.name n)) ∉ loose

theorem temporaryPath_eq_of_alike (h : Alike home loose one other) (hfree : LeavesFree home loose path) :
    temporaryPath one path = temporaryPath other path := by
  obtain ⟨n, -, hone, hn, hearlier⟩ := exists_temporaryPath one path
  obtain ⟨m, -, hother, hm, hearlier'⟩ := exists_temporaryPath other path
  rw [isTaken_eq_of_alike h (hfree n)] at hn
  rw [← isTaken_eq_of_alike h (hfree m)] at hm
  rcases Nat.lt_trichotomy n m with hlt | rfl | hlt
  · rw [hearlier' n hlt] at hn
    cases hn
  · rw [hone, hother]
  · rw [hearlier m hlt] at hm
    cases hm

theorem nominal_temporaryPath_notMem (hfree : LeavesFree home loose path) (disk : Disk) :
    nominal home (temporaryPath disk path) ∉ loose := by
  obtain ⟨n, -, hpath, -⟩ := exists_temporaryPath disk path
  rw [hpath]
  exact hfree n

theorem wayIsFirm_temporaryPath (h : IsFirm home loose (absolute home path.parent)) (disk : Disk) :
    WayIsFirm home loose (absolute home (temporaryPath disk path)) := by
  obtain ⟨n, -, hpath, -⟩ := exists_temporaryPath disk path
  rw [hpath, absolute_child _ _ (temporaryName_ne_up _ _)]
  exact wayIsFirm_child h _

theorem relates_createNew (bytes : List UInt8) (h : WayIsFirm home loose (absolute home path))
    (htarget : nominal home path ∉ loose) :
    Relates (Alike home loose) (Alike home loose)
      (fun target one other => AlikeWithFile home loose target one other ∧ target ∉ loose) (createNew path bytes) := by
  intro one other hstart
  rw [run_createNew, run_createNew, hstart.home_eq, hstart.home_eq', ← locate_eq_of_alike hstart h]
  cases locate one (absolute home path) with
  | error cause => exact .error hstart
  | ok _ =>
      rcases hstart.node_cases htarget with ⟨hone, hother⟩ | ⟨hone, hother⟩ | ⟨_, _, _, _, hone, hother⟩
      · simp only [hone, hother, Option.isSome_none, Bool.false_eq_true, if_false]
        exact .ok ⟨hstart.gains (gains_create _ _ _ _) (gains_create _ _ _ _) fun _ => ⟨rfl, rfl⟩, htarget⟩
      · simp only [hone, hother, Option.isSome_some, if_true]
        exact .error hstart
      · simp only [hone, hother, Option.isSome_some, if_true]
        exact .error hstart

/-- A file is moved over another one whether there is an old one or not. -/
theorem relates_replace {source : Location} (hsource : source ∉ loose) (h : WayIsFirm home loose path) :
    Relates (AlikeWithFile home loose source) (Alike home loose) (fun _ => Alike home loose)
      (Files.replace source path) := by
  rintro one other ⟨halike, hfile, -⟩
  have hsame := locate_eq_of_alike halike h
  cases hlocate : locate one path with
  | error cause =>
      rw [Files.replace, EStateM.run_bind, EStateM.run_bind, run_resolve, run_resolve, ← hsame, hlocate]
      exact .error halike
  | ok place =>
      by_cases hmoves : endsInName path = true ∧ one.node? place ≠ some .directory
      · obtain ⟨hname, hplace⟩ := hmoves
        have hplace' := hplace ∘ (halike.directory_iff place).mpr
        rcases halike.node_cases hsource with ⟨hone, -⟩ | ⟨hone, -⟩ | ⟨_, _, _, _, hone, hother⟩
        · simp [hone, HoldsFile] at hfile
        · simp [hone, HoldsFile] at hfile
        · rw [run_replace_of_locate hlocate hname hplace hone,
            run_replace_of_locate (hsame ▸ hlocate) hname hplace' hother]
          exact .ok ((halike.erase source).put (fun _ => rfl) fun _ => by simp)
      · rw [Files.replace, EStateM.run_bind, EStateM.run_bind, run_resolve, run_resolve, ← hsame, hlocate]
        cases hname : endsInName path with
        | false => exact .error halike
        | true =>
            have hplace : one.node? place = some .directory := by simpa [hname] using hmoves
            simp only [Bool.not_true, Bool.false_eq_true, if_false, EStateM.run_bind, EStateM.run_get, hplace,
              (halike.directory_iff place).mp hplace]
            exact .error halike

theorem relates_moveNew {temporary : Location} (htemporary : temporary ∉ loose) (h : WayIsFirm home loose path) :
    Relates (AlikeWithFile home loose temporary) (Alike home loose) (fun _ => Alike home loose)
      (moveNew temporary path) := by
  intro one other hstart
  have hmoved := relates_replace htemporary h one other hstart
  rw [moveNew, run_tryCatch, run_tryCatch]
  generalize (Files.replace temporary path).run one = first, (Files.replace temporary path).run other = second
    at hmoved ⊢
  cases hmoved with
  | ok hmoved => exact .ok hmoved
  | error hfailed => exact .error (hfailed.erase temporary)

/-- What is put at a path, all or nothing, is put there on both disks, and the old file there may differ. -/
theorem respects_replaceContent (bytes : List UInt8) (h : IsFirm home loose path.parent)
    (habove : IsFirm home loose (absolute home path.parent)) (hfree : LeavesFree home loose path) :
    Respects (Alike home loose) (replaceContent path bytes) := by
  refine Respects.bind (respects_ensureDirectory h) fun _ => ?_
  refine Relates.getBind fun one other hstart => ?_
  rw [← temporaryPath_eq_of_alike hstart hfree]
  have hcreate := relates_createNew bytes (wayIsFirm_temporaryPath habove one) (nominal_temporaryPath_notMem hfree one)
  refine Relates.bind hcreate (fun temporary => ?_) one other hstart
  intro one other hcreated
  exact relates_moveNew hcreated.2 (wayIsFirm_of_parent h) one other hcreated.1

theorem save_of_alike (value : Numeral) (h : IsFirm home loose path.parent)
    (habove : IsFirm home loose (absolute home path.parent)) (hfree : LeavesFree home loose path)
    (halike : Alike home loose one other) :
    (save one path value).1 = (save other path value).1 ∧
      Alike home loose (save one path value).2 (save other path value).2 := by
  rw [save_eq, save_eq]
  cases value.inUnit? with
  | none => exact ⟨rfl, halike⟩
  | some ratio =>
      have hstored := respects_replaceContent (toBytes ratio) h habove hfree one other halike
      simp only [store]
      generalize (replaceContent path (toBytes ratio)).run one = first,
        (replaceContent path (toBytes ratio)).run other = second at hstored ⊢
      cases hstored with
      | ok hstored => exact ⟨rfl, hstored⟩
      | error hstored => exact ⟨rfl, hstored⟩

end Gatekeeper.Baseline
