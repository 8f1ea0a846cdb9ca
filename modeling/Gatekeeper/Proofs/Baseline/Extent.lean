import Gatekeeper.Proofs.Baseline.Store

/-! How far the storing of a ratio reaches. Whether it succeeds or fails, all that it leaves on the disk is the file
that its path names, and directories on the way of that path where nothing stood. -/

namespace Gatekeeper

open Work Files

namespace Disk

/-- A directory has come to stand on the way of a path, where nothing stood. -/
def Makes (path : Path) (home place : Location) (before after : Option Node) : Prop :=
  before = none ∧ after = some .directory ∧ ∃ above : Path, above.IsAbove path ∧ place = nominal home above

/-- A file has come to stand where a path leads, and no directory was lost by it. -/
def Places (path : Path) (home place : Location) (before after : Option Node) : Prop :=
  place = nominal home path ∧ HoldsFile after ∧ before ≠ some .directory

/-- Nothing but directories on the way of a path was made. -/
structure OnlyMakes (path : Path) (before after : Disk) : Prop where
  home : after.home = before.home
  node (place : Location) : after.node? place = before.node? place ∨
    Makes path before.home place (before.node? place) (after.node? place)

/-- Nothing but the file where a path leads has changed, and nothing but missing directories on the way there was
made. -/
structure OnlyStores (path : Path) (before after : Disk) : Prop where
  home : after.home = before.home
  node (place : Location) : after.node? place = before.node? place ∨
    Makes path.parent before.home place (before.node? place) (after.node? place) ∨
    Places path before.home place (before.node? place) (after.node? place)

variable {path : Path}

instance : Std.Refl (OnlyMakes path) where
  refl _ := ⟨rfl, fun _ => .inl rfl⟩

instance : IsTrans Disk (OnlyMakes path) where
  trans first second third hfirst hsecond := by
    refine ⟨hsecond.home.trans hfirst.home, fun place => ?_⟩
    rcases hsecond.node place with hsame | ⟨hnone, hmade, hplace⟩
    · rw [hsame]
      exact hfirst.node place
    · rcases hfirst.node place with hsame | ⟨-, hdirectory, -⟩
      · rw [← hsame, ← hfirst.home]
        exact .inr ⟨hnone, hmade, hplace⟩
      · rw [hdirectory] at hnone
        cases hnone

instance : Std.Refl (OnlyStores path) where
  refl _ := ⟨rfl, fun _ => .inl rfl⟩

instance : IsTrans Disk (OnlyStores path) where
  trans first second third hfirst hsecond := by
    refine ⟨hsecond.home.trans hfirst.home, fun place => ?_⟩
    rcases hsecond.node place with hsame | ⟨hnone, hmade, hplace⟩ | ⟨hplace, hfile, hnot⟩
    · rw [hsame]
      exact hfirst.node place
    · rw [hfirst.home] at hplace
      rcases hfirst.node place with hsame | ⟨-, hdirectory, -⟩ | ⟨-, hheld, -⟩
      · exact .inr (.inl ⟨hsame ▸ hnone, hmade, hplace⟩)
      · rw [hdirectory] at hnone
        cases hnone
      · rw [hnone] at hheld
        cases hheld
    · rw [hfirst.home] at hplace
      rcases hfirst.node place with hsame | ⟨-, hdirectory, -⟩ | ⟨-, -, hbefore⟩
      · exact .inr (.inr ⟨hplace, hfile, hsame ▸ hnot⟩)
      · exact absurd hdirectory hnot
      · exact .inr (.inr ⟨hplace, hfile, hbefore⟩)

theorem OnlyMakes.onlyStores {before after : Disk} (h : OnlyMakes path.parent before after) :
    OnlyStores path before after :=
  ⟨h.home, fun place => (h.node place).imp_right .inl⟩

/-- A file that stood anywhere but where the path leads keeps its content. -/
theorem OnlyStores.bytes?_eq {before after : Disk} (h : OnlyStores path before after) {place : Location}
    {bytes : List UInt8} (hplace : place ≠ nominal before.home path) (hbytes : before.bytes? place = some bytes) :
    after.bytes? place = some bytes := by
  rcases h.node place with hsame | ⟨hnone, -, -⟩ | ⟨hother, -, -⟩
  · rw [bytes?, hsame, ← bytes?, hbytes]
  · rw [bytes?, hnone] at hbytes
    cases hbytes
  · exact absurd hother hplace

end Disk

namespace Files

theorem onlyMakes_makeDirectory {above path : Path} (h : above.IsAbove path) :
    Keeps (Disk.OnlyMakes path) (makeDirectory above) := by
  refine keeps_makeDirectory_of fun disk target hlocate hnone => ⟨rfl, fun place => ?_⟩
  by_cases hplace : place = target
  · subst hplace
    exact .inr ⟨hnone, Disk.node?_put_self _ _ _, above, h, eq_nominal_of_locate hlocate⟩
  · exact .inl (Disk.node?_put_of_ne hplace _ _)

theorem onlyMakes_ensureDirectory (path : Path) : Keeps (Disk.OnlyMakes path) (ensureDirectory path) :=
  keeps_ensureDirectory_of_isAbove fun _ => onlyMakes_makeDirectory

end Files

namespace Baseline

theorem onlyStores_replaceContent (path : Path) (bytes : List UInt8) :
    Keeps (Disk.OnlyStores path) (replaceContent path bytes) := by
  intro disk
  have hmade := onlyMakes_ensureDirectory path.parent disk
  cases hrun : (replaceContent path bytes).run disk with
  | ok _ after =>
      obtain ⟨target, id, hlocate, hdirectory, hhome, hfile, hother⟩ := of_replaceContent_eq_ok hrun
      have htarget : target = nominal (finish (ensureDirectory path.parent) disk).home path :=
        hhome ▸ eq_nominal_of_locate hlocate
      have hstored : Disk.OnlyStores path (finish (ensureDirectory path.parent) disk) after := by
        refine ⟨hhome, fun place => ?_⟩
        by_cases hplace : place = target
        · subst hplace
          refine .inr (.inr ⟨htarget, ?_, hdirectory⟩)
          rw [hfile]
          trivial
        · exact .inl (hother place hplace)
      rw [finish_of_ok hrun]
      exact IsTrans.trans _ _ _ hmade.onlyStores hstored
  | error cause after =>
      obtain ⟨hhome, hother⟩ := of_replaceContent_eq_error hrun
      have hleft : Disk.OnlyStores path (finish (ensureDirectory path.parent) disk) after :=
        ⟨hhome, fun place => .inl (hother place)⟩
      rw [finish_of_error hrun]
      exact IsTrans.trans _ _ _ hmade.onlyStores hleft

theorem onlyStores_save (disk : Disk) (path : Path) (value : Numeral) :
    Disk.OnlyStores path disk (save disk path value).2 := by
  rw [save_eq]
  split
  · exact Std.Refl.refl disk
  · rename_i ratio _
    split
    · rename_i hrun
      exact (onlyStores_replaceContent path (toBytes ratio)).ofOk hrun
    · rename_i hrun
      exact (onlyStores_replaceContent path (toBytes ratio)).ofError hrun

end Baseline

end Gatekeeper
