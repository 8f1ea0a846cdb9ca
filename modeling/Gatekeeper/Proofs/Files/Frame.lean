import Gatekeeper.Proofs.Files.Locate
import Gatekeeper.Proofs.Work
import Gatekeeper.World

/-! What work on files does at one location. Every operation on files changes what its path names and
makes directories where nothing stood, and nothing else; so what stands at a location stays in any
relation that allows new directories, as long as no write or removal is aimed at it. -/

namespace Gatekeeper

open Work

namespace Disk

/-- A relation between what stands at a location before and after some work. It allows that nothing
changes and that a directory is made where nothing stood, and it can be composed. -/
class Allowance (R : Option Node → Option Node → Prop) : Prop where
  same (found : Option Node) : R found found
  directory : R none (some .directory)
  compose {first second third : Option Node} : R first second → R second third → R first third

/-- Whether it is allowed that something is lost. -/
def AllowsLoss (R : Option Node → Option Node → Prop) : Prop :=
  ∀ found, R found none

/-- Whether it is allowed that a file is lost. -/
def AllowsRemoval (R : Option Node → Option Node → Prop) : Prop :=
  ∀ found, found ≠ some .directory → R found none

/-- Whether it is allowed that a file comes to stand anywhere but in the place of a directory. -/
def AllowsWriting (R : Option Node → Option Node → Prop) : Prop :=
  ∀ found node, found ≠ some .directory → R found (some node)

/-- Whether it is allowed that a file with a content comes to stand anywhere but in the place of a directory. -/
def AllowsFile (R : Option Node → Option Node → Prop) (bytes : List UInt8) : Prop :=
  ∀ found id executable, found ≠ some .directory → R found (some (.file id executable bytes))

/-- Whether it is allowed that it is said of a file whether it can be executed. -/
def AllowsMark (R : Option Node → Option Node → Prop) (executable : Bool) : Prop :=
  ∀ id before bytes, R (some (.file id before bytes)) (some (.file id executable bytes))

theorem AllowsWriting.file {R : Option Node → Option Node → Prop} (h : AllowsWriting R) (bytes : List UInt8) :
    AllowsFile R bytes :=
  fun found _ _ hfound => h found _ hfound

theorem AllowsWriting.mark {R : Option Node → Option Node → Prop} (h : AllowsWriting R) (executable : Bool) :
    AllowsMark R executable :=
  fun _ _ _ => h _ _ nofun

/-- When the program runs in a given place, it goes on to run there, and what stands at a location changes
only as is allowed. -/
def Drifts (R : Option Node → Option Node → Prop) (home place : Location) (before after : Disk) : Prop :=
  before.home = home → after.home = home ∧ R (before.node? place) (after.node? place)

def Stays (before after : Option Node) : Prop :=
  after = before ∨ (before = none ∧ after = some .directory)

def HoldsFile : Option Node → Prop
  | some (.file ..) => True
  | _ => False

def StaysDirectory (before after : Option Node) : Prop :=
  before = some .directory → after = some .directory

def NoNewFile (before after : Option Node) : Prop :=
  HoldsFile after → HoldsFile before

instance : Allowance Stays where
  same _ := .inl rfl
  directory := .inr ⟨rfl, rfl⟩
  compose := by
    rintro first second third (rfl | ⟨rfl, rfl⟩) (rfl | ⟨h, rfl⟩)
    · exact .inl rfl
    · exact .inr ⟨h, rfl⟩
    · exact .inr ⟨rfl, rfl⟩
    · exact .inr ⟨rfl, rfl⟩

instance : Allowance StaysDirectory where
  same _ := id
  directory := nofun
  compose hfirst hsecond := hsecond ∘ hfirst

instance : Allowance NoNewFile where
  same _ := id
  directory := False.elim
  compose hfirst hsecond := hfirst ∘ hsecond

theorem allowsLoss_noNewFile : AllowsLoss NoNewFile :=
  fun _ => False.elim

theorem allowsRemoval_noNewFile : AllowsRemoval NoNewFile :=
  fun found _ => allowsLoss_noNewFile found

theorem allowsRemoval_staysDirectory : AllowsRemoval StaysDirectory :=
  fun _ hfound hdirectory => absurd hdirectory hfound

theorem allowsWriting_staysDirectory : AllowsWriting StaysDirectory :=
  fun _ _ hfound hdirectory => absurd hdirectory hfound

theorem bytes?_of_stays {before after : Disk} {place : Location}
    (h : Stays (before.node? place) (after.node? place)) : after.bytes? place = before.bytes? place := by
  unfold bytes?
  rcases h with hsame | ⟨hnone, hdirectory⟩
  · rw [hsame]
  · rw [hnone, hdirectory]

variable {R : Option Node → Option Node → Prop} [Allowance R] {home place : Location}

instance : Std.Refl (Drifts R home place) where
  refl disk hhome := ⟨hhome, Allowance.same (disk.node? place)⟩

instance : IsTrans Disk (Drifts R home place) where
  trans _ _ _ hfirst hsecond hhome :=
    have hmiddle := hfirst hhome
    have hlast := hsecond hmiddle.1
    ⟨hlast.1, Allowance.compose hmiddle.2 hlast.2⟩

omit [Allowance R] in
theorem drifts_put_self {disk : Disk} {node : Node} (h : R (disk.node? place) (some node)) :
    Drifts R home place disk (disk.put place node) :=
  fun hhome => ⟨hhome, (node?_put_self disk place node).symm ▸ h⟩

theorem drifts_put_of_ne {other : Location} (h : place ≠ other) (disk : Disk) (node : Node) :
    Drifts R home place disk (disk.put other node) :=
  fun hhome => ⟨hhome, (node?_put_of_ne h disk node).symm ▸ Allowance.same _⟩

/-- Where no directory stands, a file may come to stand if that is allowed. -/
theorem drifts_put_file {other : Location} {disk : Disk} {bytes : List UInt8} (h : place = other → AllowsFile R bytes)
    (hother : disk.node? other ≠ some .directory) (id : Nat) (executable : Bool) :
    Drifts R home place disk (disk.put other (.file id executable bytes)) := by
  by_cases hplace : place = other
  · subst hplace
    exact drifts_put_self (h rfl _ id executable hother)
  · exact drifts_put_of_ne hplace disk _

theorem drifts_erase {other : Location} {disk : Disk} (h : place ≠ other ∨ R (disk.node? place) none) :
    Drifts R home place disk (disk.erase other) := by
  intro hhome
  refine ⟨hhome, ?_⟩
  by_cases hplace : place = other
  · subst hplace
    rw [node?_erase_self]
    exact h.resolve_left (fun hne => hne rfl)
  · rw [node?_erase_of_ne hplace]
    exact Allowance.same _

theorem lookup_filter_of_forall {keep : Location × Node → Bool} (h : ∀ node, keep (place, node) = true)
    (entries : List (Location × Node)) : (entries.filter keep).lookup place = entries.lookup place := by
  induction entries with
  | nil => rfl
  | cons entry rest ih =>
      obtain ⟨key, node⟩ := entry
      by_cases hkey : place = key
      · subst hkey
        rw [List.filter_cons_of_pos (h node), List.lookup_cons_self, List.lookup_cons_self]
      · rw [List.lookup_cons, beq_false_of_ne hkey]
        by_cases hkeep : keep (key, node)
        · rw [List.filter_cons_of_pos hkeep, List.lookup_cons, beq_false_of_ne hkey, ih]
        · rw [List.filter_cons_of_neg hkeep, ih]

theorem lookup_filter_of_forall_not {keep : Location × Node → Bool}
    (h : ∀ node, keep (place, node) = false) (entries : List (Location × Node)) :
    (entries.filter keep).lookup place = none := by
  induction entries with
  | nil => rfl
  | cons entry rest ih =>
      obtain ⟨key, node⟩ := entry
      by_cases hkeep : keep (key, node)
      · have hkey : place ≠ key := by
          intro heq
          rw [← heq, h node] at hkeep
          cases hkeep
        rw [List.filter_cons_of_pos hkeep, List.lookup_cons, beq_false_of_ne hkey, ih]
      · rw [List.filter_cons_of_neg hkeep, ih]

theorem node?_eraseAll (disk : Disk) (other place : Location) :
    (disk.eraseAll other).node? place = if other <+: place then none else disk.node? place := by
  split
  · rename_i hprefix
    apply lookup_filter_of_forall_not
    intro node
    simpa [List.isPrefixOf_iff_prefix] using hprefix
  · rename_i hprefix
    apply lookup_filter_of_forall
    intro node
    simpa [← List.isPrefixOf_iff_prefix] using hprefix

theorem drifts_eraseAll {other : Location} (h : ¬other <+: place ∨ AllowsLoss R) (disk : Disk) :
    Drifts R home place disk (disk.eraseAll other) := by
  intro hhome
  refine ⟨hhome, ?_⟩
  rw [node?_eraseAll]
  split
  · rename_i hprefix
    exact h.resolve_left (fun hnot => hnot hprefix) _
  · exact Allowance.same _

end Disk

namespace Path

/-- Whether a path is another one or leads to a place on its way, as its parts are written. -/
def IsAbove (above path : Path) : Prop :=
  above.anchor = path.anchor ∧ above.parts <+: path.parts

theorem isAbove_self (path : Path) : path.IsAbove path :=
  ⟨rfl, List.prefix_rfl⟩

theorem IsAbove.of_parent {above path : Path} (h : above.IsAbove path.parent) : above.IsAbove path :=
  ⟨h.1, h.2.trans (List.dropLast_prefix path.parts)⟩

end Path

namespace Files

open Disk

theorem run_resolve (path : Path) (disk : Disk) :
    (resolve path).run disk = match locate disk path with
      | .ok target => .ok target disk
      | .error cause => .error cause disk := by
  rw [resolve, EStateM.run_bind, EStateM.run_get]
  simp only
  cases locate disk path <;> rfl

theorem run_resolveAbsolute (path : Path) (disk : Disk) :
    (resolveAbsolute path).run disk = match locate disk (absolute disk.home path) with
      | .ok _ => .ok (nominal disk.home path) disk
      | .error cause => .error cause disk := by
  rw [resolveAbsolute, EStateM.run_bind, EStateM.run_get]
  simp only
  cases locate disk (absolute disk.home path) <;> rfl

theorem run_makeDirectory (path : Path) (disk : Disk) :
    (makeDirectory path).run disk = match locate disk path with
      | .ok target =>
        if endsInName path && (disk.node? target).isNone then .ok () (disk.put target .directory)
        else .error .alreadyExists disk
      | .error cause => .error cause disk := by
  rw [makeDirectory, EStateM.run_bind, run_resolve]
  cases locate disk path with
  | error cause => rfl
  | ok target =>
      simp only [EStateM.run_bind, EStateM.run_get]
      split <;> rfl

theorem run_ensureDirectory (path : Path) (disk : Disk) :
    (ensureDirectory path).run disk = (ensureUpTo disk.levels path).run disk :=
  rfl

section Kept

variable {α : Type} {Q : Disk → Disk → Prop} [Std.Refl Q]

/-- What follows the resolution of a path starts where the path leads. -/
theorem keeps_resolve_bind {path : Path} {next : Location → Files α}
    (h : ∀ disk target, locate disk path = .ok target → Q disk (finish (next target) disk)) :
    Keeps Q (resolve path >>= next) := by
  intro disk
  have hresolve := run_resolve path disk
  cases hlocate : locate disk path with
  | ok target =>
      rw [hlocate] at hresolve
      rw [finish_bind_of_ok hresolve]
      exact h disk target hlocate
  | error cause =>
      rw [hlocate] at hresolve
      rw [finish_bind_of_error hresolve]
      exact Std.Refl.refl disk

theorem keeps_resolveAbsolute_bind {path : Path} {next : Location → Files α}
    (h : ∀ disk, Q disk (finish (next (nominal disk.home path)) disk)) : Keeps Q (resolveAbsolute path >>= next) := by
  intro disk
  have hresolve := run_resolveAbsolute path disk
  cases hlocate : locate disk (absolute disk.home path) with
  | ok target =>
      rw [hlocate] at hresolve
      rw [finish_bind_of_ok hresolve]
      exact h disk
  | error cause =>
      rw [hlocate] at hresolve
      rw [finish_bind_of_error hresolve]
      exact Std.Refl.refl disk

/-- A new directory comes to stand where a path leads and nothing stands, or nothing changes. -/
theorem keeps_makeDirectory_of {path : Path}
    (h : ∀ disk target, locate disk path = .ok target → disk.node? target = none →
      Q disk (disk.put target .directory)) : Keeps Q (makeDirectory path) := by
  intro disk
  have hrun := run_makeDirectory path disk
  cases hlocate : locate disk path with
  | error cause =>
      rw [hlocate] at hrun
      rw [finish_of_error hrun]
      exact Std.Refl.refl disk
  | ok target =>
      rw [hlocate] at hrun
      simp only at hrun
      split at hrun
      · rename_i hnew
        rw [finish_of_ok hrun]
        exact h disk target hlocate (Option.isNone_iff_eq_none.mp (Bool.and_eq_true_iff.mp hnew).2)
      · rw [finish_of_error hrun]
        exact Std.Refl.refl disk

theorem keeps_isDirectory (path : Path) : Keeps Q (isDirectory path) := by
  apply Keeps.getBind
  intro disk
  split
  · exact Keeps.pure _ disk
  · exact Keeps.pure _ disk
  · exact Keeps.throw _ disk

variable [IsTrans Disk Q]

theorem keeps_makeOr {otherwise : Path → Files Unit} {path : Path} (hmake : Keeps Q (makeDirectory path))
    (hother : Keeps Q (otherwise path.parent)) : Keeps Q (makeOr otherwise path) := by
  apply Keeps.getBind
  intro disk
  cases hrun : (makeDirectory path).run disk with
  | ok _ later => exact hmake.ofOk hrun
  | error cause later =>
      cases cause with
      | nulInPath => exact Keeps.throw _ disk
      | notFound => exact hother disk
      | _ =>
          refine Keeps.bind (keeps_isDirectory path) (fun found => ?_) disk
          cases found
          · exact Keeps.throw _
          · exact Keeps.pure _

/-- Missing directories are made one by one above a path, and so they keep what the making of each one does. -/
theorem keeps_ensureUpTo (depth : Nat) {path : Path}
    (hmake : ∀ above, above.IsAbove path → Keeps Q (makeDirectory above)) : Keeps Q (ensureUpTo depth path) := by
  induction depth generalizing path with
  | zero => exact keeps_makeOr (hmake path path.isAbove_self) (Keeps.throw _)
  | succ depth ih =>
      have hself := hmake path path.isAbove_self
      rw [ensureUpTo]
      apply keeps_makeOr hself
      refine Keeps.bind (ih fun above habove => hmake above (habove.of_parent)) fun _ => ?_
      exact keeps_makeOr hself (Keeps.throw _)

theorem keeps_ensureDirectory_of_isAbove {path : Path}
    (hmake : ∀ above, above.IsAbove path → Keeps Q (makeDirectory above)) : Keeps Q (ensureDirectory path) :=
  Keeps.getBind fun disk => keeps_ensureUpTo disk.levels hmake disk

theorem keeps_ensureDirectory_of_makeDirectory (hmake : ∀ path, Keeps Q (makeDirectory path)) (path : Path) :
    Keeps Q (ensureDirectory path) :=
  keeps_ensureDirectory_of_isAbove fun above _ => hmake above

end Kept

variable {α : Type} {R : Option Node → Option Node → Prop} [Allowance R] {home place : Location}

theorem keeps_resolve_bind_at {path : Path} {next : Location → Files α}
    (h : ∀ disk target, disk.home = home → locate disk path = .ok target →
      Drifts R home place disk (finish (next target) disk)) :
    Keeps (Drifts R home place) (resolve path >>= next) :=
  keeps_resolve_bind fun disk target hlocate hhome => h disk target hhome hlocate hhome

theorem keeps_pathExists (path : Path) : Keeps (Drifts R home place) (pathExists path) := by
  apply Keeps.getBind
  intro disk
  split
  · exact Keeps.pure _ disk
  · exact Keeps.throw _ disk

theorem keeps_makeDirectory (path : Path) : Keeps (Drifts R home place) (makeDirectory path) := by
  refine keeps_makeDirectory_of fun disk target _ hnone => ?_
  by_cases hplace : place = target
  · subst hplace
    apply drifts_put_self
    rw [hnone]
    exact Allowance.directory
  · exact drifts_put_of_ne hplace disk .directory

theorem keeps_ensureDirectory (path : Path) : Keeps (Drifts R home place) (ensureDirectory path) :=
  keeps_ensureDirectory_of_makeDirectory keeps_makeDirectory path

/-- A write is aimed at the location that its path names. -/
theorem keeps_write {path : Path} {bytes : List UInt8}
    (h : place = nominal home path → AllowsFile R bytes) : Keeps (Drifts R home place) (write path bytes) := by
  apply keeps_resolve_bind_at
  intro disk target hhome hlocate
  have hplace : place = target → AllowsFile R bytes := eq_nominal_of_locate hlocate ▸ hhome.symm ▸ h
  rw [finish_get_bind]
  split
  · rename_i hfile
    exact drifts_put_file hplace (by simp [hfile]) _ _
  · exact Keeps.throw _ disk
  · rename_i hnone
    exact drifts_put_file hplace (by simp [hnone]) disk.nextId false

theorem keeps_setExecutable {path : Path} {executable : Bool}
    (h : place = nominal home path → AllowsMark R executable) :
    Keeps (Drifts R home place) (setExecutable path executable) := by
  apply keeps_resolve_bind_at
  intro disk target hhome hlocate
  have hplace : place = target → AllowsMark R executable := eq_nominal_of_locate hlocate ▸ hhome.symm ▸ h
  rw [finish_get_bind]
  split
  · rename_i id before bytes hfile
    by_cases htarget : place = target
    · have hmark := hplace htarget id before bytes
      subst htarget
      exact drifts_put_self (hfile ▸ hmark)
    · exact drifts_put_of_ne htarget disk _
  · exact Keeps.pure _ disk
  · exact Keeps.throw _ disk

theorem keeps_remove {path : Path} (h : place ≠ nominal home path ∨ AllowsRemoval R) :
    Keeps (Drifts R home place) (remove path) := by
  apply keeps_resolve_bind_at
  intro disk target hhome hlocate
  rw [finish_get_bind]
  split
  · rename_i hfile
    have htarget : target = nominal home path := hhome ▸ eq_nominal_of_locate hlocate
    apply drifts_erase
    by_cases hplace : place = target
    · subst hplace
      exact .inr (h.resolve_left (fun hne => hne htarget) _ (by simp [hfile]))
    · exact .inl hplace
  · exact Keeps.throw _ disk
  · exact Keeps.throw _ disk

/-- Removing a directory is aimed at all that stands below it. -/
theorem keeps_discard {path : Path} (h : ¬nominal home path <+: place ∨ AllowsLoss R) :
    Keeps (Drifts R home place) (discard path) := by
  apply Keeps.getBind
  intro disk hhome
  cases hlocate : locate disk path with
  | error cause => exact ⟨hhome, Allowance.same _⟩
  | ok target =>
      have hprefix : ¬target <+: place ∨ AllowsLoss R := eq_nominal_of_locate hlocate ▸ hhome.symm ▸ h
      have hplace : place ≠ target ∨ R (disk.node? place) none :=
        hprefix.imp (fun hnot heq => hnot (heq ▸ List.prefix_refl place)) fun hloss => hloss _
      simp only [finish_get_bind]
      split
      · exact drifts_erase hplace hhome
      · exact drifts_eraseAll hprefix disk hhome
      · exact ⟨hhome, Allowance.same _⟩

end Files

namespace Content

/-- Whether what is put at a location leaves alone what stands at another one: a file is written elsewhere,
and nothing is removed there or above it. -/
def Spares (target place : Location) : Content → Prop
  | absent => ¬target <+: place
  | directory => True
  | file .. => place ≠ target

instance (target place : Location) (content : Content) : Decidable (content.Spares target place) :=
  match content with
  | absent => inferInstanceAs (Decidable (¬_))
  | directory => inferInstanceAs (Decidable True)
  | file .. => inferInstanceAs (Decidable (_ ≠ _))

/-- Whether what is put at a location changes another one only as is allowed. -/
def Permits (R : Option Node → Option Node → Prop) (target place : Location) : Content → Prop
  | absent => ¬target <+: place ∨ Disk.AllowsLoss R
  | directory => True
  | file .. => place ≠ target ∨ Disk.AllowsWriting R

/-- Whether a file that is put at a location is allowed at another one if that is the same. -/
def Fits (R : Option Node → Option Node → Prop) (target place : Location) : Content → Prop
  | absent => ¬target <+: place ∨ Disk.AllowsLoss R
  | directory => True
  | file bytes executable => place = target →
    Disk.AllowsFile R bytes ∧ ∀ mark, executable = some mark → Disk.AllowsMark R mark

theorem Permits.fits {R : Option Node → Option Node → Prop} {target place : Location} {content : Content}
    (h : content.Permits R target place) : content.Fits R target place := by
  cases content with
  | absent => exact h
  | directory => trivial
  | file bytes executable =>
      intro hplace
      have hwriting := h.resolve_left fun hne => hne hplace
      exact ⟨hwriting.file bytes, fun mark _ => hwriting.mark mark⟩

theorem permits_of_spares {R : Option Node → Option Node → Prop} {target place : Location}
    {content : Content} (h : content.Spares target place) : content.Permits R target place := by
  cases content with
  | absent => exact .inl h
  | directory => trivial
  | file bytes executable => exact .inl h

end Content

namespace Run

open Disk Files

variable {R : Option Node → Option Node → Prop} [Allowance R] {home place : Location}

theorem keeps_place {name : String} {content : Content}
    (h : content.Fits R (nominal home (Path.ofText name)) place) :
    Keeps (Drifts R home place) (Run.place name content) := by
  cases content with
  | absent => exact keeps_discard h
  | directory => exact keeps_ensureDirectory _
  | file bytes executable =>
      refine Keeps.bind (keeps_ensureDirectory _) fun _ => ?_
      refine Keeps.bind (keeps_write fun hplace => (h hplace).1) fun _ => ?_
      cases executable with
      | none => exact Keeps.pure _
      | some mark => exact keeps_setExecutable fun hplace => (h hplace).2 mark rfl

/-- Several contents change a location only as is allowed when each of them does. -/
theorem keeps_placeAll {writes : List (String × Content)}
    (h : ∀ write ∈ writes, write.2.Fits R (nominal home (Path.ofText write.1)) place) :
    Keeps (Drifts R home place) (placeAll writes) :=
  Keeps.forM fun write hwrite => keeps_place (h write hwrite)

end Run

end Gatekeeper
