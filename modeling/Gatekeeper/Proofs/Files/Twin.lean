import Gatekeeper.Proofs.Files.Alike
import Gatekeeper.Proofs.Twin

/-! Work on files from two disks that are alike. An operation does the same on both as long as it does not look at
what may differ: a file is written or removed whatever the old one was, but a directory is made only where nothing
stands. -/

namespace Gatekeeper

open Work

namespace Disk

variable {home place target : Location} {loose : Set Location} {one other one' other' : Disk}

/-- What the putting of a file at a location does to a disk. -/
structure Gains (target : Location) (executable : Bool) (bytes : List UInt8) (before after : Disk) : Prop where
  home_eq : after.home = before.home
  levels_eq : after.levels = before.levels
  node?_target : ∃ id, after.node? target = some (.file id executable bytes)
  node?_of_ne : ∀ place, place ≠ target → after.node? place = before.node? place

theorem gains_put (disk : Disk) (target : Location) (id : Nat) (executable : Bool) (bytes : List UInt8) :
    Gains target executable bytes disk (disk.put target (.file id executable bytes)) :=
  ⟨rfl, rfl, ⟨id, node?_put_self _ _ _⟩, fun _ hne => node?_put_of_ne hne _ _⟩

theorem gains_create (disk : Disk) (target : Location) (executable : Bool) (bytes : List UInt8) :
    Gains target executable bytes disk (disk.create target executable bytes) :=
  ⟨rfl, rfl, ⟨disk.nextId, node?_create_self _ _ _ _⟩, fun _ hne => node?_create_of_ne hne _ _ _⟩

/-- Two disks that are alike and have files at a location. -/
def AlikeWithFile (home : Location) (loose : Set Location) (place : Location) (one other : Disk) : Prop :=
  Alike home loose one other ∧ HoldsFile (one.node? place) ∧ HoldsFile (other.node? place)

/-- Files come to stand at a location of disks that are alike. They have to be the same if it is not loose. -/
theorem Alike.gains {executable executable' : Bool} {bytes bytes' : List UInt8} (h : Alike home loose one other)
    (hone : Gains target executable bytes one one') (hother : Gains target executable' bytes' other other')
    (hsame : target ∉ loose → executable = executable' ∧ bytes = bytes') :
    AlikeWithFile home loose target one' other' := by
  obtain ⟨hhome, hlevels, ⟨id, hnode⟩, hne⟩ := hone
  obtain ⟨hhome', hlevels', ⟨id', hnode'⟩, hne'⟩ := hother
  refine ⟨h.change hhome hhome' hlevels hlevels' hne hne' (fun htarget => ?_) fun _ => ?_, ?_, ?_⟩
  · obtain ⟨rfl, rfl⟩ := hsame htarget
    rw [seen?, seen?, hnode, hnode']
    rfl
  · rw [hnode, hnode']
    simp
  · rw [hnode]
    trivial
  · rw [hnode']
    trivial

def isExecutable (disk : Disk) (place : Location) : Bool :=
  match disk.seen? place with
  | some (.file _ executable _) => executable
  | _ => false

theorem Alike.isExecutable_eq (h : Alike home loose one other) (hplace : place ∉ loose) :
    one.isExecutable place = other.isExecutable place := by
  rw [isExecutable, isExecutable, h.seen_eq place hplace]

end Disk

namespace Files

open Disk

variable {α : Type} {home : Location} {loose : Set Location} {path : Path}

theorem run_isDirectory (path : Path) (disk : Disk) :
    (isDirectory path).run disk = match lookup disk path with
      | .ok node => .ok (decide (node = some .directory) || path.parts.isEmpty) disk
      | .error cause => .error cause disk := by
  rw [isDirectory, EStateM.run_bind, EStateM.run_get]
  simp only
  rcases lookup disk path with cause | _ | _ | ⟨id, executable, bytes⟩ <;> rfl

theorem run_pathExists (path : Path) (disk : Disk) :
    (pathExists path).run disk = match lookup disk path with
      | .ok node => .ok node.isSome disk
      | .error cause => .error cause disk := by
  rw [pathExists, EStateM.run_bind, EStateM.run_get]
  simp only
  rcases lookup disk path with cause | _ | node <;> rfl

/-- Whether anything stands where a path leads is the same on disks that are alike. -/
theorem respects_pathExists (hplace : nominal home path ∉ loose) : Respects (Alike home loose) (pathExists path) := by
  intro one other h
  rw [run_pathExists, run_pathExists]
  rcases lookup_cases h hplace with ⟨cause, hone, hother⟩ | ⟨hone, hother⟩ | ⟨hone, hother⟩ |
    ⟨_, _, _, _, hone, hother⟩ <;> rw [hone, hother]
  · exact .error h
  · exact .ok h
  · exact .ok h
  · exact .ok h

/-- Whether there is a directory is the same on disks that are alike, since no loose location is one. -/
theorem respects_isDirectory (path : Path) : Respects (Alike home loose) (isDirectory path) := by
  intro one other h
  rw [run_isDirectory, run_isDirectory]
  rcases locate_cases h path with hsame | ⟨-, cause, cause', hone, hother, hcause, hcause'⟩
  · cases hlocate : locate one path with
    | error cause =>
        rw [lookup_of_locate_eq_error hlocate, lookup_of_locate_eq_error (hsame ▸ hlocate)]
        split
        · exact .ok h
        · exact .error h
    | ok place =>
        rw [lookup, lookup, ← hsame, hlocate]
        simp only [h.directory_iff place]
        exact .ok h
  · rw [lookup_of_locate_eq_error hone, lookup_of_locate_eq_error hother, if_neg hcause, if_neg hcause']
    exact .ok h

/-- What follows the resolution of a path starts from the location that the path names on both disks. -/
theorem relates_resolve_bind {S : Disk → Disk → Prop} {T : α → Disk → Disk → Prop} {next : Location → Files α}
    (hS : ∀ one other, S one other → Alike home loose one other) (hfirm : WayIsFirm home loose path)
    (h : ∀ one other, S one other →
      Agree (Alike home loose) T ((next (nominal home path)).run one) ((next (nominal home path)).run other)) :
    Relates S (Alike home loose) T (resolve path >>= next) := by
  intro one other hstart
  rw [EStateM.run_bind, EStateM.run_bind, run_resolve, run_resolve, ← locate_eq_of_alike (hS one other hstart) hfirm]
  cases hlocate : locate one path with
  | error cause => exact .error (hS one other hstart)
  | ok place =>
      have hplace : place = nominal home path := (hS one other hstart).home_eq ▸ eq_nominal_of_locate hlocate
      rw [hplace]
      exact h one other hstart

theorem respects_makeDirectory (h : IsFirm home loose path) : Respects (Alike home loose) (makeDirectory path) := by
  refine relates_resolve_bind (fun _ _ => id) h.1 fun one other hstart => ?_
  simp only [EStateM.run_bind, EStateM.run_get]
  have hnone : (one.node? (nominal home path)).isNone = (other.node? (nominal home path)).isNone := by
    rcases hstart.node_cases h.2 with ⟨hone, hother⟩ | ⟨hone, hother⟩ | ⟨_, _, _, _, hone, hother⟩ <;>
      simp [hone, hother]
  rw [hnone]
  split
  · exact .ok (hstart.put (fun _ => rfl) fun hloose => absurd hloose h.2)
  · exact .error hstart

theorem respects_makeOr {otherwise : Path → Files Unit}
    (hother : Respects (Alike home loose) (otherwise path.parent)) (h : IsFirm home loose path) :
    Respects (Alike home loose) (makeOr otherwise path) := by
  refine Relates.getBind fun one other hstart => ?_
  have hmade := respects_makeDirectory h one other hstart
  generalize (makeDirectory path).run one = first, (makeDirectory path).run other = second at hmade ⊢
  cases hmade with
  | ok hmade => exact .ok hmade
  | @error cause _ _ _ =>
      cases cause with
      | nulInPath => exact .error hstart
      | notFound => exact hother one other hstart
      | _ =>
          refine Respects.bind (respects_isDirectory path) (fun found => ?_) one other hstart
          cases found
          · exact Respects.throw _
          · exact Respects.pure _

theorem respects_ensureUpTo (depth : Nat) (h : IsFirm home loose path) :
    Respects (Alike home loose) (ensureUpTo depth path) := by
  induction depth generalizing path with
  | zero => exact respects_makeOr (Respects.throw _) h
  | succ depth ih =>
      rw [ensureUpTo]
      refine respects_makeOr ?_ h
      exact Respects.bind (ih (isFirm_parent h)) fun _ => respects_makeOr (Respects.throw _) h

theorem respects_ensureDirectory (h : IsFirm home loose path) :
    Respects (Alike home loose) (ensureDirectory path) := by
  intro one other hstart
  rw [run_ensureDirectory, run_ensureDirectory, hstart.levels_eq]
  exact respects_ensureUpTo _ h one other hstart

theorem exists_write {disk : Disk} {place : Location} (hlocate : locate disk path = .ok place)
    (hplace : disk.node? place ≠ some .directory) (bytes : List UInt8) :
    ∃ after, (write path bytes).run disk = .ok () after ∧
      Gains place (disk.isExecutable place) bytes disk after := by
  rw [write, EStateM.run_bind, run_resolve, hlocate]
  simp only [EStateM.run_bind, EStateM.run_get]
  rcases hnode : disk.node? place with _ | _ | ⟨id, executable, old⟩
  · refine ⟨_, rfl, ?_⟩
    rw [isExecutable, seen?, hnode]
    exact gains_create _ _ _ _
  · exact absurd hnode hplace
  · refine ⟨_, rfl, ?_⟩
    rw [isExecutable, seen?, hnode]
    exact gains_put _ _ _ _ _

/-- A file is written whether there is an old one or not. -/
theorem relates_write (bytes : List UInt8) (h : WayIsFirm home loose path) :
    Relates (Alike home loose) (Alike home loose) (fun _ => AlikeWithFile home loose (nominal home path))
      (write path bytes) := by
  intro one other hstart
  have hsame := locate_eq_of_alike hstart h
  cases hlocate : locate one path with
  | error cause =>
      rw [write, EStateM.run_bind, EStateM.run_bind, run_resolve, run_resolve, ← hsame, hlocate]
      exact .error hstart
  | ok place =>
      obtain rfl : place = nominal home path := hstart.home_eq ▸ eq_nominal_of_locate hlocate
      by_cases hdirectory : one.node? (nominal home path) = some .directory
      · have hdirectory' := (hstart.directory_iff _).mp hdirectory
        rw [write, EStateM.run_bind, EStateM.run_bind, run_resolve, run_resolve, ← hsame, hlocate]
        simp only [EStateM.run_bind, EStateM.run_get, hdirectory, hdirectory']
        exact .error hstart
      · obtain ⟨one', hone, hgains⟩ := exists_write hlocate hdirectory bytes
        obtain ⟨other', hother, hgains'⟩ :=
          exists_write (hsame ▸ hlocate) (fun hother => hdirectory ((hstart.directory_iff _).mpr hother)) bytes
        rw [hone, hother]
        exact .ok (hstart.gains hgains hgains' fun hplace => ⟨hstart.isExecutable_eq hplace, rfl⟩)

theorem relates_setExecutable (executable : Bool) (h : WayIsFirm home loose path) :
    Relates (AlikeWithFile home loose (nominal home path)) (Alike home loose) (fun _ => Alike home loose)
      (setExecutable path executable) := by
  refine relates_resolve_bind (fun _ _ hstart => hstart.1) h fun one other hstart => ?_
  obtain ⟨halike, hfile, hfile'⟩ := hstart
  simp only [EStateM.run_bind, EStateM.run_get]
  by_cases hplace : nominal home path ∈ loose
  · rcases hone : one.node? (nominal home path) with _ | _ | ⟨id, old, bytes⟩
    · simp [hone, HoldsFile] at hfile
    · simp [hone, HoldsFile] at hfile
    · rcases hother : other.node? (nominal home path) with _ | _ | ⟨id', old', bytes'⟩
      · simp [hother, HoldsFile] at hfile'
      · simp [hother, HoldsFile] at hfile'
      · exact .ok (halike.gains (gains_put _ _ _ _ _) (gains_put _ _ _ _ _) fun hnot => absurd hplace hnot).1
  · rcases halike.node_cases hplace with ⟨hone, -⟩ | ⟨hone, -⟩ | ⟨_, _, _, bytes, hone, hother⟩
    · simp [hone, HoldsFile] at hfile
    · simp [hone, HoldsFile] at hfile
    · rw [hone, hother]
      exact .ok (halike.gains (gains_put _ _ _ _ _) (gains_put _ _ _ _ _) fun _ => ⟨rfl, rfl⟩).1

theorem run_remove (path : Path) (disk : Disk) :
    (remove path).run disk = match locate disk path with
      | .ok place => match disk.node? place with
        | some (.file ..) => .ok () (disk.erase place)
        | some .directory => .error .isDirectory disk
        | none => .error .notFound disk
      | .error cause => .error cause disk := by
  rw [remove, EStateM.run_bind, run_resolve]
  cases locate disk path with
  | error cause => rfl
  | ok place =>
      simp only [EStateM.run_bind, EStateM.run_get]
      rcases disk.node? place with _ | _ | ⟨id, executable, bytes⟩ <;> rfl

theorem respects_remove (h : IsFirm home loose path) : Respects (Alike home loose) (remove path) := by
  refine relates_resolve_bind (fun _ _ => id) h.1 fun one other hstart => ?_
  simp only [EStateM.run_bind, EStateM.run_get]
  rcases hstart.node_cases h.2 with ⟨hone, hother⟩ | ⟨hone, hother⟩ | ⟨_, _, _, _, hone, hother⟩
  · rw [hone, hother]
    exact .error hstart
  · rw [hone, hother]
    exact .error hstart
  · rw [hone, hother]
    exact .ok (hstart.erase _)

/-- A disk without what stands at a location and below it. -/
def discarded (disk : Disk) (place : Location) : Disk :=
  match disk.node? place with
  | some (.file ..) => disk.erase place
  | some .directory => disk.eraseAll place
  | none => disk

theorem run_discard (path : Path) (disk : Disk) :
    (discard path).run disk = match locate disk path with
      | .ok place => .ok () (discarded disk place)
      | .error _ => .ok () disk := by
  rw [discard, EStateM.run_bind, EStateM.run_get]
  simp only
  cases locate disk path with
  | error cause => rfl
  | ok place =>
      simp only [EStateM.run_bind, EStateM.run_get, discarded]
      rcases disk.node? place with _ | _ | ⟨id, executable, bytes⟩ <;> rfl

theorem levels_discarded (disk : Disk) (place : Location) : (discarded disk place).levels = disk.levels := by
  rw [discarded]
  split <;> rfl

theorem discarded_of_ne {disk : Disk} {place : Location} (h : disk.node? place ≠ some .directory) :
    (discarded disk place).home = disk.home ∧ (discarded disk place).node? place = none ∧
      ∀ other, other ≠ place → (discarded disk place).node? other = disk.node? other := by
  rw [discarded]
  rcases hnode : disk.node? place with _ | _ | ⟨id, executable, bytes⟩
  · exact ⟨rfl, hnode, fun _ _ => rfl⟩
  · exact absurd hnode h
  · exact ⟨rfl, node?_erase_self disk place, fun _ hne => node?_erase_of_ne hne disk⟩

theorem alike_discarded {place : Location} (h : Alike home loose one other) :
    Alike home loose (discarded one place) (discarded other place) := by
  by_cases hdirectory : one.node? place = some .directory
  · rw [discarded, discarded, hdirectory, (h.directory_iff place).mp hdirectory]
    exact h.eraseAll place
  · obtain ⟨hhome, hnone, hne⟩ := discarded_of_ne hdirectory
    obtain ⟨hhome', hnone', hne'⟩ := discarded_of_ne fun hother => hdirectory ((h.directory_iff place).mpr hother)
    refine h.change hhome hhome' (levels_discarded _ _) (levels_discarded _ _) hne hne' (fun _ => ?_) fun _ => ?_
    · rw [seen?, seen?, hnone, hnone']
    · rw [hnone, hnone']
      simp

/-- What is discarded is discarded on both disks, and at a loose location it need not be there. -/
theorem respects_discard (path : Path) : Respects (Alike home loose) (discard path) := by
  intro one other h
  rw [run_discard, run_discard]
  rcases locate_cases h path with hsame | ⟨-, cause, cause', hone, hother, -⟩
  · cases hlocate : locate one path with
    | error cause =>
        rw [← hsame, hlocate]
        exact .ok h
    | ok place =>
        rw [← hsame, hlocate]
        exact .ok (alike_discarded h)
  · rw [hone, hother]
    exact .ok h

end Files

namespace Content

open Files

/-- Whether what is put at a path is put there without a look at loose locations. -/
def IsFirm (home : Location) (loose : Set Location) (path : Path) : Content → Prop
  | absent => True
  | directory => Files.IsFirm home loose path
  | file .. => Files.IsFirm home loose path.parent

theorem isFirm_empty (home : Location) (path : Path) (content : Content) : content.IsFirm home ∅ path := by
  cases content with
  | absent => trivial
  | directory => exact Files.isFirm_empty home path
  | file bytes executable => exact Files.isFirm_empty home path.parent

end Content

namespace Run

open Disk Files

variable {home : Location} {loose : Set Location}

theorem respects_place {name : String} {content : Content} (h : content.IsFirm home loose (Path.ofText name)) :
    Respects (Alike home loose) (Run.place name content) := by
  cases content with
  | absent => exact respects_discard _
  | directory => exact respects_ensureDirectory h
  | file bytes executable =>
      refine Respects.bind (respects_ensureDirectory h) fun _ => ?_
      refine Relates.bind (relates_write bytes (wayIsFirm_of_parent h)) fun _ => ?_
      cases executable with
      | none => exact Relates.pure fun _ _ hwritten => hwritten.1
      | some executable => exact relates_setExecutable executable (wayIsFirm_of_parent h)

/-- Several contents are put on disks that are alike without a difference when each of them is. -/
theorem respects_placeAll {writes : List (String × Content)}
    (h : ∀ write ∈ writes, write.2.IsFirm home loose (Path.ofText write.1)) :
    Respects (Alike home loose) (placeAll writes) :=
  Respects.forM fun write hwrite => respects_place (h write hwrite)

end Run

end Gatekeeper
