import Gatekeeper.Proofs.Files.Tree

/-! The numbers of files. Every file has a number of its own, so that what is added to an open file comes to one
location at most. No work on files gives two files the same number. -/

namespace Gatekeeper

open Work

/-- What is left of a node when bytes are added to the file of a number. -/
def Node.grown (id : Nat) (more : List UInt8) : Node → Node
  | .directory => .directory
  | .file other executable bytes => .file other executable (if other = id then bytes ++ more else bytes)

def Node.number? : Node → Option Nat
  | .directory => none
  | .file id _ _ => some id

@[simp] theorem Node.number?_grown (id : Nat) (more : List UInt8) (node : Node) :
    (node.grown id more).number? = node.number? := by
  cases node <;> rfl

namespace Disk

variable {home place target source : Location} {disk after : Disk} {id : Nat}

def number? (disk : Disk) (place : Location) : Option Nat :=
  (disk.node? place).bind Node.number?

theorem node?_append (disk : Disk) (id : Nat) (more : List UInt8) (place : Location) :
    (disk.append id more).node? place = (disk.node? place).map (Node.grown id more) := by
  have hentry : ∀ entry : Location × Node, appendEntry id more entry = (entry.1, entry.2.grown id more) := by
    rintro ⟨key, node⟩
    cases node <;> rfl
  unfold node? append
  induction disk.entries with
  | nil => rfl
  | cons entry rest ih =>
      rw [List.map_cons, hentry, List.lookup_cons, ih, List.lookup_cons]
      cases place == entry.1 <;> rfl

@[simp] theorem number?_append (disk : Disk) (id : Nat) (more : List UInt8) (place : Location) :
    (disk.append id more).number? place = disk.number? place := by
  rw [number?, number?, node?_append]
  cases disk.node? place <;> simp

theorem number?_put (disk : Disk) (target : Location) (node : Node) (place : Location) :
    (disk.put target node).number? place = if place = target then node.number? else disk.number? place := by
  unfold number?
  split
  · rename_i hplace
    rw [hplace, node?_put_self]
    rfl
  · rename_i hplace
    rw [node?_put_of_ne hplace]

theorem number?_erase (disk : Disk) (target place : Location) :
    (disk.erase target).number? place = if place = target then none else disk.number? place := by
  unfold number?
  split
  · rename_i hplace
    rw [hplace, node?_erase_self]
    rfl
  · rename_i hplace
    rw [node?_erase_of_ne hplace]

/-- A disk that the program uses from a place, and on which every file has a number of its own, as the next file
will. -/
structure IsNumbered (home : Location) (disk : Disk) : Prop where
  home_eq : disk.home = home
  lt_nextId {place : Location} {id : Nat} : disk.number? place = some id → id < disk.nextId
  place_eq {one other : Location} {id : Nat} :
    disk.number? one = some id → disk.number? other = some id → one = other

/-- Files with numbers that they had before, at the same locations, have numbers of their own. -/
theorem IsNumbered.mono (h : disk.IsNumbered home) (hhome : after.home = disk.home)
    (hnext : after.nextId = disk.nextId)
    (hkept : ∀ place id, after.number? place = some id → disk.number? place = some id) : after.IsNumbered home where
  home_eq := hhome.trans h.home_eq
  lt_nextId hplace := hnext ▸ h.lt_nextId (hkept _ _ hplace)
  place_eq hone hother := h.place_eq (hkept _ _ hone) (hkept _ _ hother)

theorem IsNumbered.put (h : disk.IsNumbered home) {node : Node}
    (hnode : ∀ id, node.number? = some id → disk.number? target = some id) :
    (disk.put target node).IsNumbered home := by
  refine h.mono rfl rfl fun place id hplace => ?_
  rw [number?_put] at hplace
  split at hplace
  · rename_i htarget
    exact htarget ▸ hnode id hplace
  · exact hplace

theorem IsNumbered.erase (h : disk.IsNumbered home) (target : Location) : (disk.erase target).IsNumbered home := by
  refine h.mono rfl rfl fun place id hplace => ?_
  rw [number?_erase] at hplace
  split at hplace
  · cases hplace
  · exact hplace

theorem IsNumbered.eraseAll (h : disk.IsNumbered home) (target : Location) :
    (disk.eraseAll target).IsNumbered home := by
  refine h.mono rfl rfl fun place id hplace => ?_
  rw [number?, node?_eraseAll] at hplace
  split at hplace
  · cases hplace
  · exact hplace

theorem IsNumbered.append (h : disk.IsNumbered home) (id : Nat) (more : List UInt8) :
    (disk.append id more).IsNumbered home :=
  h.mono rfl rfl fun _ _ hplace => by rwa [number?_append] at hplace

/-- A new file has the number that no file had. -/
theorem IsNumbered.create (h : disk.IsNumbered home) (target : Location) (executable : Bool) (bytes : List UInt8) :
    (disk.create target executable bytes).IsNumbered home := by
  have hnumber : ∀ place, (disk.create target executable bytes).number? place =
      if place = target then some disk.nextId else disk.number? place := number?_put disk target _
  have hnext : (disk.create target executable bytes).nextId = disk.nextId + 1 := rfl
  refine ⟨h.home_eq, fun {place id} hplace => ?_, fun {one other id} hone hother => ?_⟩
  · rw [hnumber] at hplace
    rw [hnext]
    split at hplace
    · cases hplace
      omega
    · have := h.lt_nextId hplace
      omega
  · rw [hnumber] at hone hother
    split at hone <;> split at hother
    · rename_i hone' hother'
      rw [hone', hother']
    · cases hone
      exact absurd (h.lt_nextId hother) (lt_irrefl _)
    · cases hother
      exact absurd (h.lt_nextId hone) (lt_irrefl _)
    · exact h.place_eq hone hother

/-- A file that is moved keeps its number. -/
theorem IsNumbered.move (h : disk.IsNumbered home) {node : Node} (hsource : disk.node? source = some node)
    (target : Location) : ((disk.erase source).put target node).IsNumbered home := by
  have hnode : node.number? = disk.number? source := by rw [number?, hsource, Option.bind_some]
  -- where the file of a number was before it was moved
  have horigin : ∀ place id, ((disk.erase source).put target node).number? place = some id →
      (place = target ∧ disk.number? source = some id) ∨ (place ≠ source ∧ disk.number? place = some id) := by
    intro place id hplace
    rw [number?_put, number?_erase, hnode] at hplace
    split at hplace
    · rename_i htarget
      exact .inl ⟨htarget, hplace⟩
    · split at hplace
      · cases hplace
      · rename_i hne
        exact .inr ⟨hne, hplace⟩
  refine ⟨h.home_eq, fun {place id} hplace => ?_, fun {one other id} hone hother => ?_⟩
  · rcases horigin place id hplace with ⟨-, hnumber⟩ | ⟨-, hnumber⟩
    · exact h.lt_nextId hnumber
    · exact h.lt_nextId hnumber
  · rcases horigin one id hone with ⟨rfl, hfirst⟩ | ⟨hne, hfirst⟩
    · rcases horigin other id hother with ⟨rfl, -⟩ | ⟨hne', hsecond⟩
      · rfl
      · exact absurd (h.place_eq hsecond hfirst) hne'
    · rcases horigin other id hother with ⟨rfl, hsecond⟩ | ⟨-, hsecond⟩
      · exact absurd (h.place_eq hfirst hsecond) hne
      · exact h.place_eq hfirst hsecond

/-- On a disk with nothing but directories there is no file to have a number. -/
theorem isNumbered_empty (home : Location) : (empty home).IsNumbered home := by
  have hnone : ∀ place, (empty home).number? place = none := by
    intro place
    rw [number?, node?_empty]
    split <;> rfl
  refine ⟨rfl, fun {place id} hplace => ?_, fun {one other id} hone => ?_⟩
  · cases (hnone place).symm.trans hplace
  · cases (hnone one).symm.trans hone

end Disk

namespace Files

open Disk

variable {home : Location}

theorem keepsNumbers_pathExists (path : Path) : Keeps (Lasts (IsNumbered home)) (pathExists path) := by
  apply Keeps.getBind
  intro disk
  split
  · exact Keeps.pure _ disk
  · exact Keeps.throw _ disk

theorem keepsNumbers_makeDirectory (path : Path) : Keeps (Lasts (IsNumbered home)) (makeDirectory path) :=
  keeps_makeDirectory_of fun _ _ _ _ h => h.put nofun

theorem keepsNumbers_ensureDirectory (path : Path) : Keeps (Lasts (IsNumbered home)) (ensureDirectory path) :=
  keeps_ensureDirectory_of_makeDirectory keepsNumbers_makeDirectory path

theorem number?_of_node? {disk : Disk} {place : Location} {id : Nat} {executable : Bool} {bytes : List UInt8}
    (h : disk.node? place = some (.file id executable bytes)) : disk.number? place = some id := by
  rw [number?, h]
  rfl

theorem keepsNumbers_write (path : Path) (bytes : List UInt8) : Keeps (Lasts (IsNumbered home)) (write path bytes) := by
  apply keeps_resolve_bind
  intro disk target _ h
  rw [finish_get_bind]
  split
  · rename_i hfile
    refine h.put fun other hother => ?_
    cases hother
    exact number?_of_node? hfile
  · exact h
  · exact h.create target false bytes

theorem keepsNumbers_setExecutable (path : Path) (executable : Bool) :
    Keeps (Lasts (IsNumbered home)) (setExecutable path executable) := by
  apply keeps_resolve_bind
  intro disk target _ h
  rw [finish_get_bind]
  split
  · rename_i hfile
    refine h.put fun other hother => ?_
    cases hother
    exact number?_of_node? hfile
  · exact h
  · exact h

theorem keepsNumbers_remove (path : Path) : Keeps (Lasts (IsNumbered home)) (remove path) := by
  apply keeps_resolve_bind
  intro disk target _ h
  rw [finish_get_bind]
  split
  · exact h.erase target
  · exact h
  · exact h

theorem keepsNumbers_discard (path : Path) : Keeps (Lasts (IsNumbered home)) (discard path) := by
  apply Keeps.getBind
  intro disk h
  split
  · rename_i target _
    rw [finish_get_bind]
    split
    · exact h.erase target
    · exact h.eraseAll target
    · exact h
  · exact h

theorem keepsNumbers_createNew (path : Path) (bytes : List UInt8) :
    Keeps (Lasts (IsNumbered home)) (createNew path bytes) := by
  apply keeps_resolveAbsolute_bind
  intro disk h
  rw [finish_get_bind]
  split
  · exact h
  · exact h.create _ false bytes

theorem keepsNumbers_replace (source : Location) (path : Path) :
    Keeps (Lasts (IsNumbered home)) (Files.replace source path) := by
  apply keeps_resolve_bind
  intro disk target _ h
  split
  · exact h
  · rw [finish_get_bind, finish_get_bind]
    split
    · exact h
    · rename_i hsource _
      exact h.move hsource target
    · exact h

end Files

namespace Run

open Disk Files

variable {home : Location}

theorem keepsNumbers_place (name : String) (content : Content) :
    Keeps (Lasts (IsNumbered home)) (Run.place name content) := by
  cases content with
  | absent => exact keepsNumbers_discard _
  | directory => exact keepsNumbers_ensureDirectory _
  | file bytes executable =>
      refine Keeps.bind (keepsNumbers_ensureDirectory _) fun _ => ?_
      refine Keeps.bind (keepsNumbers_write _ bytes) fun _ => ?_
      cases executable with
      | none => exact Keeps.pure _
      | some mark => exact keepsNumbers_setExecutable _ mark

theorem keepsNumbers_placeAll (writes : List (String × Content)) :
    Keeps (Lasts (IsNumbered home)) (placeAll writes) :=
  Keeps.forM fun write _ => keepsNumbers_place write.1 write.2

end Run

namespace Baseline

open Disk Files

variable {home : Location}

theorem keepsNumbers_moveNew (temporary : Location) (path : Path) :
    Keeps (Lasts (IsNumbered home)) (moveNew temporary path) := by
  intro disk h
  have hreplace : (finish (Files.replace temporary path) disk).IsNumbered home :=
    keepsNumbers_replace temporary path disk h
  have hrun := run_tryCatch (Files.replace temporary path)
    (fun cause => do modify (·.erase temporary); throw cause) disk
  cases hfirst : (Files.replace temporary path).run disk with
  | ok value after =>
      rw [hfirst] at hrun
      rw [moveNew, finish_of_ok hrun]
      rwa [finish_of_ok hfirst] at hreplace
  | error cause after =>
      rw [hfirst] at hrun
      rw [finish_of_error hfirst] at hreplace
      rw [moveNew, finish_of_error hrun]
      exact hreplace.erase temporary

theorem keepsNumbers_replaceContent (path : Path) (bytes : List UInt8) :
    Keeps (Lasts (IsNumbered home)) (replaceContent path bytes) := by
  refine Keeps.bind (keepsNumbers_ensureDirectory _) fun _ => ?_
  refine Keeps.getBind fun disk => ?_
  exact Keeps.bind (keepsNumbers_createNew _ bytes) (fun temporary => keepsNumbers_moveNew temporary path) disk

/-- Storing gives no two files the same number, whether it succeeds or fails. -/
theorem isNumbered_save {disk : Disk} (h : disk.IsNumbered home) (path : Path) (value : Numeral) :
    (save disk path value).2.IsNumbered home := by
  unfold save
  split
  · exact h
  · rename_i ratio _
    have hstore := keepsNumbers_replaceContent path (toBytes ratio) disk h
    unfold store
    split
    · rename_i hrun
      rwa [finish_of_ok hrun] at hstore
    · rename_i hrun
      rwa [finish_of_error hrun] at hstore

end Baseline

end Gatekeeper
