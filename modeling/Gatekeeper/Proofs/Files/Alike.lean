import Gatekeeper.Proofs.Files.Child

/-! Disks that differ at some locations only, where there is no directory on either. Paths lead to the same places on
both, and what they lead to looks the same if it is not one of these locations. -/

namespace Gatekeeper

/-- What can be seen of what stands somewhere: all but the number of a file. -/
def Node.seen : Node → Node
  | directory => directory
  | file _ executable bytes => file 0 executable bytes

namespace Disk

def seen? (disk : Disk) (place : Location) : Option Node :=
  (disk.node? place).map Node.seen

/-- Two disks with the same home that look the same but at some loose locations, at which there is no directory. -/
structure Alike (home : Location) (loose : Set Location) (one other : Disk) : Prop where
  home_eq : one.home = home
  home_eq' : other.home = home
  levels_eq : one.levels = other.levels
  seen_eq : ∀ place, place ∉ loose → one.seen? place = other.seen? place
  loose_ne : ∀ place, place ∈ loose → one.node? place ≠ some .directory
  loose_ne' : ∀ place, place ∈ loose → other.node? place ≠ some .directory

variable {home place target : Location} {loose : Set Location} {disk one other one' other' : Disk}

theorem seen?_eq_directory_iff : disk.seen? place = some .directory ↔ disk.node? place = some .directory := by
  rw [seen?]
  rcases disk.node? place with _ | _ | ⟨id, executable, bytes⟩ <;> simp [Node.seen]

theorem seen?_eq_file_iff {executable : Bool} {bytes : List UInt8} :
    disk.seen? place = some (.file 0 executable bytes) ↔
      ∃ id, disk.node? place = some (.file id executable bytes) := by
  rw [seen?]
  rcases disk.node? place with _ | _ | ⟨id, executable, bytes⟩ <;> simp [Node.seen]

theorem seen?_eq_none_iff : disk.seen? place = none ↔ disk.node? place = none := by
  rw [seen?, Option.map_eq_none_iff]

/-- What looks the same is of one kind. -/
theorem node_cases_of_seen?_eq (h : one.seen? place = other.seen? place) :
    (one.node? place = none ∧ other.node? place = none) ∨
      (one.node? place = some .directory ∧ other.node? place = some .directory) ∨
      ∃ id id' executable bytes, one.node? place = some (.file id executable bytes) ∧
        other.node? place = some (.file id' executable bytes) := by
  rcases hone : one.node? place with _ | _ | ⟨id, executable, bytes⟩
  · rw [seen?_eq_none_iff.mpr hone, eq_comm, seen?_eq_none_iff] at h
    exact .inl ⟨rfl, h⟩
  · rw [seen?_eq_directory_iff.mpr hone, eq_comm, seen?_eq_directory_iff] at h
    exact .inr (.inl ⟨rfl, h⟩)
  · rw [seen?_eq_file_iff.mpr ⟨id, hone⟩, eq_comm, seen?_eq_file_iff] at h
    obtain ⟨id', hother⟩ := h
    exact .inr (.inr ⟨id, id', executable, bytes, rfl, hother⟩)

theorem bytes?_eq_of_seen?_eq (h : one.seen? place = other.seen? place) :
    one.bytes? place = other.bytes? place := by
  rw [bytes?, bytes?]
  rcases node_cases_of_seen?_eq h with ⟨hone, hother⟩ | ⟨hone, hother⟩ | ⟨_, _, _, _, hone, hother⟩ <;>
    rw [hone, hother]

/-- Disks that look the same at the loose locations too are alike everywhere. -/
theorem Alike.everywhere (h : Alike home loose one other)
    (hloose : ∀ place, place ∈ loose → one.seen? place = other.seen? place) : Alike home ∅ one other := by
  refine ⟨h.home_eq, h.home_eq', h.levels_eq, fun place _ => ?_, fun _ hnone => absurd hnone (Set.notMem_empty _),
    fun _ hnone => absurd hnone (Set.notMem_empty _)⟩
  by_cases hplace : place ∈ loose
  · exact hloose place hplace
  · exact h.seen_eq place hplace

theorem Alike.directory_iff (h : Alike home loose one other) (place : Location) :
    one.node? place = some .directory ↔ other.node? place = some .directory := by
  by_cases hplace : place ∈ loose
  · exact iff_of_false (h.loose_ne place hplace) (h.loose_ne' place hplace)
  · rw [← seen?_eq_directory_iff, h.seen_eq place hplace, seen?_eq_directory_iff]

/-- What stands at a location that is not loose is of one kind on both disks. -/
theorem Alike.node_cases (h : Alike home loose one other) (hplace : place ∉ loose) :
    (one.node? place = none ∧ other.node? place = none) ∨
      (one.node? place = some .directory ∧ other.node? place = some .directory) ∨
      ∃ id id' executable bytes, one.node? place = some (.file id executable bytes) ∧
        other.node? place = some (.file id' executable bytes) :=
  node_cases_of_seen?_eq (h.seen_eq place hplace)

/-- Whatever is done at one location, disks stay alike if they look the same there or it is a loose one without a
directory. -/
theorem Alike.change (h : Alike home loose one other) (hhome : one'.home = one.home)
    (hhome' : other'.home = other.home) (hlevels : one'.levels = one.levels) (hlevels' : other'.levels = other.levels)
    (hone : ∀ place, place ≠ target → one'.node? place = one.node? place)
    (hother : ∀ place, place ≠ target → other'.node? place = other.node? place)
    (hseen : target ∉ loose → one'.seen? target = other'.seen? target)
    (hloose : target ∈ loose → one'.node? target ≠ some .directory ∧ other'.node? target ≠ some .directory) :
    Alike home loose one' other' := by
  refine ⟨hhome.trans h.home_eq, hhome'.trans h.home_eq', hlevels.trans (h.levels_eq.trans hlevels'.symm),
    fun place hplace => ?_, fun place hplace => ?_,
    fun place hplace => ?_⟩
  · by_cases htarget : place = target
    · exact htarget ▸ hseen (htarget ▸ hplace)
    · rw [seen?, seen?, hone place htarget, hother place htarget]
      exact h.seen_eq place hplace
  · by_cases htarget : place = target
    · exact htarget ▸ (hloose (htarget ▸ hplace)).1
    · rw [hone place htarget]
      exact h.loose_ne place hplace
  · by_cases htarget : place = target
    · exact htarget ▸ (hloose (htarget ▸ hplace)).2
    · rw [hother place htarget]
      exact h.loose_ne' place hplace

/-- Disks stay alike when two nodes that look the same are put at a location, if they are no directories or the
location is not loose. -/
theorem Alike.put {node node' : Node} (h : Alike home loose one other) (hseen : target ∉ loose → node.seen = node'.seen)
    (hloose : target ∈ loose → node ≠ .directory ∧ node' ≠ .directory) :
    Alike home loose (one.put target node) (other.put target node') := by
  refine h.change rfl rfl rfl rfl (fun _ hne => node?_put_of_ne hne one node) (fun _ hne => node?_put_of_ne hne other node')
    (fun htarget => ?_) fun htarget => ?_
  · rw [seen?, seen?, node?_put_self, node?_put_self, Option.map_some, Option.map_some, hseen htarget]
  · rw [node?_put_self, node?_put_self]
    simpa using hloose htarget

theorem Alike.erase (h : Alike home loose one other) (target : Location) :
    Alike home loose (one.erase target) (other.erase target) := by
  refine h.change rfl rfl rfl rfl (fun _ hne => node?_erase_of_ne hne one) (fun _ hne => node?_erase_of_ne hne other)
    (fun _ => ?_) fun _ => ?_
  · rw [seen?, seen?, node?_erase_self, node?_erase_self]
  · rw [node?_erase_self, node?_erase_self]
    simp

theorem Alike.eraseAll (h : Alike home loose one other) (target : Location) :
    Alike home loose (one.eraseAll target) (other.eraseAll target) := by
  refine ⟨h.home_eq, h.home_eq', h.levels_eq, fun place hplace => ?_, fun place hplace => ?_, fun place hplace => ?_⟩
  · rw [seen?, seen?, node?_eraseAll, node?_eraseAll]
    split
    · rfl
    · exact h.seen_eq place hplace
  · rw [node?_eraseAll]
    split
    · simp
    · exact h.loose_ne place hplace
  · rw [node?_eraseAll]
    split
    · simp
    · exact h.loose_ne' place hplace

end Disk

namespace Files

open Disk

variable {home : Location} {loose : Set Location} {one other : Disk} {path : Path}

/-- Whether no location on the way of a path is loose. -/
def WayIsFirm (home : Location) (loose : Set Location) (path : Path) : Prop :=
  ∀ left ∈ route home path, left ∉ loose

/-- Whether no location on the way of a path is loose, nor the one that it leads to. -/
def IsFirm (home : Location) (loose : Set Location) (path : Path) : Prop :=
  WayIsFirm home loose path ∧ nominal home path ∉ loose

theorem isFirm_empty (home : Location) (path : Path) : IsFirm home ∅ path :=
  ⟨fun _ _ => Set.notMem_empty _, Set.notMem_empty _⟩

theorem passed_append (place : Location) (parts : List String) (part : String) :
    passed place (parts ++ [part]) = passed place parts ++ [parts.foldl step place] := by
  induction parts generalizing place with
  | nil => rfl
  | cons first rest ih => rw [List.cons_append, passed, passed, ih, List.foldl_cons, List.cons_append]

theorem route_child (home : Location) (path : Path) (part : String) :
    route home (path.child part) = route home path ++ [nominal home path] :=
  passed_append _ path.parts part

theorem wayIsFirm_child (h : IsFirm home loose path) (part : String) : WayIsFirm home loose (path.child part) := by
  intro left hleft
  rw [route_child] at hleft
  rcases List.mem_append.mp hleft with hway | hend
  · exact h.1 left hway
  · rw [List.mem_singleton.mp hend]
    exact h.2

/-- A path is its parent with one more part, or it has none and is its own parent. -/
theorem eq_child_or_parent_eq (path : Path) : (∃ part, path = path.parent.child part) ∨ path.parent = path := by
  obtain ⟨anchor, parts⟩ := path
  rcases List.eq_nil_or_concat parts with rfl | ⟨first, part, rfl⟩
  · exact .inr rfl
  · refine .inl ⟨part, ?_⟩
    simp [Path.parent, Path.child]

theorem wayIsFirm_of_parent (h : IsFirm home loose path.parent) : WayIsFirm home loose path := by
  rcases eq_child_or_parent_eq path with ⟨part, hpath⟩ | hself
  · rw [hpath]
    exact wayIsFirm_child h part
  · rw [hself] at h
    exact h.1

theorem isFirm_parent (h : IsFirm home loose path) : IsFirm home loose path.parent := by
  rcases eq_child_or_parent_eq path with ⟨part, hpath⟩ | hself
  · obtain ⟨hway, -⟩ := h
    rw [hpath, WayIsFirm, route_child] at hway
    exact ⟨fun left hleft => hway left (List.mem_append_left _ hleft),
      hway _ (List.mem_append_right _ List.mem_cons_self)⟩
  · rwa [hself]

theorem length_step_le (place : Location) (part : String) : (step place part).length ≤ place.length + 1 := by
  rw [step]
  split <;> simp
  omega

theorem length_foldl_step_le (place : Location) (parts : List String) :
    (parts.foldl step place).length ≤ place.length + parts.length := by
  induction parts generalizing place with
  | nil => exact Nat.le_refl _
  | cons part rest ih =>
      have hstep := length_step_le place part
      have hrest := ih (step place part)
      rw [List.foldl_cons, List.length_cons]
      omega

theorem length_lt_of_mem_passed {place left : Location} {parts : List String} (h : left ∈ passed place parts) :
    left.length < place.length + parts.length := by
  induction parts generalizing place with
  | nil => cases h
  | cons part rest ih =>
      rw [List.length_cons]
      rcases List.mem_cons.mp h with rfl | h
      · omega
      · have hstep := length_step_le place part
        have hrest := ih h
        omega

/-- A path from the root passes no location with more names than it has parts, and leads to none. -/
theorem isFirm_of_length_lt (habsolute : path.isAbsolute = true) (h : ∀ left ∈ loose, path.parts.length < left.length) :
    IsFirm home loose path := by
  constructor
  · intro left hleft hloose
    rw [route, if_pos habsolute] at hleft
    have hshort := length_lt_of_mem_passed hleft
    have hlong := h left hloose
    rw [List.length_nil] at hshort
    omega
  · intro hloose
    have hlong := h _ hloose
    rw [nominal, if_pos habsolute] at hlong
    have hshort := length_foldl_step_le [] path.parts
    rw [List.length_nil] at hshort
    omega

theorem start_eq_of_alike (h : Alike home loose one other) (anchor : Anchor) :
    start one anchor = start other anchor := by
  cases anchor
  · exact h.home_eq.trans h.home_eq'.symm
  · rfl
  · rfl

/-- Names that are followed on disks that are alike lead to the same place. If they lead nowhere, the reason can only
be another one where they pass a loose location. -/
theorem follow_cases (h : Alike home loose one other) (place : Location) (parts : List String) :
    follow one place parts = follow other place parts ∨
      (∃ left ∈ passed place parts, left ∈ loose) ∧ ∃ cause cause', follow one place parts = .error cause ∧
        follow other place parts = .error cause' ∧ cause ≠ .nameTooLong ∧ cause' ≠ .nameTooLong := by
  induction parts generalizing place with
  | nil => exact .inl rfl
  | cons part rest ih =>
      by_cases hloose : place ∈ loose
      · right
        have hnone : ∀ disk : Disk, disk.node? place ≠ some .directory →
            ∃ cause, follow disk place (part :: rest) = .error cause ∧ cause ≠ .nameTooLong := by
          intro disk hdisk
          rcases hnode : disk.node? place with _ | _ | ⟨id, executable, bytes⟩
          · exact ⟨.notFound, by rw [follow, hnode], by simp⟩
          · exact absurd hnode hdisk
          · exact ⟨.notDirectory, by rw [follow, hnode], by simp⟩
        obtain ⟨cause, hone, hcause⟩ := hnone one (h.loose_ne place hloose)
        obtain ⟨cause', hother, hcause'⟩ := hnone other (h.loose_ne' place hloose)
        exact ⟨⟨place, List.mem_cons_self, hloose⟩, cause, cause', hone, hother, hcause, hcause'⟩
      · rcases h.node_cases hloose with ⟨hone, hother⟩ | ⟨hone, hother⟩ | ⟨_, _, _, _, hone, hother⟩
        · left
          rw [follow, follow, hone, hother]
        · rw [follow, follow, hone, hother]
          simp only
          split
          · exact .inl rfl
          · rcases ih (step place part) with hsame | ⟨⟨left, hleft, hloose⟩, hends⟩
            · exact .inl hsame
            · exact .inr ⟨⟨left, List.mem_cons_of_mem place hleft, hloose⟩, hends⟩
        · left
          rw [follow, follow, hone, hother]

theorem locate_cases (h : Alike home loose one other) (path : Path) :
    locate one path = locate other path ∨
      ¬WayIsFirm home loose path ∧ ∃ cause cause', locate one path = .error cause ∧
        locate other path = .error cause' ∧ cause ≠ .nameTooLong ∧ cause' ≠ .nameTooLong := by
  rw [locate, locate, start_eq_of_alike h]
  split
  · exact .inl rfl
  · split
    · exact .inl rfl
    · rcases follow_cases h (start other path.anchor) path.parts with hsame | ⟨⟨left, hleft, hloose⟩, hends⟩
      · exact .inl hsame
      · rw [start_eq, h.home_eq'] at hleft
        exact .inr ⟨fun hfirm => hfirm left hleft hloose, hends⟩

theorem locate_eq_ok_iff_of_alike {place : Location} (h : Alike home loose one other) :
    locate one path = .ok place ↔ locate other path = .ok place := by
  rcases locate_cases h path with hsame | ⟨-, cause, cause', hone, hother, -⟩
  · rw [hsame]
  · rw [hone, hother]
    simp

theorem locate_eq_of_alike (h : Alike home loose one other) (hfirm : WayIsFirm home loose path) :
    locate one path = locate other path :=
  (locate_cases h path).resolve_right fun hends => hends.1 hfirm

theorem lookup_of_locate_eq_error {disk : Disk} {cause : FileError} (h : locate disk path = .error cause) :
    lookup disk path = if cause = .nameTooLong then .error .nameTooLong else .ok none := by
  rw [lookup, h]
  cases cause <;> rfl

/-- What a path leads to is of one kind on both disks if its location is not loose. -/
theorem lookup_cases (h : Alike home loose one other) (hplace : nominal home path ∉ loose) :
    (∃ cause, lookup one path = .error cause ∧ lookup other path = .error cause) ∨
      (lookup one path = .ok none ∧ lookup other path = .ok none) ∨
      (lookup one path = .ok (some .directory) ∧ lookup other path = .ok (some .directory)) ∨
      ∃ id id' executable bytes, lookup one path = .ok (some (.file id executable bytes)) ∧
        lookup other path = .ok (some (.file id' executable bytes)) := by
  rcases locate_cases h path with hsame | ⟨-, cause, cause', hone, hother, hcause, hcause'⟩
  · cases hlocate : locate one path with
    | error cause =>
        rw [lookup_of_locate_eq_error hlocate, lookup_of_locate_eq_error (hsame ▸ hlocate)]
        split
        · exact .inl ⟨.nameTooLong, rfl, rfl⟩
        · exact .inr (.inl ⟨rfl, rfl⟩)
    | ok place =>
        have hfirm : place ∉ loose := by rwa [eq_nominal_of_locate hlocate, h.home_eq]
        rw [lookup, lookup, ← hsame, hlocate]
        simp only [Except.ok.injEq]
        exact .inr (h.node_cases hfirm)
  · rw [lookup_of_locate_eq_error hone, lookup_of_locate_eq_error hother, if_neg hcause, if_neg hcause']
    exact .inr (.inl ⟨rfl, rfl⟩)

end Files

end Gatekeeper
