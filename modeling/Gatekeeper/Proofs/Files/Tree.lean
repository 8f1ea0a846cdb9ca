import Gatekeeper.Proofs.Files.Twin

/-! Trees of files, in which everything stands in a directory. Work on files leaves a tree, as long as it does not take
the place away in which the program runs. A path without a way up leads in a tree to what stands at its location. -/

namespace Gatekeeper

open Work

namespace Disk

/-- A disk on which everything stands in a directory, and which the program uses from a directory. -/
structure IsTree (home : Location) (disk : Disk) : Prop where
  home_eq : disk.home = home
  directory_home : disk.node? home = some .directory
  directory_above {place : Location} {node : Node} :
    disk.node? place = some node → disk.node? place.dropLast = some .directory

variable {home place target : Location} {loose : Set Location} {disk after one other : Disk} {node : Node}

theorem IsTree.directory_of_append {rest : Location} (h : disk.IsTree home) (hrest : rest ≠ [])
    (hnode : disk.node? (place ++ rest) = some node) : disk.node? place = some .directory := by
  induction rest using List.reverseRecOn generalizing node with
  | nil => exact absurd rfl hrest
  | append_singleton rest name ih =>
      have habove := h.directory_above hnode
      rw [← List.append_assoc, List.dropLast_concat] at habove
      by_cases hempty : rest = []
      · rwa [hempty, List.append_nil] at habove
      · exact ih hempty habove

theorem IsTree.directory_root (h : disk.IsTree home) : disk.node? [] = some .directory := by
  by_cases hhome : home = []
  · exact hhome ▸ h.directory_home
  · exact h.directory_of_append hhome (by simpa using h.directory_home)

/-- A tree stays one when something changes where there is no directory, and what comes there stands in one. -/
theorem IsTree.change (h : disk.IsTree home) (htarget : disk.node? target ≠ some .directory)
    (hhome : after.home = disk.home) (hother : ∀ place, place ≠ target → after.node? place = disk.node? place)
    (habove : after.node? target = none ∨ disk.node? target.dropLast = some .directory) : after.IsTree home := by
  have hdirectory : ∀ place, disk.node? place = some .directory → after.node? place = some .directory := by
    intro place hplace
    rwa [hother place (fun hsame => htarget (hsame ▸ hplace))]
  refine ⟨hhome.trans h.home_eq, hdirectory home h.directory_home, fun {place node} hnode => ?_⟩
  by_cases hplace : place = target
  · subst hplace
    rcases habove with hnone | habove
    · rw [hnone] at hnode
      cases hnode
    · exact hdirectory _ habove
  · rw [hother place hplace] at hnode
    exact hdirectory _ (h.directory_above hnode)

theorem IsTree.put (h : disk.IsTree home) (htarget : disk.node? target ≠ some .directory)
    (habove : disk.node? target.dropLast = some .directory) (node : Node) : (disk.put target node).IsTree home :=
  h.change htarget rfl (fun _ hne => node?_put_of_ne hne disk node) (.inr habove)

theorem IsTree.create (h : disk.IsTree home) (htarget : disk.node? target ≠ some .directory)
    (habove : disk.node? target.dropLast = some .directory) (executable : Bool) (bytes : List UInt8) :
    (disk.create target executable bytes).IsTree home :=
  h.change htarget rfl (fun _ hne => node?_create_of_ne hne disk executable bytes) (.inr habove)

theorem IsTree.eraseAll (h : disk.IsTree home) (htarget : ¬target <+: home) : (disk.eraseAll target).IsTree home := by
  refine ⟨h.home_eq, ?_, fun {place node} hnode => ?_⟩
  · rw [node?_eraseAll, if_neg htarget]
    exact h.directory_home
  · rw [node?_eraseAll] at hnode ⊢
    split at hnode
    · cases hnode
    · rename_i hplace
      rw [if_neg fun habove => hplace (habove.trans (List.dropLast_prefix place))]
      exact h.directory_above hnode

theorem node?_empty (home place : Location) :
    (empty home).node? place = if place <+: home then some .directory else none := by
  rw [node?, empty, ancestors]
  split
  · rename_i hprefix
    have hmem : (place, Node.directory) ∈
        (List.range (home.length + 1)).map fun count => (home.take count, Node.directory) := by
      refine List.mem_map.mpr ⟨place.length, List.mem_range.mpr (Nat.lt_succ_of_le hprefix.length_le), ?_⟩
      rw [← List.prefix_iff_eq_take.mp hprefix]
    cases hfound : List.lookup place
        ((List.range (home.length + 1)).map fun count => (home.take count, Node.directory)) with
    | none => simpa using List.lookup_eq_none_iff.mp hfound _ hmem
    | some node =>
        obtain ⟨first, rest, happend, -⟩ := List.lookup_eq_some_iff.mp hfound
        have hnode : (place, node) ∈ first ++ (place, node) :: rest := by simp
        rw [← happend] at hnode
        obtain ⟨count, -, hentry⟩ := List.mem_map.mp hnode
        cases hentry
        rfl
  · rename_i hprefix
    refine List.lookup_eq_none_iff.mpr fun entry hentry => ?_
    obtain ⟨count, -, rfl⟩ := List.mem_map.mp hentry
    have hne : place ≠ home.take count := fun heq => hprefix (heq ▸ List.take_prefix count home)
    simpa using hne

/-- A disk with nothing but the way to the place where the program runs is a tree. -/
theorem isTree_empty (home : Location) : (empty home).IsTree home := by
  refine ⟨rfl, by rw [node?_empty, if_pos List.prefix_rfl], fun {place node} hnode => ?_⟩
  rw [node?_empty] at hnode ⊢
  split at hnode
  · rename_i hprefix
    rw [if_pos ((List.dropLast_prefix place).trans hprefix)]
  · cases hnode

/-- A disk is a tree if one is that is alike, where something stands at all loose locations. -/
theorem IsTree.of_alike (h : one.IsTree home) (halike : Alike home loose one other)
    (hloose : ∀ place, place ∈ loose → one.node? place ≠ none) : other.IsTree home := by
  refine ⟨halike.home_eq', (halike.directory_iff home).mp h.directory_home, fun {place node} hnode => ?_⟩
  have hone : one.node? place ≠ none := by
    by_cases hplace : place ∈ loose
    · exact hloose place hplace
    · intro hone
      rw [← seen?_eq_none_iff, halike.seen_eq place hplace, seen?_eq_none_iff, hnode] at hone
      cases hone
  obtain ⟨found, hfound⟩ := Option.ne_none_iff_exists'.mp hone
  exact (halike.directory_iff _).mp (h.directory_above hfound)

end Disk

namespace Files

open Disk

variable {home place target : Location} {disk later : Disk} {path : Path}

/-- A path that leads somewhere in a tree ends in a name, which can stand in a directory, or it leads to a directory. -/
theorem name_or_directory_of_locate (h : disk.IsTree home) (hlocate : locate disk path = .ok target) :
    (endsInName path = true ∧ disk.node? target.dropLast = some .directory) ∨
      disk.node? target = some .directory := by
  have hfollow := follow_of_locate hlocate
  rcases List.eq_nil_or_concat path.parts with hparts | ⟨parts, part, hparts⟩
  · have hstart : disk.node? (start disk path.anchor) = some .directory := by
      rw [start_eq, h.home_eq]
      split
      · exact h.directory_root
      · exact h.directory_home
    rw [hparts] at hfollow
    cases hfollow
    exact .inr hstart
  · rw [hparts, List.concat_eq_append] at hfollow
    obtain ⟨middle, -, hmiddle, -, htarget⟩ := follow_append_eq_ok.mp hfollow
    by_cases hup : part = ".."
    · rw [step, if_pos hup] at htarget
      rw [htarget]
      exact .inr (h.directory_above hmiddle)
    · rw [step_of_ne hup] at htarget
      refine .inl ⟨?_, by rwa [htarget, List.dropLast_concat]⟩
      rw [endsInName, hparts, List.concat_eq_append, List.getLast?_concat]
      simpa using hup

/-- Where a path leads in a tree, something stands or can come to stand. -/
theorem directory_above_of_locate (h : disk.IsTree home) (hlocate : locate disk path = .ok target)
    (hnone : disk.node? target = none) : disk.node? target.dropLast = some .directory := by
  rcases name_or_directory_of_locate h hlocate with ⟨-, habove⟩ | hdirectory
  · exact habove
  · rw [hnone] at hdirectory
    cases hdirectory

theorem keepsTree_makeDirectory (path : Path) : Keeps (Lasts (IsTree home)) (makeDirectory path) :=
  keeps_makeDirectory_of fun _ _ hlocate hnone h =>
    h.put (by simp [hnone]) (directory_above_of_locate h hlocate hnone) .directory

theorem keepsTree_ensureDirectory (path : Path) : Keeps (Lasts (IsTree home)) (ensureDirectory path) :=
  keeps_ensureDirectory_of_makeDirectory keepsTree_makeDirectory path

theorem keepsTree_write (path : Path) (bytes : List UInt8) : Keeps (Lasts (IsTree home)) (write path bytes) := by
  apply keeps_resolve_bind
  intro disk target hlocate h
  rw [finish_get_bind]
  split
  · rename_i hfile
    exact h.put (by simp [hfile]) (h.directory_above hfile) _
  · exact h
  · rename_i hnone
    exact h.create (by simp [hnone]) (directory_above_of_locate h hlocate hnone) false bytes

theorem keepsTree_setExecutable (path : Path) (executable : Bool) :
    Keeps (Lasts (IsTree home)) (setExecutable path executable) := by
  apply keeps_resolve_bind
  intro disk target hlocate h
  rw [finish_get_bind]
  split
  · rename_i hfile
    exact h.put (by simp [hfile]) (h.directory_above hfile) _
  · exact h
  · exact h

theorem keepsTree_discard (hpath : ¬nominal home path <+: home) : Keeps (Lasts (IsTree home)) (discard path) := by
  intro disk h
  have hrun := run_discard path disk
  cases hlocate : locate disk path with
  | error cause =>
      rw [hlocate] at hrun
      rwa [finish_of_ok hrun]
  | ok target =>
      rw [hlocate] at hrun
      rw [finish_of_ok hrun]
      by_cases hdirectory : disk.node? target = some .directory
      · have htarget : target = nominal home path := h.home_eq ▸ eq_nominal_of_locate hlocate
        rw [discarded, hdirectory]
        exact h.eraseAll (htarget ▸ hpath)
      · obtain ⟨hhome, hnone, hother⟩ := discarded_of_ne hdirectory
        exact h.change hdirectory hhome hother (.inl hnone)

/-- Whether what stands at the location that a path names, if anything, is what the path leads to. -/
def Sees (disk : Disk) (path : Path) : Prop :=
  disk.node? (nominal disk.home path) = none ∨ locate disk path = .ok (nominal disk.home path)

theorem foldl_step_of_not_up {parts : List String} (h : ".." ∉ parts) (place : Location) :
    parts.foldl step place = place ++ parts := by
  induction parts generalizing place with
  | nil => exact (List.append_nil place).symm
  | cons part rest ih =>
      rw [List.mem_cons, not_or] at h
      rw [List.foldl_cons, step_of_ne (Ne.symm h.1), ih h.2, List.append_assoc, List.singleton_append]

/-- Whether a text can be the name of what stands in a directory. -/
def IsEntryName (name : String) : Prop :=
  name ≠ ".." ∧ Char.ofNat 0 ∉ name.toList ∧ name.utf8ByteSize ≤ maxName

instance (name : String) : Decidable (IsEntryName name) :=
  inferInstanceAs (Decidable (_ ∧ _ ∧ _))

theorem follow_of_isTree {names : List String} {node : Node} (h : disk.IsTree home)
    (hnames : ∀ name ∈ names, IsEntryName name) (hnode : disk.node? (place ++ names) = some node) :
    follow disk place names = .ok (place ++ names) := by
  induction names generalizing place with
  | nil => rw [follow, List.append_nil]
  | cons name rest ih =>
      obtain ⟨hup, -, hshort⟩ := hnames name List.mem_cons_self
      have happend : place ++ name :: rest = step place name ++ rest := by
        rw [step_of_ne hup, List.append_assoc, List.singleton_append]
      refine follow_cons_eq_ok.mpr ⟨h.directory_of_append (List.cons_ne_nil name rest) hnode, hshort, ?_⟩
      rw [happend] at hnode ⊢
      exact ih (fun other hother => hnames other (List.mem_cons_of_mem name hother)) hnode

theorem isEntryName_of_follow {parts : List String} (h : follow disk place parts = .ok target)
    (hparts : ∀ part ∈ parts, part.contains (Char.ofNat 0) = false) (hplace : ∀ name ∈ place, IsEntryName name) :
    ∀ name ∈ target, IsEntryName name := by
  induction parts generalizing place with
  | nil =>
      cases h
      exact hplace
  | cons part rest ih =>
      obtain ⟨-, hshort, hrest⟩ := follow_cons_eq_ok.mp h
      refine ih hrest (fun other hother => hparts other (List.mem_cons_of_mem part hother)) fun name hname => ?_
      rw [step] at hname
      split at hname
      · exact hplace name (List.mem_of_mem_dropLast hname)
      · rename_i hup
        rcases List.mem_append.mp hname with hname | hname
        · exact hplace name hname
        · rw [List.mem_singleton.mp hname]
          exact ⟨hup, by simpa using hparts part List.mem_cons_self, hshort⟩

/-- A path leads to a location of proper names, if the place is one where the program runs. -/
theorem isEntryName_of_locate (h : locate disk path = .ok target) (hhome : ∀ name ∈ disk.home, IsEntryName name) :
    ∀ name ∈ target, IsEntryName name := by
  obtain ⟨hparts, -, hfollow⟩ := locate_eq_ok_iff.mp h
  refine isEntryName_of_follow hfollow hparts fun name hname => ?_
  rw [start_eq] at hname
  split at hname
  · cases hname
  · exact hhome name hname

/-- In a tree an absolute path leads to what stands at its location, if its names are proper and its text is not too
long. -/
theorem locate_absolute_of_isTree {node : Node} (h : disk.IsTree home)
    (hnames : ∀ name ∈ nominal home path, IsEntryName name) (htext : (absolute home path).text.utf8ByteSize < maxPath)
    (hnode : disk.node? (nominal home path) = some node) :
    locate disk (absolute home path) = .ok (nominal home path) := by
  have hstart : start disk (absolute home path).anchor = [] := by
    rw [absolute]
    simp only
    split <;> rfl
  have hfollow : follow disk [] (nominal home path) = .ok ([] ++ nominal home path) := follow_of_isTree h hnames hnode
  refine locate_eq_ok_iff.mpr ⟨fun name hname => by simpa using (hnames name hname).2.1, htext, ?_⟩
  rw [hstart]
  exact hfollow

/-- What a path without a way up passes lies above where it leads. -/
theorem exists_append_of_mem_passed {parts : List String} {left : Location} (h : ".." ∉ parts)
    (hleft : left ∈ passed place parts) : ∃ rest, rest ≠ [] ∧ place ++ parts = left ++ rest := by
  induction parts generalizing place with
  | nil => cases hleft
  | cons part rest ih =>
      rw [List.mem_cons, not_or] at h
      rcases List.mem_cons.mp hleft with rfl | hleft
      · exact ⟨part :: rest, List.cons_ne_nil part rest, rfl⟩
      · rw [step_of_ne (Ne.symm h.1)] at hleft
        obtain ⟨below, hbelow, happend⟩ := ih h.2 hleft
        rw [List.append_assoc, List.singleton_append] at happend
        exact ⟨below, hbelow, happend⟩

/-- A path without a way up that once led somewhere sees what stands there in every tree. -/
theorem sees_of_isTree (h : later.IsTree home) (hup : ".." ∉ path.parts) (hhome : disk.home = home)
    (hlocate : locate disk path = .ok place) : Sees later path := by
  rcases hnode : later.node? (nominal later.home path) with _ | node
  · exact .inl hnode
  · right
    have hplace : place = nominal later.home path := by rw [eq_nominal_of_locate hlocate, hhome, h.home_eq]
    rw [← hplace]
    refine locate_of_locate hlocate (h.home_eq.trans hhome.symm) fun left hleft => ?_
    rw [hhome] at hleft
    obtain ⟨rest, hrest, happend⟩ := exists_append_of_mem_passed hup hleft
    have hbelow : later.node? (left ++ rest) = some node := by
      rw [← happend, ← foldl_step_of_not_up hup, ← h.home_eq]
      exact hnode
    exact h.directory_of_append hrest hbelow

/-- A path with a way up need not see what stands at its location: what it passes may be gone. -/
example :
    ¬Sees ((Disk.empty ["home"]).create ["home", "r.info"] false []) ⟨.relative, ["gen", "..", "r.info"]⟩ := by
  rintro (hnone | hlocate)
  · exact absurd hnone (by decide)
  · have hmissing : locate ((Disk.empty ["home"]).create ["home", "r.info"] false [])
        ⟨.relative, ["gen", "..", "r.info"]⟩ = .error .notFound := by cbv
    rw [hmissing] at hlocate
    cases hlocate

end Files

/-- Whether what is put at a path leaves the place where the program runs. -/
def Content.SparesHome (home : Location) (path : Path) (content : Content) : Prop :=
  content = .absent → ¬Files.nominal home path <+: home

namespace Run

open Disk Files

variable {home : Location}

theorem keepsTree_place {name : String} {content : Content} (h : content.SparesHome home (Path.ofText name)) :
    Keeps (Lasts (IsTree home)) (Run.place name content) := by
  cases content with
  | absent => exact keepsTree_discard (h rfl)
  | directory => exact keepsTree_ensureDirectory _
  | file bytes executable =>
      refine Keeps.bind (keepsTree_ensureDirectory _) fun _ => ?_
      refine Keeps.bind (keepsTree_write _ bytes) fun _ => ?_
      cases executable with
      | none => exact Keeps.pure _
      | some mark => exact keepsTree_setExecutable _ mark

/-- Several contents leave a tree if none of them takes the place away where the program runs. -/
theorem keepsTree_placeAll {writes : List (String × Content)}
    (h : ∀ write ∈ writes, write.2.SparesHome home (Path.ofText write.1)) :
    Keeps (Lasts (IsTree home)) (placeAll writes) :=
  Keeps.forM fun write hwrite => keepsTree_place (h write hwrite)

end Run

end Gatekeeper
