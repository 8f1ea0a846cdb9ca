import Gatekeeper.Proofs.Baseline.Store
import Gatekeeper.Proofs.Files.Tree
import Gatekeeper.Proofs.Number.DecimalText
import Gatekeeper.Proofs.Number.DecimalValue

/-! When a ratio can be stored. Among the names of new files there is always one that is free, so that all
that may be missing beside a place is the room for so long a name. -/

namespace Gatekeeper.Baseline

open Work Disk Files Number

variable {disk : Disk} {path : Path} {name : String} {place : Location}

/-- The number in the name of a new file, with zeros before it. -/
def paddedDigits (n : Nat) : List Char :=
  List.replicate (8 - (digitChars n).length) '0' ++ digitChars n

theorem toList_temporaryName (name : String) (n : Nat) :
    (temporaryName name n).toList = '.' :: (name.toList ++ '.' :: (paddedDigits n ++ ".tmp".toList)) := by
  simp [temporaryName, paddedDigits, digitChars]

theorem temporaryName_injective (name : String) : Function.Injective (temporaryName name) := by
  intro m n h
  have hlists := congrArg String.toList h
  rw [toList_temporaryName, toList_temporaryName] at hlists
  have hdigits : paddedDigits m = paddedDigits n := by simpa using hlists
  have hnumbers := congrArg ofAsciiDigits hdigits
  rwa [paddedDigits, paddedDigits, ofAsciiDigits_zeros_append, ofAsciiDigits_zeros_append,
    ofAsciiDigits_digitChars, ofAsciiDigits_digitChars] at hnumbers

theorem temporaryName_ne_up (name : String) (n : Nat) : temporaryName name n ≠ ".." := by
  intro h
  have hlengths := congrArg (List.length ∘ String.toList) h
  simp only [Function.comp_apply, toList_temporaryName, List.length_cons, List.length_append] at hlengths
  have hshort : "..".toList.length = 2 ∧ ".tmp".toList.length = 4 := by decide
  omega

theorem contains_temporaryName (h : name.contains (Char.ofNat 0) = false) (n : Nat) :
    (temporaryName name n).contains (Char.ofNat 0) = false := by
  have hdigits : Char.ofNat 0 ∉ paddedDigits n := by
    intro hmem
    rcases List.mem_append.mp hmem with hzeros | hdigits
    · exact absurd (List.eq_of_mem_replicate hzeros) (by decide)
    · exact absurd (isAsciiDigit_of_mem_digitChars hdigits) (by decide)
  have hname : Char.ofNat 0 ∉ name.toList := by simpa using h
  simp [toList_temporaryName, hdigits, hname]

theorem utf8Len_paddedDigits {n : Nat} (h : n < 10 ^ 8) : String.utf8Len (paddedDigits n) = 8 := by
  have hplain : ∀ c ∈ paddedDigits n, c.utf8Size = 1 := by
    intro c hc
    rcases List.mem_append.mp hc with hzeros | hdigits
    · rw [List.eq_of_mem_replicate hzeros]
      decide
    · obtain ⟨-, hplain, -⟩ := isPlain_of_isAsciiDigit (isAsciiDigit_of_mem_digitChars hdigits)
      exact Char.utf8Size_eq_one_iff.mpr (UInt32.le_iff_toNat_le.mpr (Nat.le_of_lt hplain))
  have hlength : (paddedDigits n).length = 8 := by
    have hdigits : (digitChars n).length ≤ 8 := Nat.toDigits_length 10 n 8 (by decide) h
    rw [paddedDigits, List.length_append, List.length_replicate]
    omega
  rw [← hlength]
  generalize paddedDigits n = digits at hplain
  induction digits with
  | nil => rfl
  | cons c rest ih =>
      rw [String.utf8Len_cons, List.length_cons, hplain c List.mem_cons_self,
        ih fun other hother => hplain other (List.mem_cons_of_mem c hother)]

/-- The name of a new file has fourteen bytes more than the one that it stands beside. -/
theorem utf8ByteSize_temporaryName (name : String) {n : Nat} (h : n < 10 ^ 8) :
    (temporaryName name n).utf8ByteSize = name.utf8ByteSize + 14 := by
  have hdigits : (String.ofList (paddedDigits n)).utf8ByteSize = 8 := by
    rw [String.utf8ByteSize_ofList, utf8Len_paddedDigits h]
  have hdot : ".".utf8ByteSize = 1 ∧ ".tmp".utf8ByteSize = 4 := by decide
  have hname : temporaryName name n = "." ++ name ++ "." ++ String.ofList (paddedDigits n) ++ ".tmp" := rfl
  rw [hname]
  simp only [String.utf8ByteSize_append]
  omega

theorem mem_keys_of_node?_isSome (h : (disk.node? place).isSome = true) :
    place ∈ disk.entries.map Prod.fst := by
  obtain ⟨entry, hentry, hplace⟩ := List.lookup_isSome_iff.mp h
  exact List.mem_map.mpr ⟨entry, hentry, (eq_of_beq hplace).symm⟩

theorem nominal_child (home : Location) (path : Path) {part : String} (h : part ≠ "..") :
    nominal home (path.child part) = nominal home path ++ [part] := by
  rw [nominal, Path.child, List.foldl_append, List.foldl_cons, List.foldl_nil, step_of_ne h]
  rfl

/-- Of the names of new files that are tried there is one more than there are entries on the disk, so that the first
free one is taken. -/
theorem exists_temporaryPath (disk : Disk) (path : Path) :
    ∃ n ≤ disk.entries.length, temporaryPath disk path = path.parent.child (temporaryName path.name n) ∧
      isTaken disk (path.parent.child (temporaryName path.name n)) = false ∧
      ∀ m < n, isTaken disk (path.parent.child (temporaryName path.name m)) = true := by
  let candidate (n : Nat) : Path := path.parent.child (temporaryName path.name n)
  let numbers := List.range (disk.entries.length + 1)
  have hpath : temporaryPath disk path =
      candidate ((numbers.find? fun n => !isTaken disk (candidate n)).getD 0) := rfl
  cases hfound : numbers.find? fun n => !isTaken disk (candidate n) with
  | some n =>
      rw [hfound, Option.getD_some] at hpath
      obtain ⟨hfree, hn, hearlier⟩ := List.find?_range_eq_some.mp hfound
      exact ⟨n, Nat.le_of_lt_succ (List.mem_range.mp hn), hpath, by simpa using hfree,
        fun m hm => by simpa using hearlier m hm⟩
  | none =>
      -- all of them are taken, at as many different places
      have htaken : ∀ n ∈ numbers, isTaken disk (candidate n) = true := by
        simpa using List.find?_eq_none.mp hfound
      have hsubset : numbers.map (fun n => nominal disk.home (candidate n)) ⊆ disk.entries.map Prod.fst := by
        intro place hplace
        obtain ⟨n, hn, rfl⟩ := List.mem_map.mp hplace
        exact mem_keys_of_node?_isSome (htaken n hn)
      have hdistinct : (numbers.map fun n => nominal disk.home (candidate n)).Nodup := by
        apply List.Nodup.map
        · intro m n hplaces
          simp only [candidate, nominal_child _ _ (temporaryName_ne_up _ _)] at hplaces
          exact temporaryName_injective path.name (List.singleton_inj.mp (List.append_cancel_left hplaces))
        · exact List.nodup_range
      have hlength := (List.subperm_of_subset hdistinct hsubset).length_le
      simp [numbers] at hlength

theorem node?_temporaryPlace (disk : Disk) (path : Path) : disk.node? (temporaryPlace disk path) = none := by
  obtain ⟨n, -, hpath, hfree, -⟩ := exists_temporaryPath disk path
  rw [temporaryPlace, hpath]
  exact Option.isNone_iff_eq_none.mp (Option.isSome_eq_false_iff.mp hfree)

/-- Whether a path leads to a place for a file: by a name, and to no directory. -/
def HasPlace (disk : Disk) (path : Path) : Prop :=
  endsInName path = true ∧ ∃ place, locate disk path = .ok place ∧ disk.node? place ≠ some .directory

/-- Whether a new file can stand beside a file: the absolute path of its directory leads to one, and neither its name
nor its own absolute path is too long. -/
def HasRoom (disk : Disk) (path : Path) : Prop :=
  (∃ middle, locate disk (absolute disk.home path.parent) = .ok middle ∧ disk.node? middle = some .directory) ∧
    (temporaryPath disk path).name.utf8ByteSize ≤ maxName ∧
    (absolute disk.home (temporaryPath disk path)).text.utf8ByteSize < maxPath

theorem parent_of_hasPlace (h : HasPlace disk path) :
    ∃ middle, locate disk path.parent = .ok middle ∧ disk.node? middle = some .directory ∧
      path.name.contains (Char.ofNat 0) = false ∧ locate disk path = .ok (middle ++ [path.name]) := by
  obtain ⟨hname, place, hlocate, -⟩ := h
  obtain ⟨hpath, hup⟩ := child_parent_of_endsInName hname
  have hchild := hlocate
  rw [← hpath, locate_child_eq_ok_iff] at hchild
  obtain ⟨middle, hmiddle, hdirectory, hnul, -, -, rfl⟩ := hchild
  rw [step_of_ne hup] at hlocate
  exact ⟨middle, hmiddle, hdirectory, hnul, hlocate⟩

theorem isAbsolute_absolute (home : Location) (path : Path) : (absolute home path).isAbsolute = true := by
  rw [absolute, Path.isAbsolute]
  split <;> simp

theorem absolute_child (home : Location) (path : Path) {part : String} (h : part ≠ "..") :
    absolute home (path.child part) = (absolute home path).child part := by
  rw [absolute, nominal_child home path h]
  rfl

/-- Absolute paths in one directory differ in size as their names do. -/
theorem exists_utf8ByteSize_text_child (h : path.isAbsolute = true) :
    ∃ size, ∀ part, (path.child part).text.utf8ByteSize = size + part.utf8ByteSize := by
  by_cases hparts : path.parts = []
  · refine ⟨(Path.anchorText path.anchor).utf8ByteSize, fun part => ?_⟩
    have hbody : Path.anchorText path.anchor ++ part ≠ "" := by
      cases hanchor : path.anchor with
      | relative => simp [Path.isAbsolute, hanchor] at h
      | root => simp [Path.anchorText]
      | doubleRoot => simp [Path.anchorText]
    simp [Path.text, Path.child, hparts, hbody]
  · refine ⟨(Path.anchorText path.anchor).utf8ByteSize + ("/".intercalate path.parts).utf8ByteSize + 1, fun part => ?_⟩
    have hslash : "/".utf8ByteSize = 1 := by decide
    rw [text_child part hparts]
    simp only [String.utf8ByteSize_append]
    omega

/-- A new file can be made beside a place just when there is room for it. -/
theorem locate_temporaryPath_iff (h : HasPlace disk path) :
    (∃ target, locate disk (absolute disk.home (temporaryPath disk path)) = .ok target) ↔ HasRoom disk path := by
  obtain ⟨-, -, -, hnul, -⟩ := parent_of_hasPlace h
  obtain ⟨n, hpath⟩ : ∃ n, temporaryPath disk path = path.parent.child (temporaryName path.name n) := ⟨_, rfl⟩
  rw [HasRoom, hpath, Path.name_child, absolute_child _ _ (temporaryName_ne_up _ _)]
  simp only [locate_child_eq_ok_iff, contains_temporaryName hnul n, true_and]
  constructor
  · rintro ⟨-, middle, hmiddle, hdirectory, hname, htext, -⟩
    exact ⟨⟨middle, hmiddle, hdirectory⟩, hname, htext⟩
  · rintro ⟨⟨middle, hmiddle, hdirectory⟩, hname, htext⟩
    exact ⟨_, middle, hmiddle, hdirectory, hname, htext, rfl⟩

/-- In a tree of proper names there is room for a new file beside a place just when both the name and the absolute path
of that place can be fourteen bytes longer. -/
theorem hasRoom_iff_of_isTree {home : Location} (h : HasPlace disk path) (htree : disk.IsTree home)
    (hhome : ∀ name ∈ home, IsEntryName name) (hcount : disk.entries.length < 10 ^ 8) :
    HasRoom disk path ↔
      path.name.utf8ByteSize + 14 ≤ maxName ∧ (absolute home path).text.utf8ByteSize + 14 < maxPath := by
  obtain ⟨hpath, hup⟩ := child_parent_of_endsInName h.1
  obtain ⟨middle, hmiddle, hdirectory, -⟩ := parent_of_hasPlace h
  obtain rfl : middle = nominal home path.parent := htree.home_eq ▸ eq_nominal_of_locate hmiddle
  obtain ⟨n, hn, htemporary, -⟩ := exists_temporaryPath disk path
  have hname := utf8ByteSize_temporaryName path.name (hn.trans_lt hcount)
  obtain ⟨size, hsize⟩ := exists_utf8ByteSize_text_child (isAbsolute_absolute home path.parent)
  have htext : (absolute home path).text.utf8ByteSize = size + path.name.utf8ByteSize := by
    rw [← hsize, ← absolute_child _ _ hup, hpath]
  rw [HasRoom, htemporary, Path.name_child, absolute_child _ _ (temporaryName_ne_up _ _), htree.home_eq, hsize, hname,
    htext, ← Nat.add_assoc]
  refine and_iff_right_of_imp fun ⟨_, hroom⟩ => ⟨_, ?_, hdirectory⟩
  have hshort : ((absolute home path.parent).child path.name).text.utf8ByteSize < maxPath := by
    rw [hsize]
    omega
  exact locate_absolute_of_isTree htree (isEntryName_of_locate hmiddle (htree.home_eq ▸ hhome))
    (utf8ByteSize_text_lt_of_child hshort) hdirectory

/-- In a tree of proper names a short path that leads to no directory finds a place for a file, and room beside it. -/
theorem hasPlace_and_hasRoom_of_isTree {home : Location} (htree : disk.IsTree home)
    (hlocate : locate disk path = .ok place) (hplace : disk.node? place ≠ some .directory)
    (hhome : ∀ name ∈ home, IsEntryName name) (hcount : disk.entries.length < 10 ^ 8)
    (hshort : path.name.utf8ByteSize + 14 ≤ maxName ∧ (absolute home path).text.utf8ByteSize + 14 < maxPath) :
    HasPlace disk path ∧ HasRoom disk path := by
  have hname := ((name_or_directory_of_locate htree hlocate).resolve_right hplace).1
  have hfound : HasPlace disk path := ⟨hname, place, hlocate, hplace⟩
  exact ⟨hfound, (hasRoom_iff_of_isTree hfound htree hhome hcount).mpr hshort⟩

theorem run_replace_of_locate {source : Location} {node : Node} (hlocate : locate disk path = .ok place)
    (hname : endsInName path = true) (hplace : disk.node? place ≠ some .directory)
    (hsource : disk.node? source = some node) :
    (Files.replace source path).run disk = .ok () ((disk.erase source).put place node) := by
  rw [Files.replace, EStateM.run_bind, run_resolve, hlocate]
  simp only [hname, Bool.not_true, Bool.false_eq_true, if_false]
  rw [EStateM.run_bind]
  simp only [EStateM.run_bind, EStateM.run_get, hsource]
  rfl

theorem run_moveNew_of_locate {temporary : Location} (hlocate : locate disk path = .ok place)
    (hname : endsInName path = true) (hplace : disk.node? place ≠ some .directory)
    (hfree : disk.node? temporary = none) (bytes : List UInt8) :
    ∃ after, (moveNew temporary path).run (disk.create temporary false bytes) = .ok () after := by
  have hroute : locate (disk.create temporary false bytes) path = .ok place := by
    refine locate_of_locate hlocate rfl fun left hleft => ?_
    have hleft := directory_of_locate hlocate left hleft
    have hne : left ≠ temporary := by
      rintro rfl
      rw [hfree] at hleft
      cases hleft
    rw [node?_create_of_ne hne, hleft]
  have hthere : (disk.create temporary false bytes).node? place ≠ some .directory := by
    by_cases hsame : place = temporary
    · rw [hsame, node?_create_self]
      nofun
    · rwa [node?_create_of_ne hsame]
  rw [moveNew, run_tryCatch, run_replace_of_locate hroute hname hthere (node?_create_self _ _ _ _)]
  exact ⟨_, rfl⟩

/-- A content is put at a place just when there is room for a new file beside it. -/
theorem run_replaceContent_iff (h : HasPlace disk path) (bytes : List UInt8) :
    (∃ after, (replaceContent path bytes).run disk = .ok () after) ↔ HasRoom disk path := by
  obtain ⟨middle, hmiddle, hdirectory, -, hlocate⟩ := parent_of_hasPlace h
  have hparent := run_ensureDirectory_of_directory hmiddle hdirectory
  rw [← locate_temporaryPath_iff h]
  constructor
  · rintro ⟨after, hrun⟩
    obtain ⟨made, hmade, htemporary, -⟩ := steps_of_replaceContent_eq_ok hrun
    rw [hparent] at hmade
    cases hmade
    exact htemporary
  · rintro ⟨temporary, htemporary⟩
    have hfree : disk.node? (nominal disk.home (temporaryPath disk path)) = none := node?_temporaryPlace disk path
    obtain ⟨hname, place, hplace, hnode⟩ := h
    obtain ⟨after, hmoved⟩ := run_moveNew_of_locate hplace hname hnode hfree bytes
    refine ⟨after, ?_⟩
    rw [replaceContent, EStateM.run_bind, hparent]
    simp only [EStateM.run_bind, EStateM.run_get, run_createNew, htemporary, hfree, Option.isSome_none,
      Bool.false_eq_true, if_false, hmoved]

/-- A number is stored at a place just when it is a ratio in the unit interval and there is room for the new
file. -/
theorem save_eq_ok_iff (h : HasPlace disk path) (ratio : Decimal) :
    (∃ after, save disk path (.finite ratio) = (.ok ratio, after)) ↔
      ratio.inUnit = true ∧ HasRoom disk path := by
  rw [← run_replaceContent_iff h (toBytes ratio), save_eq, Numeral.inUnit?]
  by_cases hunit : ratio.inUnit = true
  · simp only [hunit, if_true, true_and, store]
    cases (replaceContent path (toBytes ratio)).run disk <;> simp
  · simp [hunit]

end Gatekeeper.Baseline
