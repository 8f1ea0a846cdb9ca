import Gatekeeper.Files.Path
import Gatekeeper.Text.Utf8

/-! A tree of files. A location is the list of names from the root, and the disk says what stands at each.
Every file has a number of its own, by which an open file is still known after its name is gone. -/

namespace Gatekeeper

/-- The names from the root to a place in the tree. -/
abbrev Location := List String

inductive Node where
  | directory
  | file (id : Nat) (executable : Bool) (bytes : List UInt8)
deriving DecidableEq, Repr

/-- The file tree: the place where the program runs, what stands where, and the number of the next file. A call
makes missing directories one inside the other, and calls nest only so deep. -/
structure Disk where
  home : Location
  entries : List (Location × Node)
  nextId : Nat
  levels : Nat
deriving Repr

inductive FileError where
  | notFound
  | alreadyExists
  | notDirectory
  | isDirectory
  | denied
  | nameTooLong
  | busy
  | notRunnable
  | nulInPath
  | tooDeep
deriving DecidableEq, Repr

namespace Disk

/-- The directories from the root down to a location. -/
def ancestors (home : Location) : List (Location × Node) :=
  (List.range (home.length + 1)).map fun count => (home.take count, .directory)

/-- How deep calls nest below those of the program itself. -/
def usualLevels : Nat := 990

/-- A disk with nothing but the way to the place where the program runs. -/
def empty (home : Location) : Disk :=
  ⟨home, ancestors home, 0, usualLevels⟩

def node? (disk : Disk) (place : Location) : Option Node :=
  disk.entries.lookup place

def bytes? (disk : Disk) (place : Location) : Option (List UInt8) :=
  match disk.node? place with
  | some (.file _ _ bytes) => some bytes
  | _ => none

/-- The disk with something else at one location. -/
def put (disk : Disk) (place : Location) (node : Node) : Disk :=
  { disk with entries := (place, node) :: disk.entries.filter (·.1 ≠ place) }

def erase (disk : Disk) (place : Location) : Disk :=
  { disk with entries := disk.entries.filter (·.1 ≠ place) }

/-- The disk without a location and all below it. -/
def eraseAll (disk : Disk) (place : Location) : Disk :=
  { disk with entries := disk.entries.filter fun entry => !place.isPrefixOf entry.1 }

/-- The disk with a new file at a location where there is none. -/
def create (disk : Disk) (place : Location) (executable : Bool) (bytes : List UInt8) : Disk :=
  { disk.put place (.file disk.nextId executable bytes) with nextId := disk.nextId + 1 }

/-- An entry with more bytes at its end, if it is the file of this number. -/
def appendEntry (id : Nat) (more : List UInt8) : Location × Node → Location × Node
  | (place, .file other executable bytes) =>
    (place, .file other executable (if other = id then bytes ++ more else bytes))
  | entry => entry

/-- The disk after bytes were added to an open file, which may have lost its name. -/
def append (disk : Disk) (id : Nat) (more : List UInt8) : Disk :=
  { disk with entries := disk.entries.map (appendEntry id more) }

theorem lookup_filter_self (entries : List (Location × Node)) (place : Location) :
    (entries.filter (·.1 ≠ place)).lookup place = none := by
  induction entries with
  | nil => rfl
  | cons entry rest ih =>
    obtain ⟨key, node⟩ := entry
    by_cases h : key = place
    · rw [List.filter_cons_of_neg (by simp [h]), ih]
    · rw [List.filter_cons_of_pos (by simp [h]), List.lookup_cons, ih,
        beq_false_of_ne (Ne.symm h)]

theorem lookup_filter_of_ne {place other : Location} (h : other ≠ place)
    (entries : List (Location × Node)) :
    (entries.filter (·.1 ≠ place)).lookup other = entries.lookup other := by
  induction entries with
  | nil => rfl
  | cons entry rest ih =>
    obtain ⟨key, node⟩ := entry
    by_cases hkey : key = place
    · rw [List.filter_cons_of_neg (by simp [hkey]), ih, List.lookup_cons, hkey, beq_false_of_ne h]
    · rw [List.filter_cons_of_pos (by simp [hkey]), List.lookup_cons, List.lookup_cons, ih]

theorem node?_put_self (disk : Disk) (place : Location) (node : Node) :
    (disk.put place node).node? place = some node := by
  rw [node?, put, List.lookup_cons_self]

theorem node?_put_of_ne {place other : Location} (h : other ≠ place) (disk : Disk) (node : Node) :
    (disk.put place node).node? other = disk.node? other := by
  rw [node?, put, List.lookup_cons, beq_false_of_ne h]
  exact lookup_filter_of_ne h disk.entries

theorem node?_erase_self (disk : Disk) (place : Location) :
    (disk.erase place).node? place = none :=
  lookup_filter_self disk.entries place

theorem node?_erase_of_ne {place other : Location} (h : other ≠ place) (disk : Disk) :
    (disk.erase place).node? other = disk.node? other :=
  lookup_filter_of_ne h disk.entries

theorem node?_create_self (disk : Disk) (place : Location) (executable : Bool)
    (bytes : List UInt8) :
    (disk.create place executable bytes).node? place = some (.file disk.nextId executable bytes) :=
  node?_put_self disk place _

theorem node?_create_of_ne {place other : Location} (h : other ≠ place) (disk : Disk)
    (executable : Bool) (bytes : List UInt8) :
    (disk.create place executable bytes).node? other = disk.node? other :=
  node?_put_of_ne h disk _

/-- The names of an entry below the place where the program runs, and whether it is a directory. -/
def listed? (disk : Disk) : Location × Node → Option String
  | (place, node) =>
    if disk.home.isPrefixOf place && disk.home ≠ place then
      let name := "/".intercalate (place.drop disk.home.length)
      some (match node with | .directory => name ++ "/" | .file .. => name)
    else none

/-- Everything below the place where the program runs, sorted; the names of directories end in a slash. -/
def tree (disk : Disk) : List String :=
  (disk.entries.filterMap disk.listed?).mergeSort fun a b => decide (a ≤ b)

end Disk

end Gatekeeper
