import Gatekeeper.Files.Disk

/-! Operations on files by path. A path is followed from name to name, each of which has to be a directory
but the last; what an operation has done before it fails stays done. -/

namespace Gatekeeper

/-- Work on a disk that may fail; what was done before stays done. -/
abbrev Files := EStateM FileError Disk

namespace Files

/-- The greatest size in bytes of one name. -/
def maxName : Nat := 255

/-- The size in bytes that the text of a path stays below. -/
def maxPath : Nat := 4096

/-- One step along a path: two dots lead back to the directory above. -/
def step (place : Location) (part : String) : Location :=
  if part = ".." then place.dropLast else place ++ [part]

/-- Follows names from a location; each place left behind has to be a directory. -/
def follow (disk : Disk) (place : Location) : List String → Except FileError Location
  | [] => .ok place
  | part :: rest =>
    match disk.node? place with
    | none => .error .notFound
    | some (.file ..) => .error .notDirectory
    | some .directory =>
      if maxName < part.utf8ByteSize then .error .nameTooLong
      else follow disk (step place part) rest

def start (disk : Disk) : Anchor → Location
  | .relative => disk.home
  | _ => []

/-- The location that a path names, whatever stands on the way. -/
def nominal (home : Location) (path : Path) : Location :=
  path.parts.foldl step (if path.isAbsolute then [] else home)

/-- The absolute path of the location that a path names, without ways up. -/
def absolute (home : Location) (path : Path) : Path :=
  ⟨if path.anchor = .doubleRoot then .doubleRoot else .root, nominal home path⟩

/-- The location that a path leads to; nothing need stand there. -/
def locate (disk : Disk) (path : Path) : Except FileError Location :=
  if path.parts.any (·.contains (Char.ofNat 0)) then .error .nulInPath
  else if maxPath ≤ path.text.utf8ByteSize then .error .nameTooLong
  else follow disk (start disk path.anchor) path.parts

/-- What a path leads to. A path that leads nowhere is no error, one that is too long is. -/
def lookup (disk : Disk) (path : Path) : Except FileError (Option Node) :=
  match locate disk path with
  | .ok place => .ok (disk.node? place)
  | .error .nameTooLong => .error .nameTooLong
  | .error _ => .ok none

/-- Work on the location that a path leads to. -/
def resolve (path : Path) : Files Location := do
  match locate (← get) path with
  | .ok place => pure place
  | .error e => throw e

/-- Work on the location that a path names, to which its absolute path has to lead. -/
def resolveAbsolute (path : Path) : Files Location := do
  let disk ← get
  match locate disk (absolute disk.home path) with
  | .ok _ => pure (nominal disk.home path)
  | .error e => throw e

def pathExists (path : Path) : Files Bool := do
  match lookup (← get) path with
  | .ok node => pure node.isSome
  | .error e => throw e

def isFile (path : Path) : Files Bool := do
  match lookup (← get) path with
  | .ok (some (.file ..)) => pure true
  | .ok _ => pure false
  | .error e => throw e

/-- Whether a path leads to a directory. The place where a path starts is one, even when it is gone. -/
def isDirectory (path : Path) : Files Bool := do
  match lookup (← get) path with
  | .ok (some .directory) => pure true
  | .ok _ => pure path.parts.isEmpty
  | .error e => throw e

def read (path : Path) : Files (List UInt8) := do
  let place ← resolve path
  match (← get).node? place with
  | some (.file _ _ bytes) => pure bytes
  | some .directory => throw .isDirectory
  | none => throw .notFound

/-- Whether the last part of a path is a name and not a way up. -/
def endsInName (path : Path) : Bool :=
  match path.parts.getLast? with
  | some part => part ≠ ".."
  | none => false

/-- Makes one directory, where nothing stands yet. A way up or the start of a path is never new. -/
def makeDirectory (path : Path) : Files Unit := do
  let place ← resolve path
  if endsInName path && ((← get).node? place).isNone then modify (·.put place .directory)
  else throw .alreadyExists

/-- Makes one directory, unless there is one; if there is nothing to make it in, something else is done, which may be
to make that first. -/
def makeOr (otherwise : Path → Files Unit) (path : Path) : Files Unit := do
  match (makeDirectory path).run (← get) with
  | .ok _ disk => set disk
  | .error .nulInPath _ => throw .nulInPath
  | .error .notFound _ => otherwise path.parent
  | .error e _ => if ← isDirectory path then pure () else throw e

/-- Makes a directory and the missing ones above it; one that exists already will do. The number bounds
how deep the making of one directory may lead to that of the one above. -/
def ensureUpTo : Nat → Path → Files Unit
  | 0, path => makeOr (fun _ => throw .tooDeep) path
  | depth + 1, path =>
    makeOr (fun above => do
      ensureUpTo depth above
      makeOr (fun _ => throw .notFound) path) path

/-- Makes a directory and the missing ones above it; one that exists already will do. -/
def ensureDirectory (path : Path) : Files Unit := do
  ensureUpTo (← get).levels path

/-- Writes a file: a new one, or the old one with a new content. -/
def write (path : Path) (bytes : List UInt8) : Files Unit := do
  let place ← resolve path
  match (← get).node? place with
  | some (.file id executable _) => modify (·.put place (.file id executable bytes))
  | some .directory => throw .isDirectory
  | none => modify (·.create place false bytes)

def setExecutable (path : Path) (executable : Bool) : Files Unit := do
  let place ← resolve path
  match (← get).node? place with
  | some (.file id _ bytes) => modify (·.put place (.file id executable bytes))
  | some .directory => pure ()
  | none => throw .notFound

/-- Makes a new file by its absolute path, where nothing stands yet, and answers its location. -/
def createNew (path : Path) (bytes : List UInt8) : Files Location := do
  let place ← resolveAbsolute path
  match (← get).node? place with
  | some _ => throw .alreadyExists
  | none =>
    modify (·.create place false bytes)
    pure place

/-- Opens a file by its absolute path to add to its end, a new one if there is none; the answer is its number. -/
def openAppend (path : Path) : Files Nat := do
  let place ← resolveAbsolute path
  match (← get).node? place with
  | some (.file id _ _) => pure id
  | some .directory => throw .isDirectory
  | none =>
    let id := (← get).nextId
    modify (·.create place false [])
    pure id

def remove (path : Path) : Files Unit := do
  let place ← resolve path
  match (← get).node? place with
  | some (.file ..) => modify (·.erase place)
  | some .directory => throw .isDirectory
  | none => throw .notFound

/-- Removes a file, or a directory with all in it; there need not be one. -/
def discard (path : Path) : Files Unit := do
  match locate (← get) path with
  | .ok place =>
    match (← get).node? place with
    | some (.file ..) => modify (·.erase place)
    | some .directory => modify (·.eraseAll place)
    | none => pure ()
  | .error _ => pure ()

/-- Moves a file over another one, which it replaces; the first location holds a file. -/
def replace (source : Location) (path : Path) : Files Unit := do
  let place ← resolve path
  if !endsInName path then throw .busy
  match (← get).node? source, (← get).node? place with
  | _, some .directory => throw .isDirectory
  | some node, _ => modify fun disk => (disk.erase source).put place node
  | none, _ => throw .notFound

end Files

end Gatekeeper
