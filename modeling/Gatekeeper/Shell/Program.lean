import Gatekeeper.Shell.Session
import Gatekeeper.World

/-! Programs: where a name is looked up, and what starting one does. The programs of the system are the
shell and its utilities; a file of one's own runs when it is executable and is a script for the shell. -/

namespace Gatekeeper.Shell

open Text

def systemPrograms : List String := [
  "sh", "dash", "true", "false", "echo", "printf", "test", "[", "pwd", "sleep", "kill", "mkdir",
  "touch", "rm", "cp", "mv", "cat", "ls"]

def isProgram (disk : Disk) (text : String) : Bool :=
  match Files.lookup disk (Path.ofText text) with
  | .ok (some (.file _ executable _)) => executable && !text.isEmpty && !text.endsWith "/"
  | _ => false

/-- A name below a directory, as texts. -/
def joinText (directory name : String) : String :=
  if directory.isEmpty || directory.endsWith "/" then directory ++ name else directory ++ "/" ++ name

/-- Where a program is found along a search path. A name with a slash is looked up as it is, and an empty
directory on the search path is the place where the program runs. -/
def which (disk : Disk) (searchPath name : String) : Option String :=
  if name.toList.contains '/' then if isProgram disk name then some name else none
  else if searchPath.isEmpty then none
  else
    ((searchPath.splitOn ":").map fun directory => joinText directory name).find? (isProgram disk)

def shellPaths : List String := [
  "/bin/sh", "/usr/bin/sh", "/bin/dash", "/usr/bin/dash", "/usr/bin/env sh", "/usr/bin/env dash"]

/-- The text of a script that asks for a shell in its first line. A file that asks for nothing cannot be run,
and one that asks for something else asks for what is not there. -/
def scriptOf (bytes : List UInt8) : Except FileError (List Char) :=
  let text := decodeUtf8Lossy bytes
  let asked := (text.takeWhile (· ≠ '\n')).drop 2
  let isBlank (c : Char) : Bool := c = ' ' || c = '\t'
  let program := String.ofList ((asked.dropWhile isBlank).reverse.dropWhile isBlank).reverse
  if text.take 2 ≠ ['#', '!'] || program.isEmpty then .error .notRunnable
  else if shellPaths.contains program then .ok text
  else .error .notFound

/-- Why a program cannot be started is one of the failures of files. -/
abbrev Started := Except FileError (Int × Disk)

def startSystem (disk : Disk) (name : String) (arguments : List String) : Started :=
  match name, arguments with
  | "sh", "-c" :: script :: parameters =>
    .ok (runScript disk script.toList (if parameters.isEmpty then ["sh"] else parameters))
  | "dash", "-c" :: script :: parameters =>
    .ok (runScript disk script.toList (if parameters.isEmpty then ["dash"] else parameters))
  | "sh", [] => .ok (0, disk)
  | "dash", [] => .ok (0, disk)
  | "sh", file :: parameters =>
    match (Files.read (Path.ofText file)).run disk with
    | .ok bytes _ => .ok (runScript disk (decodeUtf8Lossy bytes) (file :: parameters))
    | .error _ _ => .ok (2, disk)
  | name, arguments =>
    match (Session.mk disk [name] 0).utility name arguments with
    | (.done status _, after) => .ok (status, after)
    | (.left code, after) => .ok (code, after)

def startFile (disk : Disk) (text : String) (arguments : List String) : Started :=
  match Files.locate disk (Path.ofText text) with
  | .error cause => .error cause
  | .ok place =>
    match disk.node? place with
    | none => .error .notFound
    | some .directory => .error .denied
    | some (.file _ executable bytes) =>
      if text.endsWith "/" then .error .notDirectory
      else if !executable then .error .denied
      else
        (scriptOf bytes).map fun script => runScript disk script (text :: arguments)

/-- The name of a program of the system that a path leads to. -/
def systemName? (text : String) : Option String :=
  systemPrograms.find? fun name => text = "/bin/" ++ name || text = "/usr/bin/" ++ name

def start (disk : Disk) (name : String) (arguments : List String) : Started :=
  if (name :: arguments).any (·.contains (Char.ofNat 0)) then .error .nulInPath
  else if name.isEmpty then .error .denied
  else if name.toList.contains '/' then
    match systemName? name with
    | some program => startSystem disk program arguments
    | none => startFile disk name arguments
  else if systemPrograms.contains name then startSystem disk name arguments
  else .error .notFound

/-- Starts a program in another place, which has to be a directory. -/
def startIn (disk : Disk) (directory : Path) (name : String) (arguments : List String) : Started :=
  match Files.locate disk directory with
  | .error cause => .error cause
  | .ok place =>
    match disk.node? place with
    | none => .error .notFound
    | some (.file ..) => .error .notDirectory
    | some .directory =>
      (start { disk with home := place } name arguments).map fun (code, after) =>
        (code, { after with home := disk.home })

/-- Runs a command in a directory and answers its exit code, which is negative when a signal ended it. -/
def execute (directory : Path) (argv : List String) : Run Int := do
  Run.log .debug .runner
    ("Running " ++ " ".intercalate argv ++ " (cwd=" ++ directory.text ++ ")")
  match argv with
  | [] => throw .noCommand
  | name :: arguments =>
    match startIn (← get).disk directory name arguments with
    | .error cause => throw (.file cause)
    | .ok (code, disk) =>
      modify fun world => { world with disk := disk }
      pure code

end Gatekeeper.Shell
