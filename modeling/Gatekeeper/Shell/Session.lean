import Gatekeeper.Files.Access
import Gatekeeper.Number.Whole
import Gatekeeper.Shell.Syntax

/-! Running short shell scripts: parameters are replaced, redirections open their files, and a few utilities
do their work. A script ends at its end, by leaving, or by a signal to itself. -/

namespace Gatekeeper.Shell

open Number Text

/-- The state of a script: the files with the place where it runs, its parameters, and the last status. -/
structure Session where
  disk : Disk
  parameters : List String
  status : Nat

/-- What a command leads to: a status and some output, or the end of the script. -/
inductive Effect where
  | done (status : Nat) (output : String)
  | left (code : Int)
deriving DecidableEq, Repr

/-- The name by which a script knows its own process. -/
def selfName : String := "self"

def Session.value (session : Session) (name : List Char) : String :=
  match name with
  | ['$'] => selfName
  | ['?'] => signedText session.status
  | ['#'] => signedText (session.parameters.length - 1 : Nat)
  | ['@'] => " ".intercalate (session.parameters.drop 1)
  | ['*'] => " ".intercalate (session.parameters.drop 1)
  | _ =>
    if name.all Char.isDigit then (session.parameters[ofAsciiDigits name]?).getD ""
    else if name = "HOME".toList then "/root"
    else if name = "PWD".toList then "/" ++ "/".intercalate session.disk.home
    else ""

/-- The words between blanks. -/
def splitBlanks (cs : List Char) : List (List Char) :=
  (cs.splitBy fun a b => (a = ' ' || a = '\n') == (b = ' ' || b = '\n')).filter fun part =>
    !(part.all fun c => c = ' ' || c = '\n')

/-- The words that a word stands for; a word of unquoted empty parameters stands for none. -/
def Session.expand (session : Session) (fragments : List Fragment) : List String :=
  let addSplit (words : List (List Char)) (parts : List (List Char)) : List (List Char) :=
    match words.getLast?, parts with
    | _, [] => words
    | none, parts => words ++ parts
    | some last, first :: others => words.dropLast ++ (last ++ first) :: others
  let addText (words : List (List Char)) (text : List Char) : List (List Char) :=
    match words.getLast? with
    | none => [text]
    | some last => words.dropLast ++ [last ++ text]
  (fragments.foldl
    (fun words fragment =>
      match fragment with
      | .text text => addText words text
      | .parameter name true => addText words (session.value name).toList
      | .parameter name false => addSplit words (splitBlanks (session.value name).toList))
    []).map String.ofList

/-- Runs work on the files; a failure gives a status. -/
def Session.attempt (session : Session) (failure : Nat) (work : Files Unit) : Effect × Disk :=
  match work.run session.disk with
  | .ok _ disk => (.done 0 "", disk)
  | .error _ disk => (.done failure "", disk)

/-- The signals that a process takes no notice of unless it asks for them. -/
def quietSignals : List Nat := [0, 17, 18, 23, 28]

/-- The number of a signal by its name or number. -/
def signalNumber? (name : String) : Option Nat :=
  let names : List (String × Nat) := [
    ("HUP", 1), ("INT", 2), ("QUIT", 3), ("ABRT", 6), ("KILL", 9), ("USR1", 10), ("SEGV", 11),
    ("USR2", 12), ("PIPE", 13), ("ALRM", 14), ("TERM", 15)]
  let bare := if name.startsWith "SIG" then name.toList.drop 3 |> String.ofList else name
  (names.lookup bare).or
    (if !name.isEmpty && name.toList.all isAsciiDigit then some (ofAsciiDigits name.toList) else none)

/-- A comparison of two whole numbers by its name. -/
def comparison? (name : String) : Option (Int → Int → Bool) :=
  match name with
  | "-eq" => some fun a b => a = b
  | "-ne" => some fun a b => a ≠ b
  | "-lt" => some fun a b => a < b
  | "-le" => some fun a b => a ≤ b
  | "-gt" => some fun a b => b < a
  | "-ge" => some fun a b => b ≤ a
  | _ => none

/-- The status of a condition. -/
def statusOf (holds : Bool) : Nat := if holds then 0 else 1

/-- What stands at a path, if that can be known. -/
def Session.node? (session : Session) (name : String) : Option Node :=
  match Files.lookup session.disk (Path.ofText name) with
  | .ok node => if name.isEmpty then none else node
  | .error _ => none

/-- The test of one value. -/
def Session.testOne (session : Session) (operator value : String) : Option Bool :=
  match operator with
  | "-n" => some !value.isEmpty
  | "-z" => some value.isEmpty
  | "-e" => some (session.node? value).isSome
  | "-f" => some (match session.node? value with | some (.file ..) => true | _ => false)
  | "-d" => some (session.node? value = some .directory)
  | "-x" => some (match session.node? value with | some (.file _ executable _) => executable | _ => false)
  | "-s" => some (match session.node? value with | some (.file _ _ bytes) => !bytes.isEmpty | _ => false)
  | "!" => some value.isEmpty
  | _ => none

/-- The status of a test: zero when it holds, one when it does not, two when it makes no sense. -/
def Session.test (session : Session) : List String → Nat
  | [] => 1
  | [value] => statusOf (!value.isEmpty)
  | [operator, value] => ((session.testOne operator value).map statusOf).getD 2
  | [left, operator, right] =>
    if operator = "=" then statusOf (left = right)
    else if operator = "!=" then statusOf (left ≠ right)
    else
      match comparison? operator, wholeOfText left, wholeOfText right with
      | some compares, .ok a, .ok b => statusOf (compares a b)
      | _, _, _ =>
        if left = "!" then ((session.testOne operator right).map fun b => statusOf !b).getD 2 else 2
  | _ => 2

/-- The code with which a script leaves. -/
def leavingCode (text : String) : Int :=
  if !text.isEmpty && text.toList.all isAsciiDigit then (ofAsciiDigits text.toList % 256 : Nat) else 2

/-- Sends a signal to a process; only the script itself can be reached. -/
def signalEffect (name target : String) : Effect :=
  match signalNumber? name with
  | some signal =>
    if target ≠ selfName then .done 1 ""
    else if quietSignals.contains signal then .done 0 ""
    else .left (-(signal : Int))
  | none => .done 1 ""

/-- The place of a file that is copied or moved: inside a directory under its own name, or at the path. -/
def destination (disk : Disk) (source target : Path) : Path :=
  match Files.lookup disk target with
  | .ok (some .directory) => target.child source.name
  | _ => target

def copyFile (source target : Path) : Files Unit := do
  let bytes ← Files.read source
  Files.write (destination (← get) source target) bytes

def moveFile (source target : Path) : Files Unit := do
  let place ← Files.resolve source
  Files.replace place (destination (← get) source target)

/-- The contents of some files, one after the other. -/
def Session.contents (session : Session) (names : List Path) : Option String :=
  (names.mapM fun path =>
    match Files.lookup session.disk path with
    | .ok (some (.file _ _ bytes)) => some (String.ofList (decodeUtf8Lossy bytes))
    | _ => none).map String.join

def Session.utility (session : Session) (name : String) (arguments : List String) : Effect × Disk :=
  let done (status : Nat) (output : String) : Effect × Disk := (.done status output, session.disk)
  let options := arguments.takeWhile (·.startsWith "-")
  let names := (arguments.dropWhile (·.startsWith "-")).map Path.ofText
  match name, arguments with
  | ":", _ => done 0 ""
  | "true", _ => done 0 ""
  | "false", _ => done 1 ""
  | "exit", [] => (.left session.status, session.disk)
  | "exit", code :: _ => (.left (leavingCode code), session.disk)
  | "echo", "-n" :: words => done 0 (" ".intercalate words)
  | "echo", words => done 0 (" ".intercalate words ++ "\n")
  | "printf", [text] => done 0 text
  | "printf", "%s" :: words => done 0 ("".intercalate words)
  | "pwd", _ => done 0 ("/" ++ "/".intercalate session.disk.home ++ "\n")
  | "sleep", _ => done 0 ""
  | "test", arguments => done (session.test arguments) ""
  | "[", arguments =>
    if arguments.getLast? = some "]" then done (session.test arguments.dropLast) "" else done 2 ""
  | "kill", [target] => (signalEffect "TERM" target, session.disk)
  | "kill", [option, target] =>
    (signalEffect (String.ofList (option.toList.drop 1)) target, session.disk)
  | "kill", ["-s", signal, target] => (signalEffect signal target, session.disk)
  | "cd", [name] =>
    match session.node? name, Files.locate session.disk (Path.ofText name) with
    | some .directory, .ok place => (.done 0 "", { session.disk with home := place })
    | _, _ => done 2 ""
  | "mkdir", _ =>
    session.attempt 1
      (names.forM fun path =>
        if options.contains "-p" then Files.ensureDirectory path else Files.makeDirectory path)
  | "touch", _ => session.attempt 1 (names.forM fun path => discard (Files.openAppend path))
  | "rm", _ =>
    session.attempt 1
      (names.forM fun path =>
        if options.any (·.contains 'r') then Files.discard path
        else tryCatch (Files.remove path) fun cause =>
          if options.any (·.contains 'f') && cause = .notFound then pure () else throw cause)
  | "cp", [source, target] =>
    session.attempt 1 (copyFile (Path.ofText source) (Path.ofText target))
  | "mv", [source, target] =>
    session.attempt 1 (moveFile (Path.ofText source) (Path.ofText target))
  | "cat", _ =>
    match session.contents names with
    | some output => done 0 output
    | none => done 1 ""
  | "ls", _ =>
    done (if names.all fun path => (session.node? path.text).isSome then 0 else 2) ""
  | _, _ => done 127 ""

/-- Opens the file of a redirection and empties it, unless it is added to. -/
def Session.openOutput (session : Session) (redirection : Redirection) : Except FileError Disk :=
  let path := Path.ofText (" ".intercalate (session.expand redirection.target))
  let work : Files Unit :=
    if redirection.appends then discard (Files.openAppend path) else Files.write path []
  if path = Path.ofText "/dev/null" then .ok session.disk
  else
    match work.run session.disk with
    | .ok _ disk => .ok disk
    | .error cause _ => .error cause

/-- Adds some output to the file at a path. -/
def addOutput (disk : Disk) (path : Path) (output : String) : Disk :=
  match (Files.openAppend path).run disk with
  | .ok id disk => disk.append id (encodeUtf8 output)
  | .error _ disk => disk

/-- Runs one command. When its redirections fail it is not run, and a command of the shell itself then ends
the script. -/
def Session.runSimple (session : Session) (command : Simple) : Effect × Disk :=
  let opened := command.redirections.foldlM
    (fun disk redirection => { session with disk := disk }.openOutput redirection) session.disk
  match opened with
  | .error _ =>
    let isOwn := [":", "exit"].contains (" ".intercalate ((command.words.take 1).flatMap session.expand))
    (if isOwn then .left 2 else .done 2 "", session.disk)
  | .ok disk =>
    let session := { session with disk := disk }
    match command.words.flatMap session.expand with
    | [] => (.done 0 "", disk)
    | name :: arguments =>
      let (effect, after) := session.utility name arguments
      let targets := (command.redirections.filter (·.channel = 1)).map fun redirection =>
        { session with disk := disk }.expand redirection.target
      match effect, targets.getLast? with
      | .done status output, some target =>
        let path := Path.ofText (" ".intercalate target)
        if output.isEmpty || path = Path.ofText "/dev/null" then (.done status "", after)
        else
          let written := addOutput { after with home := disk.home } path output
          (.done status "", { written with home := after.home })
      | effect, _ => (effect, after)

/-- Runs commands one after the other and answers the exit code. -/
def Session.runAll (session : Session) : List Simple → Int × Disk
  | [] => (session.status, session.disk)
  | command :: rest =>
    let skipped :=
      match command.condition with
      | .always => false
      | .afterSuccess => session.status ≠ 0
      | .afterFailure => session.status = 0
    if skipped then session.runAll rest
    else
      match session.runSimple command with
      | (.left code, disk) => (code, disk)
      | (.done status _, disk) => Session.runAll { session with disk := disk, status := status } rest

/-- Runs a script with its parameters, the first of which is its own name. A script that makes no sense ends
with the code two. -/
def runScript (disk : Disk) (script : List Char) (parameters : List String) : Int × Disk :=
  match script? script with
  | none => (2, disk)
  | some commands => Session.runAll ⟨disk, parameters, 0⟩ commands

end Gatekeeper.Shell
