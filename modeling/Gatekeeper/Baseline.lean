import Gatekeeper.Files.Access
import Gatekeeper.Number.DecimalReader
import Gatekeeper.Text.Quoted

/-! The stored ratio: one decimal in a file, with a line end after it. Storing is all or nothing: the text
goes into a new file, which then takes the place of the old one. -/

namespace Gatekeeper.Baseline

open Text

/-- Why no stored ratio can be had: the content as it is shown, or a failure of the file. -/
inductive LoadError where
  | corrupt (content : String)
  | file (cause : FileError)
deriving DecidableEq, Repr

/-- What a reader is told about a file that holds no ratio. -/
def corruptText (path : Path) (content : String) : String :=
  "Baseline file " ++ path.text ++ " does not hold a coverage ratio: " ++ quoted content

/-- The ratio that a content holds; a content without one is answered as it is shown. -/
def ofBytes (bytes : List UInt8) : Except String Decimal :=
  match decodeUtf8? bytes with
  | none => .error (quotedBytes bytes)
  | some text =>
    match (Numeral.ofChars? (trim text)).bind Numeral.inUnit? with
    | some ratio => .ok ratio
    | none => .error (String.ofList text)

def toBytes (ratio : Decimal) : List UInt8 :=
  encodeUtf8 (ratio.text ++ "\n")

/-- The stored ratio; without a file there is none. -/
def load (disk : Disk) (path : Path) : Except LoadError (Option Decimal) :=
  match Files.lookup disk path with
  | .error cause => .error (.file cause)
  | .ok (some (.file _ _ bytes)) =>
    match ofBytes bytes with
    | .ok ratio => .ok (some ratio)
    | .error content => .error (.corrupt content)
  | .ok _ => .ok none

/-- The name of a new file for the text of a file of this name. -/
def temporaryName (name : String) (n : Nat) : String :=
  let digits := Nat.toDigits 10 n
  "." ++ name ++ "." ++ String.ofList (List.replicate (8 - digits.length) '0' ++ digits) ++ ".tmp"

def isTaken (disk : Disk) (path : Path) : Bool :=
  (disk.node? (Files.nominal disk.home path)).isSome

/-- A path beside the file at which nothing stands yet. -/
def temporaryPath (disk : Disk) (path : Path) : Path :=
  let candidate (n : Nat) : Path := path.parent.child (temporaryName path.name n)
  let numbers := List.range (disk.entries.length + 1)
  candidate ((numbers.find? fun n => !isTaken disk (candidate n)).getD 0)

/-- Moves a new file to its place. When that fails, the new file is removed. -/
def moveNew (temporary : Location) (path : Path) : Files Unit :=
  tryCatch (Files.replace temporary path) fun cause => do
    modify (·.erase temporary)
    throw cause

/-- Puts a content at a path, all or nothing; directories above it are made. -/
def replaceContent (path : Path) (bytes : List UInt8) : Files Unit := do
  Files.ensureDirectory path.parent
  let temporary ← Files.createNew (temporaryPath (← get) path) bytes
  moveNew temporary path

def store (path : Path) (ratio : Decimal) : Files Unit :=
  replaceContent path (toBytes ratio)

inductive SaveError where
  | outsideUnit (value : Numeral)
  | file (cause : FileError)
deriving DecidableEq, Repr

/-- What a reader is told about a numeral outside the unit interval. -/
def outsideText (value : Numeral) : String :=
  "Coverage ratio must be within [0, 1], got " ++ value.text

/-- Stores a numeral that is a ratio in the unit interval; the disk is answered with the outcome, because a
failure may leave new directories. -/
def save (disk : Disk) (path : Path) (value : Numeral) : Except SaveError Decimal × Disk :=
  match value.inUnit? with
  | none => (.error (.outsideUnit value), disk)
  | some ratio =>
    match (store path ratio).run disk with
    | .ok _ disk => (.ok ratio, disk)
    | .error cause disk => (.error (.file cause), disk)

end Gatekeeper.Baseline
