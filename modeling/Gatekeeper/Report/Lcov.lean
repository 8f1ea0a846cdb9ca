import Gatekeeper.Number.Percent
import Gatekeeper.Report.Basic
import Gatekeeper.Text.Classes
import Gatekeeper.Text.Utf8

/-! Totals in line records. A line that begins with `LF:` counts lines that could be reached, one with `LH:`
those that were; all other lines say nothing. The ratio is the quotient of the two totals. -/

namespace Gatekeeper.Lcov

open Number Text

/-- The totals so far, and whether a count of reachable lines has been seen. -/
structure Totals where
  found : Int
  hit : Int
  isCounted : Bool
deriving DecidableEq, Repr

inductive Counter where
  | found
  | hit
deriving DecidableEq, Repr

/-- The totals of no lines. -/
def Totals.initial : Totals := ⟨0, 0, false⟩

/-- The kind of a trimmed line and the text of its count. -/
def counter? : List Char → Option (Counter × List Char)
  | 'L' :: 'F' :: ':' :: count => some (.found, count)
  | 'L' :: 'H' :: ':' :: count => some (.hit, count)
  | _ => none

def Totals.add (totals : Totals) (n : Int) : Counter → Totals
  | .found => { totals with found := totals.found + n, isCounted := true }
  | .hit => { totals with hit := totals.hit + n }

def Totals.addLine (totals : Totals) (line : List Char) : Except Defect Totals :=
  let trimmed := trim line
  match counter? trimmed with
  | none => .ok totals
  | some (counter, count) =>
    match wholeOfText (String.ofList count) with
    | .ok n => .ok (totals.add n counter)
    | .error _ => .error (.badCounter (String.ofList trimmed))

def totals (text : List Char) : Except Defect Totals :=
  (lines text).foldlM Totals.addLine Totals.initial

/-- The ratio of totals. No reachable lines at all make zero. -/
def ratio (totals : Totals) : Except Defect Decimal :=
  if !totals.isCounted then .error .noCounters
  else if totals.found = 0 then .ok Decimal.zero
  else
    let quotient := Decimal.quotient totals.hit totals.found
    if quotient.exceedsOne then .error (.excess totals.hit totals.found) else .ok quotient

/-- The ratio of a file; bytes that are no text do not count. -/
def read (bytes : List UInt8) : Except Defect Decimal :=
  (totals (decodeUtf8Lossy bytes)).bind ratio

end Gatekeeper.Lcov
