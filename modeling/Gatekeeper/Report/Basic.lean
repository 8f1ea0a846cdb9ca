import Gatekeeper.Files.Path
import Gatekeeper.Number.Whole

/-! Coverage reports: in which format one is written, and what can be wrong with its content. The suffix of a file
tells its format; a format may also be given by a name, and an unknown name is read as markup. -/

namespace Gatekeeper

open Number Text

/-- A format of reports: line records, markup, or markup under some other name. -/
inductive ReportFormat where
  | lcov
  | cobertura
  | other (name : String)
deriving DecidableEq, Repr

namespace ReportFormat

def ofName (name : String) : ReportFormat :=
  if name = "lcov" then lcov else if name = "cobertura" then cobertura else other name

def name : ReportFormat → String
  | lcov => "lcov"
  | cobertura => "cobertura"
  | other name => name

/-- The format that the suffix of a path shows, in any case of letters. -/
def ofPath (path : Path) : ReportFormat :=
  let suffix := path.suffix.toList.map Char.toLower
  if suffix = ".info".toList || suffix = ".lcov".toList then lcov else cobertura

/-- The format that is asked for, or else the one that the path shows. -/
def resolve (path : Path) (asked : String) : ReportFormat :=
  if asked.isEmpty then ofPath path else ofName asked

end ReportFormat

inductive Defect where
  | malformed
  | noMarker
  | notDecimal (text : String)
  | outsideUnit (text : String)
  | badCounter (line : String)
  | noCounters
  | excess (hit found : Int)
deriving DecidableEq, Repr

/-- The attribute that holds a ratio. -/
def lineRate : String := "line-rate"

def Defect.detail : Defect → String
  | malformed => "malformed XML (...)"
  | noMarker => "no " ++ lineRate ++ " marker found"
  | notDecimal text => lineRate ++ "=" ++ quoted text ++ " is not a decimal"
  | outsideUnit text => lineRate ++ "=" ++ quoted text ++ " is outside [0, 1]"
  | badCounter line => "bad LCOV counter " ++ quoted line
  | noCounters => "no LF: records found"
  | excess hit found =>
    "LH total " ++ signedText hit ++ " exceeds LF total " ++ signedText found

end Gatekeeper
