import Gatekeeper.Files.Access
import Gatekeeper.Report.Basic
import Gatekeeper.Report.Cobertura
import Gatekeeper.Report.Lcov

/-! Coverage reports: a file in one of the formats, and the ratios that it holds. A report that cannot be
read is either missing or unreadable; a charset without a meaning is a failure of another kind. -/

namespace Gatekeeper

open Number Markup

/-- A report: its ratios with the total first, and the texts that were passed over as no ratios. -/
structure Report where
  path : Path
  format : ReportFormat
  total : Decimal
  rest : List Decimal
  ignored : List String

inductive ReportError where
  | missing
  | unreadable (defect : Defect)
  | charset (cause : CharsetError)
  | longNumber
  | file (cause : FileError)
deriving DecidableEq, Repr

namespace Report

/-- All ratios, the total first. -/
def ratios (report : Report) : List Decimal :=
  report.total :: report.rest

/-- A defect as a failure to read; a total too long to be written cannot be told of. -/
def failure : Defect → ReportError
  | .excess hit found =>
    if (wholeText? hit).isSome && (wholeText? found).isSome then .unreadable (.excess hit found)
    else .longNumber
  | defect => .unreadable defect

def ofRecords (path : Path) (bytes : List UInt8) : Except ReportError Report :=
  match Lcov.read bytes with
  | .ok total => .ok ⟨path, .lcov, total, [], []⟩
  | .error defect => .error (failure defect)

def ofMarkup (path : Path) (format : ReportFormat) (bytes : List UInt8) :
    Except ReportError Report :=
  match readDocument bytes with
  | .error .malformed => .error (.unreadable .malformed)
  | .error (.charset cause) => .error (.charset cause)
  | .ok tags =>
    match Cobertura.ratios (Cobertura.markers tags) with
    | .ok found => .ok ⟨path, format, found.total, found.rest, found.ignored⟩
    | .error defect => .error (failure defect)

/-- Reads the content of a file in a format. -/
def ofBytes (path : Path) (format : ReportFormat) (bytes : List UInt8) : Except ReportError Report :=
  match format with
  | .lcov => ofRecords path bytes
  | format => ofMarkup path format bytes

/-- Reads the report at a path, in the format that is asked for or that the path shows. -/
def read (disk : Disk) (path : Path) (asked : String) : Except ReportError Report :=
  match Files.lookup disk path with
  | .error cause => .error (.file cause)
  | .ok (some (.file _ _ bytes)) => ofBytes path (ReportFormat.resolve path asked) bytes
  | .ok _ => .error .missing

def missingText (path : Path) : String :=
  "Expected " ++ path.text ++ " but it was not produced."

def unreadableText (path : Path) (defect : Defect) : String :=
  "Could not extract coverage from " ++ path.text ++ ": " ++ defect.detail

end Report

end Gatekeeper
