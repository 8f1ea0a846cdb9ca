import Gatekeeper.Number.Binary64Text

/-! The flags of the command line. A word is recognised as a flag before any value is looked at: by its full
name, by the part before an equals sign, or by a beginning that only one flag has. The help shows them all. -/

namespace Gatekeeper.CommandLine

open Number

/-- The flags, in the order in which they are listed. -/
inductive Flag where
  | help
  | minimum
  | maxDrop
  | report
  | baseline
  | engine
  | outputDir
  | coverageTimeout
  | baselinePolicy
  | reportOnly
  | projectDir
  | logLevel
  | logFile
deriving DecidableEq, Repr

namespace Flag

def all : List Flag := [
  help, minimum, maxDrop, report, baseline, engine, outputDir, coverageTimeout, baselinePolicy,
  reportOnly, projectDir, logLevel, logFile]

def name : Flag → String
  | help => "--help"
  | minimum => "--minimum"
  | maxDrop => "--max-drop"
  | report => "--report"
  | baseline => "--baseline"
  | engine => "--engine"
  | outputDir => "--output-dir"
  | coverageTimeout => "--coverage-timeout"
  | baselinePolicy => "--baseline-policy"
  | reportOnly => "--report-only"
  | projectDir => "--project-dir"
  | logLevel => "--log-level"
  | logFile => "--log-file"

/-- The name of a flag as messages show it. -/
def title : Flag → String
  | help => "-h/--help"
  | flag => flag.name

/-- Whether a value follows a flag. -/
def takesValue : Flag → Bool
  | help => false
  | reportOnly => false
  | _ => true

def ofName? (word : List Char) : Option Flag :=
  if word = ['-', 'h'] then some help else all.find? fun flag => flag.name.toList = word

end Flag

def usageLines : List String := [
  "usage: covgate [-h] [--minimum MINIMUM] [--max-drop MAX_DROP]",
  "               [--report REPORT] [--baseline BASELINE]",
  "               [--engine \x7bllvm-cov,tarpaulin\x7d] [--output-dir OUTPUT_DIR]",
  "               [--coverage-timeout COVERAGE_TIMEOUT]",
  "               [--baseline-policy \x7balways,pass-only\x7d] [--report-only]",
  "               [--project-dir PROJECT_DIR] [--log-level LOG_LEVEL]",
  "               [--log-file LOG_FILE]"]

/-- What a reader is shown who asks for help, on a screen of the usual width. -/
def helpLines : List String := usageLines ++ [
  "",
  "Build, test and fail if line coverage is too low or regressed",
  "",
  "options:",
  "  -h, --help            show this help message and exit",
  "  --minimum MINIMUM     Minimum coverage percentage (default 20)",
  "  --max-drop MAX_DROP   Maximum allowed drop from baseline in percentage",
  "                        points (default 10)",
  "  --report REPORT       Path to coverage report (Cobertura XML or LCOV)",
  "  --baseline BASELINE   Path to baseline file (default <output-",
  "                        dir>/baseline.txt)",
  "  --engine \x7bllvm-cov,tarpaulin\x7d",
  "                        Coverage tool used to produce the report",
  "  --output-dir OUTPUT_DIR",
  "                        Directory the coverage tool writes into (default",
  "                        coverage)",
  "  --coverage-timeout COVERAGE_TIMEOUT",
  "                        Timeout in seconds passed to the coverage tool",
  "  --baseline-policy \x7balways,pass-only\x7d",
  "                        Update the baseline after every measured run, or only",
  "                        after a passing one",
  "  --report-only         Skip build/test/coverage commands and gate an existing",
  "                        report",
  "  --project-dir PROJECT_DIR",
  "                        Directory the build commands run in",
  "  --log-level LOG_LEVEL",
  "                        Logging level (default INFO)",
  "  --log-file LOG_FILE   Also write diagnostics to this file"]

inductive Word where
  | plain (text : String)
  | separator
  | flag (flag : Flag) (value : Option String)
  | help (letters : List Char)
  | unknown (text : String)
deriving DecidableEq, Repr

/-- A word that is the beginning of several flags. -/
structure Ambiguity where
  word : String
  flags : List Flag
deriving DecidableEq, Repr

/-- A word before its first equals sign, and the rest after the sign if there is one. -/
def splitEquals (word : List Char) : List Char × Option (List Char) :=
  match word.span (· ≠ '=') with
  | (before, []) => (before, none)
  | (before, _ :: after) => (before, some after)

/-- Some digits of any script. -/
def areDigits (cs : List Char) : Bool :=
  !cs.isEmpty && cs.all fun c => (Text.digitValue? c).isSome

/-- Whether a word is a negative number: digits after the sign, or a point with digits after it. One line
end may follow. -/
def isNegativeNumber (word : List Char) : Bool :=
  let body := if word.getLast? = some '\n' then word.dropLast else word
  match body with
  | '-' :: rest =>
    let (before, after) := rest.span (· ≠ '.')
    match after with
    | [] => areDigits before
    | _ :: digits => (before.isEmpty || areDigits before) && areDigits digits
  | _ => false

/-- A word with two dashes in front, that is no full name: the flags that begin with it. -/
def abbreviated (word : List Char) : List Flag × Option (List Char) :=
  let (start, value) := splitEquals word
  (Flag.all.filter fun flag => start.isPrefixOf flag.name.toList, value)

/-- A word that begins with a dash and is no flag. A negative number or a word with a space is a value. -/
def unrecognised (text : String) : Word :=
  if isNegativeNumber text.toList || text.toList.contains ' ' then .plain text else .unknown text

/-- The kind of a word that stands before the separator. -/
def classify (text : String) : Except Ambiguity Word :=
  match text.toList with
  | [] => .ok (.plain text)
  | '-' :: rest =>
    match Flag.ofName? ('-' :: rest) with
    | some flag => .ok (.flag flag none)
    | none =>
      let (start, value) := splitEquals ('-' :: rest)
      match rest, value, Flag.ofName? start with
      | [], _, _ => .ok (.plain text)
      | 'h' :: _, some after, some .help => .ok (.help ('=' :: after))
      | _, some after, some flag => .ok (.flag flag (some (String.ofList after)))
      | '-' :: _, _, _ =>
        match abbreviated ('-' :: rest) with
        | ([], _) => .ok (unrecognised text)
        | ([flag], value) => .ok (.flag flag (value.map String.ofList))
        | (flags, _) => .error ⟨text, flags⟩
      | 'h' :: letters, _, _ => .ok (.help letters)
      | _, _, _ => .ok (unrecognised text)
  | _ => .ok (.plain text)

/-- The kinds of all words. After the separator every word is plain. -/
def classifyAll : List String → Except Ambiguity (List Word)
  | [] => .ok []
  | text :: rest =>
    if text = "--" then .ok (.separator :: rest.map .plain)
    else do
      let word ← classify text
      let words ← classifyAll rest
      .ok (word :: words)

end Gatekeeper.CommandLine
