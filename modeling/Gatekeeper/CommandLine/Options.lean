import Gatekeeper.CommandLine.Flag
import Gatekeeper.Number.Binary64Text
import Gatekeeper.Settings

/-! The options that a command line gives. Values are read from left to right, the last one of a flag
counts, and words that belong to no flag are told of at the end. -/

namespace Gatekeeper.CommandLine

open Number Text

structure Options where
  given : GivenValues
  logFile : Option String
deriving DecidableEq, Repr

inductive UsageError where
  | ambiguous (cause : Ambiguity)
  | noValue (flag : Flag)
  | needlessValue (flag : Flag) (value : String)
  | notInteger (flag : Flag) (value : String)
  | notNumber (flag : Flag) (value : String)
  | notChosen (flag : Flag) (value : String) (choices : List String)
  | unrecognised (words : List String)
deriving DecidableEq, Repr

/-- What a command line asks for. -/
inductive Request where
  | help
  | run (options : Options)
deriving DecidableEq, Repr

/-- What a reader is told about one flag. -/
def argumentText (flag : Flag) (text : String) : String :=
  "argument " ++ flag.title ++ ": " ++ text

def UsageError.message : UsageError → String
  | ambiguous cause =>
    "ambiguous option: " ++ cause.word ++ " could match " ++
      ", ".intercalate (cause.flags.map Flag.name)
  | noValue flag => argumentText flag "expected one argument"
  | needlessValue flag value => argumentText flag ("ignored explicit argument " ++ quoted value)
  | notInteger flag value => argumentText flag ("invalid int value: " ++ quoted value)
  | notNumber flag value => argumentText flag ("invalid float value: " ++ quoted value)
  | notChosen flag value choices =>
    argumentText flag
      ("invalid choice: " ++ quoted value ++ " (choose from " ++
        ", ".intercalate (choices.map quoted) ++ ")")
  | unrecognised words => "unrecognized arguments: " ++ " ".intercalate words

def Options.none : Options := ⟨[], Option.none⟩

def Options.give (options : Options) (setting : String) (value : Given) : Options :=
  { options with given := (setting, value) :: options.given.filter (·.1 ≠ setting) }

/-- A value out of some choices. -/
def choose (options : Options) (flag : Flag) (setting value : String) (choices : List String) :
    Except UsageError Options :=
  if choices.contains value then .ok (options.give setting (.text value))
  else .error (.notChosen flag value choices)

def giveInteger (options : Options) (flag : Flag) (setting value : String) :
    Except UsageError Options :=
  match wholeOfText value with
  | .ok n => .ok (options.give setting (.int n))
  | .error _ => .error (.notInteger flag value)

def Options.set (options : Options) (flag : Flag) (value : String) : Except UsageError Options :=
  match flag with
  | .minimum => giveInteger options flag "min_coverage" value
  | .maxDrop =>
    match Binary64.ofText? value with
    | some x => .ok (options.give "max_drop" (.float x))
    | Option.none => .error (.notNumber flag value)
  | .report => .ok (options.give "report_path" (.text value))
  | .baseline => .ok (options.give "baseline_path" (.text value))
  | .engine => choose options flag "engine" value ["llvm-cov", "tarpaulin"]
  | .outputDir => .ok (options.give "output_dir" (.text value))
  | .coverageTimeout => giveInteger options flag "coverage_timeout" value
  | .baselinePolicy => choose options flag "baseline_policy" value ["always", "pass-only"]
  | .projectDir => .ok (options.give "project_dir" (.text value))
  | .logLevel => .ok (options.give "log_level" (.text value))
  | .logFile => .ok { options with logFile := some value }
  | .help => .ok options
  | .reportOnly => .ok (options.give "skip_pipeline" (.bool true))

/-- What follows a short flag for help in one word: more such flags, or a value that it does not take. Other
letters are told of at the end, which help never comes to. -/
def helpLetters : List Char → Except UsageError Request
  | [] => .ok .help
  | 'h' :: '-' :: rest => .error (.needlessValue .help (String.ofList ('-' :: rest)))
  | 'h' :: rest => helpLetters rest
  | '=' :: value => .error (.needlessValue .help (String.ofList value))
  | _ => .ok .help

/-- Reads words from left to right; `strays` are the words so far that belong to no flag. -/
def readWords (options : Options) (strays : List String) : List Word → Except UsageError Request
  | [] => if strays.isEmpty then .ok (.run options) else .error (.unrecognised strays)
  | .plain text :: rest => readWords options (strays ++ [text]) rest
  | .unknown text :: rest => readWords options (strays ++ [text]) rest
  | .separator :: rest => readWords options (strays ++ ["--"]) rest
  | .help ('-' :: letters) :: _ =>
    .error (.needlessValue .help (String.ofList ('-' :: letters)))
  | .help letters :: _ => helpLetters letters
  | .flag .help Option.none :: _ => .ok .help
  | .flag flag (some value) :: rest =>
    if flag.takesValue then do readWords (← options.set flag value) strays rest
    else .error (.needlessValue flag value)
  | .flag flag Option.none :: .plain value :: rest =>
    if flag.takesValue then do readWords (← options.set flag value) strays rest
    else do readWords (← options.set flag "") strays (.plain value :: rest)
  | .flag flag Option.none :: rest =>
    if flag.takesValue then .error (.noValue flag)
    else do readWords (← options.set flag "") strays rest

def Request.ofWords (words : List String) : Except UsageError Request :=
  match classifyAll words with
  | .ok words => readWords Options.none [] words
  | .error cause => .error (.ambiguous cause)

end Gatekeeper.CommandLine
