import Gatekeeper.World

/-! Verdicts and outcomes of a gate, and the reasons for which a run is broken off. -/

namespace Gatekeeper

open Number

inductive Verdict where
  | pass
  | belowMinimum
  | regression
  | reportMissing
  | reportUnparseable
  | toolMissing
  | stepFailed
deriving DecidableEq, Repr

namespace Verdict

def name : Verdict → String
  | pass => "pass"
  | belowMinimum => "fail_below_minimum"
  | regression => "fail_regression"
  | reportMissing => "fail_report_missing"
  | reportUnparseable => "fail_report_unparseable"
  | toolMissing => "fail_tool_missing"
  | stepFailed => "fail_step_failed"

def passed (verdict : Verdict) : Bool :=
  verdict = pass

end Verdict

/-- What a run leads to. The ratio is there once a report was read, the drop once there was an earlier ratio
to compare with. -/
structure Outcome where
  verdict : Verdict
  reason : String
  ratio : Option Decimal
  percent : Option Int
  baseline : Option Decimal
  drop : Option Binary64
  baselineUpdated : Bool
  phases : List Phase
deriving DecidableEq, Repr

def Outcome.exitCode (outcome : Outcome) : Nat :=
  if outcome.verdict.passed then 0 else 1

/-- Why a run is broken off before a ratio is known. -/
inductive Abort where
  | toolMissing (tool : String) (hint : Option String)
  | stepFailed (step : String) (code : Int)
  | reportMissing (path : Path)
  | reportUnparseable (path : Path) (defect : Defect)
deriving DecidableEq, Repr

namespace Abort

def verdict : Abort → Verdict
  | toolMissing .. => .toolMissing
  | stepFailed .. => .stepFailed
  | reportMissing _ => .reportMissing
  | reportUnparseable .. => .reportUnparseable

/-- How a tool can be had; an empty hint says nothing. -/
def hintText : Option String → String
  | some hint => if hint.isEmpty then "" else " Install with: " ++ hint
  | none => ""

def reason : Abort → String
  | toolMissing tool hint => tool ++ " not found." ++ hintText hint
  | stepFailed step code =>
    "Step '" ++ step ++ "' failed with exit code " ++ signedText code
  | reportMissing path => Report.missingText path
  | reportUnparseable path defect => Report.unreadableText path defect

end Abort

end Gatekeeper
