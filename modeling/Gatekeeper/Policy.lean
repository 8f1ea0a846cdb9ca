import Gatekeeper.Number.Binary64
import Gatekeeper.Number.Percent

/-! The two checks of a coverage ratio: against a minimum, and against an earlier ratio from which it may
drop by some points only. Both compare whole percentages. -/

namespace Gatekeeper

structure ThresholdCheck where
  passed : Bool
  percent : Int
  minimum : Int
deriving DecidableEq, Repr

/-- The drop from an earlier ratio, in whole points, as a binary fraction. -/
structure Comparison where
  baselinePercent : Int
  drop : Binary64
deriving DecidableEq, Repr

/-- The outcome of the check against an earlier ratio; without one there is nothing to compare. -/
structure RegressionCheck where
  passed : Bool
  currentPercent : Int
  comparison : Option Comparison
  maxDrop : Binary64
deriving DecidableEq, Repr

inductive CheckError where
  | percent (cause : PercentError)
  | dropTooLarge
deriving DecidableEq, Repr

def CheckError.message : CheckError → String
  | percent .signalling => "the ratio is not to be used"
  | percent .notNumber => "cannot convert NaN to integer"
  | percent .infinite => "cannot convert Infinity to integer"
  | percent .overflow => "the ratio is too large"
  | dropTooLarge => "int too large to convert to float"

def toPercent (ratio : Numeral) : Except CheckError Int :=
  ratio.percent.mapError .percent

/-- Passed when the percentage is at least the minimum. -/
def checkThreshold (ratio : Numeral) (minimum : Int) : Except CheckError ThresholdCheck :=
  (toPercent ratio).map fun percent => ⟨decide (minimum ≤ percent), percent, minimum⟩

/-- The drop between two percentages and whether it is allowed. -/
def compareDrop (current baseline : Int) (maxDrop : Binary64) : Except CheckError RegressionCheck :=
  match Binary64.ofInt? (baseline - current) with
  | some drop => .ok ⟨drop.le maxDrop, current, some ⟨baseline, drop⟩, maxDrop⟩
  | none => .error .dropTooLarge

/-- Passed when there is no earlier ratio, or the drop from it is at most the limit. -/
def checkRegression (current : Numeral) (baseline : Option Numeral) (maxDrop : Binary64) :
    Except CheckError RegressionCheck := do
  let currentPercent ← toPercent current
  match baseline with
  | none => .ok ⟨true, currentPercent, none, maxDrop⟩
  | some earlier => compareDrop currentPercent (← toPercent earlier) maxDrop

end Gatekeeper
