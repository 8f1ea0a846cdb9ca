import Gatekeeper.Number.Decimal

/-! Arithmetic of ratios with twenty-eight significant digits: the quotient of two counts, and the whole
percentage of a ratio, cut off towards zero after the product with one hundred has been rounded. -/

namespace Gatekeeper

open Number

/-- How many significant digits a rounded result keeps. -/
def precision : Nat := 28

namespace Decimal

/-- The number rounded to the precision; digits that fit are kept as they are. -/
def rounded (d : Decimal) : Decimal :=
  let extra := digitCount d.coefficient - precision
  if extra = 0 then d
  else
    let kept := roundHalfEven d.coefficient (tenTo extra)
    if kept = tenTo precision then ⟨d.negative, tenTo (precision - 1), d.exponent + extra + 1⟩
    else ⟨d.negative, kept, d.exponent + extra⟩

/-- The whole part of a number, cut off towards zero. -/
def truncate (d : Decimal) : Int :=
  let size : Nat :=
    if 0 ≤ d.exponent then d.coefficient * tenTo d.exponent.toNat
    else if (digitCount d.coefficient : Int) ≤ -d.exponent then 0
    else d.coefficient / tenTo (-d.exponent).toNat
  if d.negative then -(size : Int) else size

/-- A hundredfold, rounded. -/
def hundredfold (d : Decimal) : Decimal :=
  rounded { d with coefficient := d.coefficient * 100 }

/-- Removes up to `places` trailing zeros; the second component is the number of places left. -/
def stripZeros : Nat → Nat → Nat × Nat
  | 0, coefficient => (coefficient, 0)
  | places + 1, coefficient =>
    if coefficient % 10 = 0 then stripZeros places (coefficient / 10)
    else (coefficient, places + 1)

/-- The smallest power of ten that the last digit of a quotient can stand for. -/
def minResultExponent : Int := -1000026

/-- How many places a quotient of two positive numbers is worked out to, or how many digits before the
point are left out. -/
def quotientPlaces (num den : Nat) : Int :=
  min ((precision : Int) - 1 - leadingPower num den) (-minResultExponent)

/-- The quotient of two positive numbers: exact with as few places as it has, or else rounded. -/
def positiveQuotient (negative : Bool) (num den : Nat) : Decimal :=
  let places := quotientPlaces num den
  let scaledNum := num * tenTo places.toNat
  let scaledDen := den * tenTo (-places).toNat
  if scaledNum % scaledDen = 0 then
    if 0 ≤ places then
      let (coefficient, left) := stripZeros places.toNat (scaledNum / scaledDen)
      ⟨negative, coefficient, -(left : Int)⟩
    else ⟨negative, scaledNum / scaledDen, -places⟩
  else
    let coefficient := roundHalfEven scaledNum scaledDen
    if coefficient = tenTo precision then ⟨negative, tenTo (precision - 1), 1 - places⟩
    else ⟨negative, coefficient, -places⟩

/-- The quotient of two whole numbers, the second one not zero. A zero quotient has a sign too. -/
def quotient (num den : Int) : Decimal :=
  let negative := decide (num < 0) != decide (den < 0)
  if num = 0 then ⟨negative, 0, 0⟩ else positiveQuotient negative num.natAbs den.natAbs

end Decimal

inductive PercentError where
  | signalling
  | notNumber
  | infinite
  | overflow
deriving DecidableEq, Repr

/-- The largest power of ten that the first digit of a rounded result can stand for. -/
def maxResultPower : Int := 999999

def Decimal.percent (d : Decimal) : Except PercentError Int :=
  let scaled := d.hundredfold
  if scaled.coefficient ≠ 0 ∧ maxResultPower < scaled.adjusted then .error .overflow
  else if scaled.coefficient = 0 then .ok 0
  else .ok scaled.truncate

def Numeral.percent : Numeral → Except PercentError Int
  | finite value => value.percent
  | infinity _ => .error .infinite
  | notNumber _ signalling _ => .error (if signalling then .signalling else .notNumber)

end Gatekeeper
