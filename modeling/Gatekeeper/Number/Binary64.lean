import Gatekeeper.Number.Scientific

/-! Binary fractions of sixty-four bits. A finite one is an exact number, a 53-bit mantissa times a power
of two, so that rounding, comparison and printing are integer arithmetic. -/

namespace Gatekeeper

open Number

def Binary64.minExponent : Int := -1074

/-- The greatest power of two of a 53-bit mantissa. -/
def Binary64.maxExponent : Int := 971

/-- Whether a mantissa and a power of two make a number of sixty-four bits. -/
def Binary64.Fits (mantissa : Nat) (exponent : Int) : Prop :=
  mantissa < twoTo 53 ∧ minExponent ≤ exponent ∧ exponent ≤ maxExponent

instance (mantissa : Nat) (exponent : Int) : Decidable (Binary64.Fits mantissa exponent) :=
  inferInstanceAs (Decidable (_ ∧ _ ∧ _))

/-- A finite number is `mantissa * 2 ^ exponent`, with a mantissa of 53 bits or the least exponent. -/
inductive Binary64 where
  | finite (negative : Bool) (mantissa : Nat) (exponent : Int)
      (fits : Binary64.Fits mantissa exponent)
  | infinity (negative : Bool)
  | nan
deriving DecidableEq, Repr

namespace Binary64

/-- The power of two at which a positive quotient has a 53-bit mantissa, or the least one. -/
def fittingExponent (num den : Nat) : Int :=
  let guess : Int := (num.log2 : Int) - den.log2 - 52
  let exponent :=
    if num * twoTo (-guess).toNat < den * twoTo guess.toNat * twoTo 52 then guess - 1 else guess
  max minExponent exponent

/-- A mantissa that was rounded up to one bit too many, with one bit less. -/
def carried (mantissa : Nat) (exponent : Int) : Nat × Int :=
  if mantissa = twoTo 53 then (twoTo 52, exponent + 1) else (mantissa, exponent)

/-- The number of a mantissa and a power of two; what does not fit is too large. -/
def ofParts (negative : Bool) (mantissa : Nat) (exponent : Int) : Binary64 :=
  if fits : Fits mantissa exponent then finite negative mantissa exponent fits
  else infinity negative

/-- The quotient of two positive numbers, rounded. -/
def ofRatio (negative : Bool) (num den : Nat) : Binary64 :=
  let exponent := fittingExponent num den
  let mantissa := roundHalfEven (num * twoTo (-exponent).toNat) (den * twoTo exponent.toNat)
  ofParts negative (carried mantissa exponent).1 (carried mantissa exponent).2

def zero : Binary64 := finite false 0 minExponent (by decide)

/-- A number in scientific notation, rounded. Far outside the range no power is computed. -/
def ofScientific (negative : Bool) (number : Scientific) : Binary64 :=
  let size : Int := digitCount number.coefficient + number.exponent
  if number.coefficient = 0 || size < -400 then finite negative 0 minExponent (by decide)
  else if 400 < size then infinity negative
  else
    ofRatio negative (number.coefficient * tenTo number.exponent.toNat)
      (tenTo (-number.exponent).toNat)

/-- The binary fraction next to a whole number, unless it is too large. -/
def ofInt? (n : Int) : Option Binary64 :=
  if n = 0 then some zero
  else
    match ofRatio (decide (n < 0)) n.natAbs 1 with
    | finite negative mantissa exponent fits => some (finite negative mantissa exponent fits)
    | _ => none

/-- Neither infinite nor without value. -/
def isFinite : Binary64 → Bool
  | finite .. => true
  | _ => false

/-- A finite number as a multiple of the least positive one. -/
def units (negative : Bool) (mantissa : Nat) (exponent : Int) : Int :=
  let size : Int := (mantissa * twoTo (exponent - minExponent).toNat : Nat)
  if negative then -size else size

/-- The order of the numbers; nothing compares with `nan`. -/
def le : Binary64 → Binary64 → Bool
  | nan, _ => false
  | _, nan => false
  | infinity negative, infinity other => negative || !other
  | infinity negative, finite .. => negative
  | finite .., infinity negative => !negative
  | finite negative mantissa exponent _, finite negative' mantissa' exponent' _ =>
    units negative mantissa exponent ≤ units negative' mantissa' exponent'

/-- Less than zero; a negative zero is not. -/
def isBelowZero : Binary64 → Bool
  | finite negative mantissa _ _ => negative && mantissa ≠ 0
  | infinity negative => negative
  | nan => false

end Binary64

end Gatekeeper
