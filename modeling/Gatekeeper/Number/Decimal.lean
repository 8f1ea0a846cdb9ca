import Gatekeeper.Number.Scientific

/-! Decimal numbers with all their digits: a sign, a coefficient and a power of ten, never normalised, so
that `0.50` and `0.5` differ as texts and agree as numbers. A numeral may also be infinite or no number. -/

namespace Gatekeeper

open Number

/-- The number `coefficient * 10 ^ exponent` with its sign; zero has a sign and an exponent too. -/
structure Decimal where
  negative : Bool
  coefficient : Nat
  exponent : Int
deriving DecidableEq, Repr

/-- What a numeral can stand for. The payload of something that is no number belongs to its text only. -/
inductive Numeral where
  | finite (value : Decimal)
  | infinity (negative : Bool)
  | notNumber (negative signalling : Bool) (payload : Nat)
deriving DecidableEq, Repr

namespace Decimal

def zero : Decimal := ⟨false, 0, 0⟩

/-- The power of ten of the first digit. -/
def adjusted (d : Decimal) : Int :=
  d.exponent + digitCount d.coefficient - 1

/-- Whether the absolute value is at most one. The first digit tells, unless it stands for whole ones. -/
def atMostOne (d : Decimal) : Bool :=
  d.coefficient = 0 || d.adjusted < 0 ||
    (d.adjusted = 0 && d.coefficient = tenTo (digitCount d.coefficient - 1))

/-- Whether the number lies in the closed unit interval; a negative zero does. -/
def inUnit (d : Decimal) : Bool :=
  (!d.negative || d.coefficient = 0) && d.atMostOne

def exceedsOne (d : Decimal) : Bool :=
  !d.negative && !d.atMostOne

/-- The largest power of ten of a first digit. -/
def maxAdjusted : Int := 999999999999999999

/-- The smallest power of ten of a last digit. -/
def minExponent : Int := -1999999999999999997

/-- Whether the powers of ten are within their bounds; the bound above holds for the first digit, or for
the exponent of a zero. -/
def isBounded (d : Decimal) : Bool :=
  minExponent ≤ d.exponent && (if d.coefficient = 0 then d.exponent else d.adjusted) ≤ maxAdjusted

/-- The sign and the digits, with a point among them when the last digit stands for at most ones and the
first one for at least millionths; else one digit before the point and the power of ten. -/
def chars (d : Decimal) : List Char :=
  let digits := digitChars d.coefficient
  let count : Int := digits.length
  let left := d.exponent + count
  let sign := if d.negative then ['-'] else []
  if d.exponent ≤ 0 && -6 < left then
    if left ≤ 0 then sign ++ '0' :: '.' :: (List.replicate (-left).toNat '0' ++ digits)
    else if d.exponent = 0 then sign ++ digits
    else sign ++ digits.take left.toNat ++ '.' :: digits.drop left.toNat
  else
    let power := left - 1
    let mantissa := digits.take 1 ++ (if 1 < count then '.' :: digits.drop 1 else [])
    sign ++ mantissa ++ 'E' :: (if power < 0 then '-' else '+') :: digitChars power.natAbs

def text (d : Decimal) : String :=
  String.ofList d.chars

end Decimal

namespace Numeral

/-- The number, when there is one in the closed unit interval. -/
def inUnit? : Numeral → Option Decimal
  | finite value => if value.inUnit then some value else none
  | _ => none

def text : Numeral → String
  | finite value => value.text
  | infinity negative => sign negative ++ "Infinity"
  | notNumber negative signalling payload =>
    sign negative ++ (if signalling then "sNaN" else "NaN") ++
      (if payload = 0 then "" else String.ofList (digitChars payload))
where
  /-- The sign as it is written. -/
  sign (negative : Bool) : String := if negative then "-" else ""

end Numeral

end Gatekeeper
