/-! Natural numbers and their decimal digits, and the one rounding rule of the library: to the nearest
whole number, a tie to the even one. -/

namespace Gatekeeper.Number

def tenTo (n : Nat) : Nat :=
  Nat.pow 10 n

def twoTo (n : Nat) : Nat :=
  Nat.pow 2 n

/-- How many decimal digits a number has; zero has one. -/
def digitCount (n : Nat) : Nat :=
  if n < 10 then 1 else digitCount (n / 10) + 1

/-- The number that some digits stand for, the most significant one first. -/
def ofDigits (digits : List Nat) : Nat :=
  digits.foldl (fun n digit => 10 * n + digit) 0

def digitChars (n : Nat) : List Char :=
  Nat.toDigits 10 n

def isAsciiDigit (c : Char) : Bool :=
  '0' ≤ c && c ≤ '9'

def ofAsciiDigits (cs : List Char) : Nat :=
  ofDigits (cs.map fun c => c.toNat - '0'.toNat)

/-- The quotient rounded to the nearest whole number, a tie to the even one. -/
def roundHalfEven (num den : Nat) : Nat :=
  let quotient := num / den
  let twice := 2 * (num % den)
  if twice < den then quotient
  else if den < twice then quotient + 1
  else quotient + quotient % 2

/-- The power of ten of the first digit of a quotient of two positive numbers. -/
def leadingPower (num den : Nat) : Int :=
  let power : Int := (digitCount num : Int) - digitCount den
  if num * tenTo (-power).toNat < den * tenTo power.toNat then power - 1 else power

/-- The digits of a negative or non-negative number. -/
def signedText (n : Int) : String :=
  String.ofList (if n < 0 then '-' :: digitChars n.natAbs else digitChars n.natAbs)

end Gatekeeper.Number
