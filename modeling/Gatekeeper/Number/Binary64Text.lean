import Gatekeeper.Number.Binary64
import Gatekeeper.Number.Whole

/-! Texts of binary fractions. One is read in scientific notation with an optional sign, single underscores between
digits and blanks around, or as one of the words for infinity and for no number. It is written with the fewest
digits that read back as the same number, with six significant ones, or with a sign and one place. -/

namespace Gatekeeper

open Number

/-- Significant digits and the power of ten of the first one. -/
structure Significant where
  digits : List Char
  power : Int
deriving DecidableEq, Repr

namespace Significant

/-- The digits of `coefficient * 10 ^ exponent`. -/
def ofScaled (coefficient : Nat) (exponent : Int) : Significant :=
  let digits := digitChars coefficient
  ⟨digits, exponent + digits.length - 1⟩

/-- Digits with a point after the first `power + 1` of them, and zeros where there are none. -/
def positional (s : Significant) : List Char × List Char :=
  if s.power < 0 then (['0'], List.replicate (-s.power - 1).toNat '0' ++ s.digits)
  else
    let count := s.power.toNat + 1
    (s.digits.take count ++ List.replicate (count - s.digits.length) '0', s.digits.drop count)

/-- One digit before the point, and the power of ten with a sign and two digits at least. -/
def exponential (s : Significant) : List Char :=
  let rest := s.digits.drop 1
  let power := digitChars s.power.natAbs
  s.digits.take 1 ++ (if rest.isEmpty then [] else '.' :: rest) ++
    'e' :: (if s.power < 0 then '-' else '+') :: (List.replicate (2 - power.length) '0' ++ power)

/-- The digits without the zeros at the end. -/
def stripped (s : Significant) : Significant :=
  { s with digits := (s.digits.reverse.dropWhile (· = '0')).reverse }

end Significant

namespace Binary64

/-- A positive number as a quotient. -/
def numerator (mantissa : Nat) (exponent : Int) : Nat :=
  mantissa * twoTo exponent.toNat

def denominator (exponent : Int) : Nat :=
  twoTo (-exponent).toNat

/-- A quotient times a power of ten, again as a quotient. -/
def scaleTen (num den : Nat) (power : Int) : Nat × Nat :=
  (num * tenTo power.toNat, den * tenTo (-power).toNat)

/-- Whether `candidate * unit / 4` reads back as the number with this mantissa, where the number itself
is `4 * mantissa` units; the gap below a power of two is half as wide as the gap above. -/
def readsBack (mantissa : Nat) (exponent : Int) (scaled unit : Nat) : Bool :=
  let above := (4 * mantissa + 2) * unit
  let below := (4 * mantissa - (if mantissa = twoTo 52 && minExponent < exponent then 1 else 2)) * unit
  if mantissa % 2 = 0 then below ≤ scaled && scaled ≤ above else below < scaled && scaled < above

/-- The number with `count` significant digits that reads back, the nearer of two. -/
def shortestWith? (mantissa : Nat) (exponent : Int) (count : Nat) : Option Significant :=
  let num := numerator mantissa exponent
  let den := denominator exponent
  let power := leadingPower num den - (count : Int) + 1
  let (scaledNum, scaledDen) := scaleTen num den (-power)
  let low := scaledNum / scaledDen
  let reads (candidate : Nat) : Bool :=
    let (candidateNum, candidateDen) := scaleTen candidate 1 power
    let (quarterNum, quarterDen) := (twoTo exponent.toNat, 4 * twoTo (-exponent).toNat)
    readsBack mantissa exponent (candidateNum * quarterDen) (quarterNum * candidateDen)
  let nearest := roundHalfEven scaledNum scaledDen
  let other := if nearest = low then low + 1 else low
  if reads nearest then some (.ofScaled nearest power)
  else if reads other then some (.ofScaled other power)
  else none

/-- The fewest digits that read back as the number; seventeen always do. -/
def shortest (mantissa : Nat) (exponent : Int) : Significant :=
  let found := (List.range 17).findSome? fun i => shortestWith? mantissa exponent (i + 1)
  (found.getD (.ofScaled mantissa 0)).stripped

def signText (negative : Bool) : List Char :=
  if negative then ['-'] else []

/-- The shortest text, with a point or a power of ten in every one; powers of ten are written below
`10 ^ -4` and from `10 ^ 16` on. -/
def text : Binary64 → String
  | nan => "nan"
  | infinity negative => String.ofList (signText negative ++ "inf".toList)
  | finite negative 0 _ _ => String.ofList (signText negative ++ "0.0".toList)
  | finite negative mantissa exponent _ =>
    let number := shortest mantissa exponent
    let body :=
      if number.power < -4 || 16 ≤ number.power then number.exponential
      else
        let (whole, part) := number.positional
        whole ++ '.' :: (if part.isEmpty then ['0'] else part)
    String.ofList (signText negative ++ body)

/-- A positive number with six significant digits. -/
def sixDigits (mantissa : Nat) (exponent : Int) : Significant :=
  let num := numerator mantissa exponent
  let den := denominator exponent
  let power := leadingPower num den - 5
  let (scaledNum, scaledDen) := scaleTen num den (-power)
  .ofScaled (roundHalfEven scaledNum scaledDen) power

/-- The text with at most six significant digits, without zeros at the end. -/
def briefText : Binary64 → String
  | nan => "nan"
  | infinity negative => String.ofList (signText negative ++ "inf".toList)
  | finite negative 0 _ _ => String.ofList (signText negative ++ ['0'])
  | finite negative mantissa exponent _ =>
    let number := (sixDigits mantissa exponent).stripped
    let body :=
      if number.power < -4 || 6 ≤ number.power then number.exponential
      else
        let (whole, part) := number.positional
        whole ++ (if part.isEmpty then [] else '.' :: part)
    String.ofList (signText negative ++ body)

/-- The text with a sign always and one place after the point. -/
def signedTenths : Binary64 → String
  | nan => "+nan"
  | infinity negative => if negative then "-inf" else "+inf"
  | finite negative mantissa exponent _ =>
    let tenths := roundHalfEven (numerator mantissa exponent * 10) (denominator exponent)
    let digits := digitChars (tenths / 10) ++ '.' :: digitChars (tenths % 10)
    String.ofList ((if negative then '-' else '+') :: digits)

/-- Reads a number without blanks and underscores. -/
def ofPlain? (cs : List Char) : Option Binary64 :=
  let (negative, unsigned) := splitSign cs
  if spells "inf" unsigned || spells "infinity" unsigned then some (infinity negative)
  else if spells "nan" unsigned then some nan
  else (Scientific.ofChars? unsigned).map (ofScientific negative)

def ofText? (s : String) : Option Binary64 :=
  let plain := plainNumber s.toList
  if isGrouped false plain then ofPlain? (plain.filter (· ≠ '_')) else none

end Binary64

end Gatekeeper
