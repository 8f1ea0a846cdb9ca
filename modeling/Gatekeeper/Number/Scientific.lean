import Gatekeeper.Number.Digits

/-! Scientific notation: digits with an optional point and an optional power of ten. It is the common
part of the texts of decimals and of binary fractions. -/

namespace Gatekeeper.Number

/-- The number `coefficient * 10 ^ exponent`. -/
structure Scientific where
  coefficient : Nat
  exponent : Int
deriving DecidableEq, Repr

/-- The power of ten after the mark `e` or `E`: an optional sign and at least one digit. -/
def exponent? : List Char → Option Int
  | '-' :: digits => if unsigned digits then some (-(ofAsciiDigits digits : Int)) else none
  | '+' :: digits => if unsigned digits then some (ofAsciiDigits digits) else none
  | digits => if unsigned digits then some (ofAsciiDigits digits) else none
where
  /-- At least one digit and nothing else. -/
  unsigned (cs : List Char) : Bool := !cs.isEmpty && cs.all isAsciiDigit

/-- The digits after a point, and what follows them. -/
def fraction : List Char → List Char × List Char
  | '.' :: rest => rest.span isAsciiDigit
  | rest => ([], rest)

/-- Reads a number without a sign. At least one digit stands before or after the point. -/
def Scientific.ofChars? (cs : List Char) : Option Scientific :=
  let (whole, afterWhole) := cs.span isAsciiDigit
  let (part, afterPart) := fraction afterWhole
  let digits := whole ++ part
  let shifted (power : Int) : Scientific := ⟨ofAsciiDigits digits, power - part.length⟩
  if digits.isEmpty then none
  else
    match afterPart with
    | [] => some (shifted 0)
    | mark :: rest => if mark = 'e' || mark = 'E' then (exponent? rest).map shifted else none

/-- The sign of a number in front of the rest of its text. -/
def splitSign : List Char → Bool × List Char
  | '-' :: rest => (true, rest)
  | '+' :: rest => (false, rest)
  | rest => (false, rest)

/-- Whether a text is a word of lower-case letters, written in any case. -/
def spells (word : String) (cs : List Char) : Bool :=
  cs.map Char.toLower = word.toList

end Gatekeeper.Number
