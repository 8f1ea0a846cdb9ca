import Gatekeeper.Number.Decimal
import Gatekeeper.Text.Classes

/-! Reading decimals. Blanks around a numeral and underscores anywhere in it do not count, and digits may
be of any script. What is read keeps every digit. -/

namespace Gatekeeper

open Number Text

/-- The text of a numeral in ASCII; a character with no place in a numeral gives `none`. -/
def plainNumeral? (cs : List Char) : Option (List Char) :=
  ((trim cs).filter (· ≠ '_')).mapM fun c =>
    if c.toNat = 0 then none
    else if c.toNat < 0x80 then some c
    else (digitValue? c).map fun value => Char.ofNat (48 + value)

/-- The payload of something that is no number: digits only. -/
def payload? (cs : List Char) : Option Nat :=
  if cs.all isAsciiDigit then some (ofAsciiDigits cs) else none

namespace Numeral

/-- Reads a numeral without its sign. -/
def ofUnsigned? (negative : Bool) (cs : List Char) : Option Numeral :=
  if spells "inf" cs || spells "infinity" cs then some (infinity negative)
  else if spells "nan" (cs.take 3) then (payload? (cs.drop 3)).map (notNumber negative false)
  else if spells "snan" (cs.take 4) then (payload? (cs.drop 4)).map (notNumber negative true)
  else
    match Scientific.ofChars? cs with
    | some number =>
      let value : Decimal := ⟨negative, number.coefficient, number.exponent⟩
      if value.isBounded then some (finite value) else none
    | none => none

def ofChars? (cs : List Char) : Option Numeral :=
  match plainNumeral? cs with
  | some plain => ofUnsigned? (splitSign plain).1 (splitSign plain).2
  | none => none

def ofText? (s : String) : Option Numeral :=
  ofChars? s.toList

end Numeral

end Gatekeeper
