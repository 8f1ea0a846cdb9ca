import Gatekeeper.Text.Printable

/-! Quoted text as messages show it: between quotation marks, with escapes for all that does not print.
The mark is the apostrophe unless the text holds apostrophes and no double quotes. -/

namespace Gatekeeper.Text

/-- A number in base sixteen, lower case, with at least `width` digits. -/
def hexDigits (width n : Nat) : List Char :=
  let digits := Nat.toDigits 16 n
  List.replicate (width - digits.length) '0' ++ digits

def quoteMark (cs : List Char) : Char :=
  if cs.contains '\'' && !cs.contains '"' then '"' else '\''

/-- How one character stands between two marks. -/
def quotedChar (mark c : Char) : List Char :=
  if c = mark || c = '\\' then ['\\', c]
  else if c = '\n' then ['\\', 'n']
  else if c = '\r' then ['\\', 'r']
  else if c = '\t' then ['\\', 't']
  else if isPrintable c then [c]
  else if c.toNat ≤ 0xFF then '\\' :: 'x' :: hexDigits 2 c.toNat
  else if c.toNat ≤ 0xFFFF then '\\' :: 'u' :: hexDigits 4 c.toNat
  else '\\' :: 'U' :: hexDigits 8 c.toNat

/-- The quoted form of a text. -/
def quotedChars (cs : List Char) : List Char :=
  let mark := quoteMark cs
  mark :: (cs.flatMap (quotedChar mark) ++ [mark])

def quoted (s : String) : String :=
  String.ofList (quotedChars s.toList)

/-- How one byte stands between two marks: bytes outside the printable ASCII range are escaped. -/
def quotedByte (mark : Char) (b : UInt8) : List Char :=
  if b < 0x80 then quotedChar mark (Char.ofNat b.toNat) else '\\' :: 'x' :: hexDigits 2 b.toNat

/-- The quoted form of a byte string: the letter `b` and a quoted text. -/
def quotedBytes (bytes : List UInt8) : String :=
  let mark := quoteMark (bytes.map fun b => Char.ofNat b.toNat)
  String.ofList ('b' :: mark :: (bytes.flatMap (quotedByte mark) ++ [mark]))

end Gatekeeper.Text
