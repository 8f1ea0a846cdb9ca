/-! Classes of characters, and what they make of a text. Blanks around it are cut off: white space as the
standard has it, or with the four information separators. Decimal digits of all scripts have a value. A line feed,
a carriage return and the pair of both end a line, and no other character does. -/

namespace Gatekeeper.Text

/-- A character with the White_Space property. -/
def isWhiteSpace (c : Char) : Bool :=
  let n := c.toNat
  (0x09 ≤ n && n ≤ 0x0D) || n == 0x20 || n == 0x85 || n == 0xA0 || n == 0x1680 ||
    (0x2000 ≤ n && n ≤ 0x200A) || n == 0x2028 || n == 0x2029 || n == 0x202F || n == 0x205F ||
    n == 0x3000

/-- A blank: white space or one of the information separators U+001C to U+001F. -/
def isBlank (c : Char) : Bool :=
  isWhiteSpace c || (0x1C ≤ c.toNat && c.toNat ≤ 0x1F)

/-- The text without the leading and trailing characters of a class. -/
def trimBy (isCut : Char → Bool) (cs : List Char) : List Char :=
  ((cs.dropWhile isCut).reverse.dropWhile isCut).reverse

/-- The text without leading and trailing blanks. -/
def trim (cs : List Char) : List Char :=
  trimBy isBlank cs

/-- The zero of every run of ten decimal digits. -/
def digitZeros : List Nat := [
  0x30, 0x660, 0x6f0, 0x7c0, 0x966, 0x9e6, 0xa66, 0xae6, 0xb66, 0xbe6, 0xc66, 0xce6, 0xd66, 0xde6,
  0xe50, 0xed0, 0xf20, 0x1040, 0x1090, 0x17e0, 0x1810, 0x1946, 0x19d0, 0x1a80, 0x1a90, 0x1b50,
  0x1bb0, 0x1c40, 0x1c50, 0xa620, 0xa8d0, 0xa900, 0xa9d0, 0xa9f0, 0xaa50, 0xabf0, 0xff10, 0x104a0,
  0x10d30, 0x11066, 0x110f0, 0x11136, 0x111d0, 0x112f0, 0x11450, 0x114d0, 0x11650, 0x116c0, 0x11730,
  0x118e0, 0x11950, 0x11c50, 0x11d50, 0x11da0, 0x16a60, 0x16ac0, 0x16b50, 0x1d7ce, 0x1d7d8, 0x1d7e2,
  0x1d7ec, 0x1d7f6, 0x1e140, 0x1e2f0, 0x1e950, 0x1fbf0]

/-- The value of a decimal digit of any script. -/
def digitValue? (c : Char) : Option Nat :=
  match digitZeros.find? (fun start => start ≤ c.toNat && c.toNat < start + 10) with
  | some start => some (c.toNat - start)
  | none => none

/-- A character put in front of the first of some lines. -/
def extendFirst (c : Char) : List (List Char) → List (List Char)
  | [] => [[c]]
  | line :: rest => (c :: line) :: rest

/-- The lines of a text without their ends; what follows the last end is a line too, maybe empty. -/
def lines : List Char → List (List Char)
  | [] => [[]]
  | '\r' :: '\n' :: rest => [] :: lines rest
  | c :: rest => if c = '\n' || c = '\r' then [] :: lines rest else extendFirst c (lines rest)

end Gatekeeper.Text
