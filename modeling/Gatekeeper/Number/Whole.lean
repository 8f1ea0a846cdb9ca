import Gatekeeper.Number.Digits
import Gatekeeper.Text.Classes
import Gatekeeper.Text.Quoted

/-! Reading whole numbers: an optional sign and digits of any script, with single underscores between
them and blanks around. Texts of very long numbers are refused, for reading and for writing alike. -/

namespace Gatekeeper.Number

open Text

inductive WholeError where
  | malformed (text : String)
  | tooLong (digits : Nat)
deriving DecidableEq, Repr

def maxDigits : Nat := 4300

/-- What a reader is told about a text that is no whole number; the shown text is cut off. -/
def WholeError.message : WholeError → String
  | malformed text =>
    "invalid literal for int() with base 10: " ++ String.ofList ((quotedChars text.toList).take 200)
  | tooLong digits =>
    "Exceeds the limit (4300 digits) for integer string conversion: value has " ++
      signedText digits ++ " digits; use sys.set_int_max_str_digits() to increase the limit"

/-- A blank beside a number: ASCII white space, or any blank outside ASCII. -/
def isNumberBlank (c : Char) : Bool :=
  if c.toNat < 0x80 then c = ' ' || (0x09 ≤ c.toNat && c.toNat ≤ 0x0D) else isBlank c

/-- A number's text with the blanks around it cut off and its digits written in ASCII. -/
def plainNumber (cs : List Char) : List Char :=
  (trimBy isNumberBlank cs).map fun c =>
    match digitValue? c with
    | some value => Char.ofNat (48 + value)
    | none => c

/-- Whether underscores stand only between two digits; `afterDigit` tells of the character before. -/
def isGrouped (afterDigit : Bool) : List Char → Bool
  | [] => true
  | '_' :: c :: rest => afterDigit && isAsciiDigit c && isGrouped true rest
  | ['_'] => false
  | c :: rest => isGrouped (isAsciiDigit c) rest

def wholeOfText (s : String) : Except WholeError Int :=
  let plain := plainNumber s.toList
  let negative := plain.head? = some '-'
  let unsigned := if negative || plain.head? = some '+' then plain.drop 1 else plain
  let (grouped, rest) := unsigned.span fun c => isAsciiDigit c || c = '_'
  let digits := grouped.filter (· ≠ '_')
  if digits.isEmpty || !isGrouped false grouped then .error (.malformed s)
  else if maxDigits < digits.length then .error (.tooLong digits.length)
  else if rest.isEmpty then
    .ok (if negative then -(ofAsciiDigits digits : Int) else ofAsciiDigits digits)
  else .error (.malformed s)

/-- The text of a whole number, unless it is too long to be written. -/
def wholeText? (n : Int) : Option String :=
  if tenTo maxDigits ≤ n.natAbs then none else some (signedText n)

end Gatekeeper.Number
