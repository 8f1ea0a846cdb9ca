import Gatekeeper.Markup.Letters

/-! References: what stands between an ampersand and a semicolon, a character by its number or an entity by
its name. -/

namespace Gatekeeper.Markup

/-- What a reference stands for. -/
inductive Reference where
  | char (c : Char)
  | entity (name : List Char)
deriving DecidableEq, Repr

def hexValue? (c : Char) : Option Nat :=
  if c.isDigit then some (c.toNat - 48)
  else if 'a' ≤ c && c ≤ 'f' then some (c.toNat - 87)
  else if 'A' ≤ c && c ≤ 'F' then some (c.toNat - 55)
  else none

def decimalValue? (c : Char) : Option Nat :=
  if c.isDigit then some (c.toNat - 48) else none

/-- The number that digits of a base stand for; there is at least one. -/
def number? (base : Nat) (value? : Char → Option Nat) (cs : List Char) : Option Nat :=
  if cs.isEmpty then none
  else cs.foldlM (fun n c => (value? c).map fun digit => n * base + digit) 0

/-- The character of a number, if it may occur in a document. -/
def charOfNumber? (n : Nat) : Option Char :=
  if h : n.isValidChar then
    let c := Char.ofNatAux n h
    if isAllowed c then some c else none
  else none

/-- Reads what stands between the ampersand and the semicolon. -/
def Reference.ofChars? (alphabet : Alphabet) : List Char → Option Reference
  | '#' :: 'x' :: digits => ((number? 16 hexValue? digits).bind charOfNumber?).map char
  | '#' :: digits => ((number? 10 decimalValue? digits).bind charOfNumber?).map char
  | name => if isName alphabet name then some (entity name) else none

/-- The entities that need no declaration. -/
def predefined? (name : List Char) : Option Char :=
  if name = "lt".toList then some '<'
  else if name = "gt".toList then some '>'
  else if name = "amp".toList then some '&'
  else if name = "quot".toList then some '"'
  else if name = "apos".toList then some '\''
  else none

end Gatekeeper.Markup
