import Gatekeeper.Markup.Account
import Gatekeeper.Markup.Opening

/-! Documents. A document is well-formed when all its characters can be read, nothing is left open at its end,
and no more is read in place of references than its account allows. -/

namespace Gatekeeper.Markup

/-- The number of replacing characters after which a document is given up while it is read. No document within
its account has so many: its values are read twice at most, and each byte read of it allows a hundred. -/
def replacementLimit (size : Nat) : Nat :=
  max activation (200 * size)

/-- Whether a document that was read to its end stays within its account. Without entities of its own there is
nothing in it that could lead to more. -/
def isAffordable (charset : Charset) (opened limit : Nat) (start last : Reading) (text : List Char) : Bool :=
  last.dtd.entities.isEmpty ||
    !(Account.readText limit (text.length + 2) .document charset.size charset.alphabet start text
      (Account.opened opened)).isExceeded

/-- The start tags of a document, in the order in which they are written; `none` if it is malformed. The opening
before it has some bytes. -/
def tags? (opened : Nat) (charset : Charset) (standalone : Bool) (body : List UInt8) : Option (List Tag) :=
  match charset.decode? body with
  | none => none
  | some text =>
    let limit := replacementLimit (opened + body.length)
    let start := Reading.start standalone
    match Reading.readAll limit (text.length + 2) charset.alphabet start text with
    | some r =>
      if r.isComplete && isAffordable charset opened limit start r text then some r.tags.reverse
      else none
    | none => none

/-- Reads a document: its start tags in order. -/
def readDocument (bytes : List UInt8) : Except OpeningError (List Tag) :=
  match Opening.ofBytes bytes with
  | .error cause => .error cause
  | .ok opening =>
    match tags? (bytes.length - opening.body.length) opening.charset opening.standalone opening.body with
    | some tags => .ok tags
    | none => .error .malformed

end Gatekeeper.Markup
