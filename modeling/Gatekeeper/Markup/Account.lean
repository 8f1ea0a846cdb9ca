import Gatekeeper.Markup.Charset
import Gatekeeper.Markup.Reading
import Gatekeeper.Number.Digits

/-! What a document leads to. A short reference can stand for a long text, so a document is refused when much
more has been read in place of references than in the document itself. Both are counted in bytes, one token after
the other. -/

namespace Gatekeeper.Markup

open Number

/-- What the tokens of a text are counted as. Those of a text that has been counted already are not counted
again. -/
inductive Counting where
  | document
  | replacement
  | nothing
deriving DecidableEq

/-- The bytes read of the document, those read in place of references, those of the token that has not been
counted yet, and whether the second ever were too many. -/
structure Account where
  direct : Nat
  replaced : Nat
  token : Nat
  isExceeded : Bool

/-- A whole number in single precision. -/
def singlePrecision (n : Nat) : Nat :=
  let unit := twoTo (n.log2 - 23)
  roundHalfEven n unit * unit

/-- The number of bytes from which on a document is asked for its account. -/
def activation : Nat := 8388608

/-- Whether all bytes together are more than a hundred times those of the document. The quotient is one of single
precision: what exceeds a hundred by no more than half of its last digit is rounded to it. -/
def isTooMuch (direct replaced : Nat) : Bool :=
  activation ≤ direct + replaced &&
    singlePrecision direct * (100 * twoTo 18 + 1) < singlePrecision (direct + replaced) * twoTo 18

def Charset.size : Charset → Char → Nat
  | utf8, c => c.utf8Size
  | utf16 _, c => if c.toNat < 0x10000 then 2 else 4
  | latin1, _ => 1
  | singleByte _, _ => 1

/-- Whether the value of an attribute is taken over as it is written, so that it is not read again. -/
def isPlainValue (raw : List Char) : Bool :=
  !raw.any (fun c => c = '&' || c = '\t' || c = '\n' || c = '\r') &&
    (collapseSpaces raw).dropWhile (· = ' ') = raw

namespace Reading

/-- Whether the token before a character ends there. Runs of text and of white space go on until something else
begins. -/
def endsBefore (r : Reading) (c : Char) : Bool :=
  match r.piece, r.place with
  | .idle _, .content => c = '<' || c = '&' || c = '\n' || c = '\r'
  | .idle _, _ => !isSpace c
  | .characterData brackets, _ => c = '\n' || c = '\r' || (brackets = 0 && c = ']')
  | .keyword _, _ => isSpace c
  | _, _ => false

/-- Whether a token ends with a character that leads to another state. -/
def endsWith (r : Reading) (c : Char) (after : Reading) : Bool :=
  match r.piece, after.piece with
  | .idle _, .idle _ => r.place = .content && (c = '\n' || c = '\r')
  | .characterData _, .characterData _ => c = '\n' || c = '\r'
  | .section _, .characterData _ => true
  | _, .declaration .between => true
  | _, .declaration .afterQuote => true
  | .idle _, _ => false
  | _, .idle _ => true
  | _, _ => false

/-- Whether a quoted text of a declaration is the default of an attribute. -/
def givesDefault (r : Reading) : Bool :=
  match r.place with
  | .doctype (.attributeDefault ..) => !r.dtd.passesOver
  | .doctype (.fixedValue ..) => !r.dtd.passesOver
  | _ => false

end Reading

namespace Account

/-- Nothing but the opening of a document has been read. -/
def opened (bytes : Nat) : Account :=
  ⟨bytes, 0, 0, false⟩

/-- One more character of a token. -/
def add (account : Account) (bytes : Nat) : Account :=
  { account with token := account.token + bytes }

/-- The token is complete. -/
def close (account : Account) (counting : Counting) : Account :=
  let counted : Account :=
    match counting with
    | .document => { account with direct := account.direct + account.token, token := 0 }
    | .replacement => { account with replaced := account.replaced + account.token, token := 0 }
    | .nothing => { account with token := 0 }
  { counted with
    isExceeded := account.isExceeded || (counting ≠ .nothing && isTooMuch counted.direct counted.replaced) }

/-- A reference leads to the text of its entity. A character that needs no declaration is counted, but is never
too much. -/
def refer (alphabet : Alphabet) (expand : List Char → Account → Account) (account : Account)
    (soFar : List Char) : Account :=
  match Reference.ofChars? alphabet soFar.reverse with
  | some (.entity name) =>
    if (predefined? name).isSome then { account with replaced := account.replaced + 1 }
    else expand name account
  | _ => account

/-- One character of the value of an attribute, with the reference that is open. -/
def valueStep (counting : Counting) (size : Char → Nat) (alphabet : Alphabet)
    (expand : List Char → Account → Account) :
    Account × Option (List Char) → Char → Account × Option (List Char)
  | (account, some soFar), c =>
    let account := account.add (size c)
    if c = ';' then ((account.close counting).refer alphabet expand soFar, none)
    else (account, some (c :: soFar))
  | (account, none), c =>
    if c = '&' then ((account.close counting).add (size c), some [])
    else if isSpace c then (((account.close counting).add (size c)).close counting, none)
    else (account.add (size c), none)

/-- The value of an attribute is read. The depth bounds how entities nest. -/
def readValue (dtd : Dtd) : Nat → Counting → (Char → Nat) → Alphabet → List Char → Account → Account
  | 0, _, _, _, _, account => account
  | depth + 1, counting, size, alphabet, raw, account =>
    let expand (name : List Char) (account : Account) : Account :=
      match dtd.entities.lookup name with
      | some (.internal text) => readValue dtd depth .replacement Char.utf8Size .standard text account
      | _ => account
    (raw.foldl (valueStep counting size alphabet expand) (account, none)).1.close counting

/-- The attributes of a tag are read. The tag of an element without content has been counted with all of its
values. -/
def readTag (dtd : Dtd) (counting : Counting) (size : Char → Nat) (alphabet : Alphabet) (tag : RawTag)
    (account : Account) : Account :=
  let counting := if tag.isClosed then .nothing else counting
  tag.attributes.foldl
    (fun account (_, raw) =>
      if isPlainValue raw then account
      else account.readValue dtd (dtd.entities.length + 2) counting size alphabet raw)
    account

/-- One character that leads from one state to another one. -/
def step (counting : Counting) (size : Char → Nat) (alphabet : Alphabet)
    (expand : List Char → Account → Account) (r : Reading) (c : Char) (after : Reading)
    (account : Account) : Account :=
  let account := if r.endsBefore c then account.close counting else account
  let account := account.add (size c)
  let account := if r.endsWith c after then account.close counting else account
  match r.piece with
  | .tag scan =>
    match scan.step alphabet c with
    | some (.complete tag) => account.readTag r.dtd counting size alphabet tag
    | _ => account
  | .reference soFar =>
    if c = ';' && r.place = .content then account.refer alphabet expand soFar else account
  | .declaration (.quotedText mark soFar) =>
    if c = mark && r.givesDefault then
      account.readValue r.dtd (r.dtd.entities.length + 2) .nothing size alphabet soFar.reverse
    else account
  | _ => account

/-- Some characters are read from a state. What replaces a reference is read where the reference ends. -/
def readText (limit : Nat) :
    Nat → Counting → (Char → Nat) → Alphabet → Reading → List Char → Account → Account
  | 0, _, _, _, _, _, account => account
  | depth + 1, counting, size, alphabet, r, text, account =>
    let expand (r : Reading) (name : List Char) (account : Account) : Account :=
      match r.dtd.entities.lookup name with
      | some (.internal inner) =>
        readText limit depth .replacement Char.utf8Size .standard
          { r with piece := .idle 0, floor := r.elements.length } inner account
      | _ => account
    let next : Reading × Account → Char → Reading × Account
      | (r, account), c =>
        match r.step ⟨alphabet, limit⟩ (fun _ r => some r) c with
        | some after => (after, account.step counting size alphabet (expand r) r c after)
        | none => (r, account)
    (text.foldl next (r, account)).2.close counting

end Account

end Gatekeeper.Markup
