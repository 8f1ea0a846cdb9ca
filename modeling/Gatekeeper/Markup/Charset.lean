import Gatekeeper.Markup.CharsetTable
import Gatekeeper.Markup.Letters
import Gatekeeper.Text.Quoted
import Gatekeeper.Text.Utf8

/-! The charset of a document: how its bytes stand for characters, and which charset a declared name
means. A byte that stands for nothing makes the document malformed; a name that means nothing is an error of
its own. -/

namespace Gatekeeper.Markup

open Text

/-- How bytes stand for characters. -/
inductive Charset where
  | utf8
  | utf16 (bigEndian : Bool)
  | latin1
  | singleByte (upperHalf : List Char)
deriving DecidableEq, Repr

inductive CharsetError where
  | unknown (name : String)
  | notText (name : String)
  | multiByte
  | unusable (name reason : String)
  | asciiOnly
deriving DecidableEq, Repr

def CharsetError.message : CharsetError → String
  | unknown name => "unknown encoding: " ++ name
  | notText name =>
    quoted name ++
      " is not a text encoding; use codecs.decode() to handle arbitrary codecs"
  | multiByte => "multi-byte encodings are not supported"
  | unusable name reason => "decoding with '" ++ name ++ "' codec failed (UnicodeError: " ++ reason ++ ")"
  | asciiOnly => "'ascii' codec can't decode byte 0x80 in position 82: ordinal not in range(128)"

/-- The code units of a text of byte pairs; an odd byte at the end gives `none`. -/
def bytePairs (bigEndian : Bool) : List UInt8 → List (Option Nat)
  | [] => []
  | [_] => [none]
  | a :: b :: rest =>
    some (if bigEndian then a.toNat * 256 + b.toNat else b.toNat * 256 + a.toNat) ::
      bytePairs bigEndian rest

/-- The characters of code units. The unit after a leading one gives the lower ten bits, whatever it is. -/
def ofUnits : List (Option Nat) → List (Option Char)
  | [] => []
  | none :: rest => none :: ofUnits rest
  | some unit :: rest =>
    if unit < 0xD800 || 0xE000 ≤ unit then some (Char.ofNat unit) :: ofUnits rest
    else if 0xDC00 ≤ unit then none :: ofUnits rest
    else
      match rest with
      | some next :: rest =>
        some (Char.ofNat (0x10000 + (unit - 0xD800) * 1024 + next % 1024)) :: ofUnits rest
      | _ => [none]

/-- The character of one byte whose upper half is listed. -/
def ofByte (upperHalf : List Char) (b : UInt8) : Option Char :=
  if b < 0x80 then some (Char.ofNat b.toNat)
  else
    match upperHalf[b.toNat - 0x80]? with
    | some c => if c.toNat = 0xFFFD then none else some c
    | none => none

/-- The pieces of a byte string: a character each, or a fault. -/
def Charset.pieces (charset : Charset) (bytes : List UInt8) : List (Option Char) :=
  match charset with
  | utf8 => utf8Pieces none bytes
  | utf16 bigEndian => ofUnits (bytePairs bigEndian bytes)
  | latin1 => bytes.map fun b => some (Char.ofNat b.toNat)
  | singleByte upperHalf => bytes.map (ofByte upperHalf)

/-- The characters of a byte string, all of which may occur in a document. -/
def Charset.decode? (charset : Charset) (bytes : List UInt8) : Option (List Char) :=
  (charset.pieces bytes).mapM fun piece => piece.filter isAllowed

/-- The letters of documents in a charset. -/
def Charset.alphabet : Charset → Alphabet
  | utf16 _ => .extended
  | latin1 => .extended
  | _ => .standard

/-- A charset name in normal form: lower case, an underscore between the runs of letters, digits and dots. -/
def normalName : List Char → List Char
  | [] => []
  | c :: rest =>
    if c.isAlphanum || c = '.' then c.toLower :: normalName rest
    else
      match normalName rest with
      | [] => []
      | next :: others => if next = '_' then next :: others else '_' :: next :: others

/-- Names of codes for host names, and of none at all, with the reason for which they give no characters. -/
def unusableNames : List (String × String) := [
  ("idna", "Unsupported error handling replace"), ("undefined", "undefined encoding")]

/-- What a name means that stands for no set of characters. -/
def meaninglessName (name normal : String) : CharsetError :=
  match unusableNames.lookup normal with
  | some reason => .unusable name reason
  | none => if normal = "punycode" then .asciiOnly else .unknown name

/-- Whether a name in normal form is one of a list. A dot may stand for an underscore in it, unless the name is
a strict one. -/
def isNamedIn (names : List String) (normal : String) : Bool :=
  let dotless := String.ofList (normal.toList.map fun c => if c = '.' then '_' else c)
  names.contains normal || (names.contains dotless && !strictNames.contains dotless)

/-- What a name means that is none of the five built-in ones. -/
def namedCharset (name : String) : Except CharsetError (Option Charset) :=
  let normal := String.ofList ((normalName name.toList).dropWhile (· = '_'))
  let isIn (names : List String) : Bool := isNamedIn names normal
  if isIn asciiNames then .ok (some (.singleByte []))
  else if isIn latinNames then
    .ok (some (.singleByte ((List.range 128).map fun i => Char.ofNat (128 + i))))
  else
    match charsetTables.find? fun table => isIn table.names with
    | some table => .ok (some (.singleByte (table.upperHalf.flatMap String.toList)))
    | none =>
      if isIn foreignNames then .ok none
      else if isIn multiByteNames then .error .multiByte
      else if isIn binaryNames then .error (.notText name)
      else .error (meaninglessName name normal)

/-- The charset that a declaration names in a document whose first bytes were read as `current`; a built-in
one has to agree with it in the size and order of its units. -/
def Charset.declared (current : Charset) (name : String) : Except CharsetError (Option Charset) :=
  let wide := match current with | utf16 _ => true | _ => false
  let narrow (charset : Charset) : Except CharsetError (Option Charset) :=
    .ok (if wide then none else some charset)
  let pairs (charset : Charset) : Except CharsetError (Option Charset) :=
    .ok (if charset = current then some charset else none)
  match (name.toList.map Char.toUpper |> String.ofList) with
  | "UTF-8" => narrow .utf8
  | "ISO-8859-1" => narrow .latin1
  | "US-ASCII" => narrow (.singleByte [])
  | "UTF-16" => .ok (if wide then some current else none)
  | "UTF-16BE" => pairs (.utf16 true)
  | "UTF-16LE" => pairs (.utf16 false)
  | _ => namedCharset name

end Gatekeeper.Markup
