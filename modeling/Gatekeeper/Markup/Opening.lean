import Gatekeeper.Markup.Charset

/-! How a document opens: a byte order mark, and a declaration of version, charset and independence. Both
are read before the charset is known, so the declaration is read as ASCII in single bytes or byte pairs. -/

namespace Gatekeeper.Markup

inductive OpeningError where
  | malformed
  | charset (cause : CharsetError)
deriving DecidableEq, Repr

structure Opening where
  charset : Charset
  standalone : Bool
  body : List UInt8

/-- The charset that the first bytes show, and the bytes after the byte order mark. -/
def sniff : List UInt8 → Option (Charset × List UInt8)
  | 0xFE :: 0xFF :: rest => some (.utf16 true, rest)
  | 0xFF :: 0xFE :: rest => some (.utf16 false, rest)
  | 0xEF :: 0xBB :: 0xBF :: rest => some (.utf8, rest)
  | 0x00 :: b :: rest => some (.utf16 true, 0x00 :: b :: rest)
  | a :: 0x00 :: rest => some (.utf16 false, a :: 0x00 :: rest)
  | a :: b :: rest => some (.utf8, a :: b :: rest)
  | _ => none

/-- The characters as far as they can be read byte by byte, or pair by pair. -/
def plainView (charset : Charset) (bytes : List UInt8) : List Char :=
  match charset with
  | .utf16 bigEndian =>
    (bytePairs bigEndian bytes).map fun unit => Char.ofNat (unit.getD 0xFFFD)
  | _ => bytes.map fun b => Char.ofNat b.toNat

/-- How many bytes a character of the plain view takes. -/
def unitSize : Charset → Nat
  | .utf16 _ => 2
  | _ => 1

/-- A text up to the first closing mark `?>`, and what follows the mark. -/
def untilClosing : List Char → Option (List Char × List Char)
  | [] => none
  | '?' :: '>' :: rest => some ([], rest)
  | c :: rest => (untilClosing rest).map fun (inner, after) => (c :: inner, after)

/-- Whether a character may stand in the value of a declaration. -/
def isPlainValueChar (c : Char) : Bool :=
  c.isAlphanum || c = '.' || c = '-' || c = '_'

/-- A name, an equals sign and a quoted value, and what follows them; white space stands before the name,
and may stand around the sign. -/
def setting? (cs : List Char) : Option (List Char × List Char × List Char) :=
  let afterSpace := cs.dropWhile isSpace
  if afterSpace.length = cs.length then none
  else
    let (name, afterName) := afterSpace.span fun c => !isSpace c && c ≠ '='
    match afterName.dropWhile isSpace with
    | '=' :: afterSign =>
      match afterSign.dropWhile isSpace with
      | mark :: quotedPart =>
        let (value, afterValue) := quotedPart.span isPlainValueChar
        match afterValue with
        | closing :: rest =>
          if (mark = '"' || mark = '\'') && closing = mark && !name.isEmpty then
            some (name, value, rest)
          else none
        | [] => none
      | [] => none
    | _ => none

/-- The value of `standalone`, and nothing but white space after it. -/
def standaloneSetting? (cs : List Char) : Option Bool :=
  match setting? cs with
  | some (name, value, rest) =>
    if name = "standalone".toList && rest.all isSpace then
      if value = "yes".toList then some true
      else if value = "no".toList then some false
      else none
    else none
  | none => none

/-- The charset name and the independence that a declaration gives; the version comes first. -/
def declaration? (cs : List Char) : Option (Option (List Char) × Bool) :=
  match setting? cs with
  | some (name, _, rest) =>
    if name ≠ "version".toList then none
    else if rest.all isSpace then some (none, false)
    else
      match setting? rest with
      | some (key, value, afterValue) =>
        if key = "encoding".toList then
          if !(value.head?.any Char.isAlpha) then none
          else if afterValue.all isSpace then some (some value, false)
          else (standaloneSetting? afterValue).map fun standalone => (some value, standalone)
        else (standaloneSetting? rest).map fun standalone => (none, standalone)
      | none => none
  | none => none

def Opening.ofBytes (bytes : List UInt8) : Except OpeningError Opening :=
  match sniff bytes with
  | none => .error .malformed
  | some (charset, rest) =>
    let view := plainView charset rest
    if view.take 5 ≠ "<?xml".toList || !(view.drop 5).head?.any isSpace then
      .ok ⟨charset, false, rest⟩
    else
      match untilClosing (view.drop 5) with
      | none => .error .malformed
      | some (inner, _) =>
        match declaration? inner with
        | none => .error .malformed
        | some (name, standalone) =>
          let body := rest.drop ((5 + inner.length + 2) * unitSize charset)
          match name with
          | none => .ok ⟨charset, standalone, body⟩
          | some name =>
            match charset.declared (String.ofList name) with
            | .ok (some declared) => .ok ⟨declared, standalone, body⟩
            | .ok none => .error .malformed
            | .error cause => .error (.charset cause)

end Gatekeeper.Markup
