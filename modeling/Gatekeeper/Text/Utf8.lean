/-! Reading UTF-8. A byte string falls into pieces, each a character or a fault; a fault is a longest run
of bytes that begins a character and cannot be completed, or one byte that begins none. Strict reading
wants no fault, lenient reading drops them. -/

namespace Gatekeeper.Text

/-- The part of a character read so far: how many bytes are missing, between which bounds the next one
has to lie, and the bits collected. -/
structure Pending where
  missing : Nat
  low : UInt8
  high : UInt8
  value : Nat

/-- What one byte at the start of a character gives. -/
inductive Lead where
  | complete (c : Char)
  | pending (part : Pending)
  | fault

/-- Overlong forms, surrogates and values above U+10FFFF are kept out by the bounds of the second byte. -/
def Lead.ofByte (b : UInt8) : Lead :=
  if b < 0x80 then .complete (Char.ofNat b.toNat)
  else if b < 0xC2 then .fault
  else if b < 0xE0 then .pending ⟨1, 0x80, 0xBF, b.toNat - 0xC0⟩
  else if b = 0xE0 then .pending ⟨2, 0xA0, 0xBF, 0⟩
  else if b = 0xED then .pending ⟨2, 0x80, 0x9F, 0xD⟩
  else if b < 0xF0 then .pending ⟨2, 0x80, 0xBF, b.toNat - 0xE0⟩
  else if b = 0xF0 then .pending ⟨3, 0x90, 0xBF, 0⟩
  else if b < 0xF4 then .pending ⟨3, 0x80, 0xBF, b.toNat - 0xF0⟩
  else if b = 0xF4 then .pending ⟨3, 0x80, 0x8F, 4⟩
  else .fault

/-- The bits collected after one more byte. -/
def Pending.extend (part : Pending) (b : UInt8) : Nat :=
  part.value * 64 + (b.toNat - 0x80)

/-- The pieces of a byte string that follow an unfinished character, if there is one; a fault is `none`. -/
def utf8Pieces : Option Pending → List UInt8 → List (Option Char)
  | none, [] => []
  | some _, [] => [none]
  | none, b :: rest =>
    match Lead.ofByte b with
    | .complete c => some c :: utf8Pieces none rest
    | .pending part => utf8Pieces (some part) rest
    | .fault => none :: utf8Pieces none rest
  | some part, b :: rest =>
    if part.low ≤ b && b ≤ part.high then
      if part.missing ≤ 1 then some (Char.ofNat (part.extend b)) :: utf8Pieces none rest
      else utf8Pieces (some ⟨part.missing - 1, 0x80, 0xBF, part.extend b⟩) rest
    else
      none :: match Lead.ofByte b with
        | .complete c => some c :: utf8Pieces none rest
        | .pending part => utf8Pieces (some part) rest
        | .fault => none :: utf8Pieces none rest

/-- The text of a byte string, if all of it is UTF-8. -/
def decodeUtf8? (bytes : List UInt8) : Option (List Char) :=
  (utf8Pieces none bytes).mapM id

/-- The text of a byte string without the bytes that are no UTF-8. -/
def decodeUtf8Lossy (bytes : List UInt8) : List Char :=
  (utf8Pieces none bytes).filterMap id

def utf8Bytes (c : Char) : List UInt8 :=
  let n := c.toNat
  if n < 0x80 then [UInt8.ofNat n]
  else if n < 0x800 then [UInt8.ofNat (0xC0 + n / 64), UInt8.ofNat (0x80 + n % 64)]
  else if n < 0x10000 then
    [UInt8.ofNat (0xE0 + n / 4096), UInt8.ofNat (0x80 + n / 64 % 64), UInt8.ofNat (0x80 + n % 64)]
  else
    [UInt8.ofNat (0xF0 + n / 262144), UInt8.ofNat (0x80 + n / 4096 % 64),
      UInt8.ofNat (0x80 + n / 64 % 64), UInt8.ofNat (0x80 + n % 64)]

def encodeUtf8 (s : String) : List UInt8 :=
  s.toList.flatMap utf8Bytes

end Gatekeeper.Text
