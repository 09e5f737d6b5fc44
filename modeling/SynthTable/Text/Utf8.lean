/-!
# UTF-8

Bytes of characters and back. Reading is strict: overlong forms, surrogates, code points above
U+10FFFF and truncated sequences are refused, and the position of the first bad sequence is given.
-/

namespace SynthTable.Text

/-- The bytes of one character. -/
def utf8Bytes (c : Char) : List UInt8 :=
  let n := c.toNat
  let tail (shift : Nat) : UInt8 := (0x80 + (n / Nat.pow 2 shift) % 0x40).toUInt8
  if n < 0x80 then [n.toUInt8]
  else if n < 0x800 then [(0xC0 + n / 0x40).toUInt8, tail 0]
  else if n < 0x10000 then [(0xE0 + n / 0x1000).toUInt8, tail 6, tail 0]
  else [(0xF0 + n / 0x40000).toUInt8, tail 12, tail 6, tail 0]

/-- The bytes of a text. -/
def encodeUtf8 (cs : List Char) : List UInt8 := cs.flatMap utf8Bytes

/-- The bytes of a string. -/
def stringBytes (s : String) : List UInt8 := encodeUtf8 s.toList

/-- The value of a continuation byte. -/
def continuation? (b : UInt8) : Option Nat :=
  if 0x80 ≤ b ∧ b < 0xC0 then some (b.toNat - 0x80) else none

/-- The character with code point `n`, unless a shorter form exists or `n` is no scalar value. -/
def scalar? (least n : Nat) : Option Char :=
  if n < least then none
  else if h : n.isValidChar then some (Char.ofNatAux n h)
  else none

/-- The first character of some bytes and the number of bytes it takes. -/
def firstChar? : List UInt8 → Option (Char × Nat)
  | [] => none
  | a :: rest =>
    if a < 0x80 then (scalar? 0 a.toNat).map (·, 1)
    else if a < 0xC0 then none
    else if a < 0xE0 then
      match rest with
      | b :: _ => do
        let x ← continuation? b
        (scalar? 0x80 ((a.toNat - 0xC0) * 0x40 + x)).map (·, 2)
      | _ => none
    else if a < 0xF0 then
      match rest with
      | b :: c :: _ => do
        let x ← continuation? b
        let y ← continuation? c
        (scalar? 0x800 ((a.toNat - 0xE0) * 0x1000 + x * 0x40 + y)).map (·, 3)
      | _ => none
    else if a < 0xF8 then
      match rest with
      | b :: c :: d :: _ => do
        let x ← continuation? b
        let y ← continuation? c
        let z ← continuation? d
        (scalar? 0x10000 ((a.toNat - 0xF0) * 0x40000 + x * 0x1000 + y * 0x40 + z)).map (·, 4)
      | _ => none
    else none

/-- Reads `bytes`, skipping the first `skip` of them, which belong to the character read last;
`position` counts the bytes read before. The error is the position of the first bad sequence. -/
def decodeFrom (position : Nat) : (skip : Nat) → List UInt8 → Except Nat (List Char)
  | _, [] => .ok []
  | skip + 1, _ :: rest => decodeFrom position skip rest
  | 0, b :: rest =>
    match firstChar? (b :: rest) with
    | none => .error position
    | some (c, width) =>
      match decodeFrom (position + width) (width - 1) rest with
      | .ok cs => .ok (c :: cs)
      | .error p => .error p

/-- The text of some bytes, or the position of the first bad sequence. -/
def decodeUtf8 (bytes : List UInt8) : Except Nat (List Char) := decodeFrom 0 0 bytes

/-- The bytes that may follow the first byte of a sequence, position by position. -/
def followers (a : UInt8) : List (UInt8 × UInt8) :=
  let any : UInt8 × UInt8 := (0x80, 0xBF)
  if a < 0xC2 then []
  else if a < 0xE0 then [any]
  else if a = 0xE0 then [(0xA0, 0xBF), any]
  else if a = 0xED then [(0x80, 0x9F), any]
  else if a < 0xF0 then [any, any]
  else if a = 0xF0 then [(0x90, 0xBF), any, any]
  else if a < 0xF4 then [any, any, any]
  else if a = 0xF4 then [(0x80, 0x8F), any, any]
  else []

/-- The number of bytes at the start that lie in the ranges in front of them. -/
def matchingBytes : List (UInt8 × UInt8) → List UInt8 → Nat
  | (low, high) :: ranges, b :: rest =>
    if low ≤ b ∧ b ≤ high then matchingBytes ranges rest + 1 else 0
  | _, _ => 0

/-- Reads `bytes`, skipping the first `skip` of them; what is no sequence gives a replacement
character, as far as it could have been the beginning of one. -/
def decodeLossyFrom : (skip : Nat) → List UInt8 → List Char
  | _, [] => []
  | skip + 1, _ :: rest => decodeLossyFrom skip rest
  | 0, b :: rest =>
    match firstChar? (b :: rest) with
    | some (c, width) => c :: decodeLossyFrom (width - 1) rest
    | none => '\ufffd' :: decodeLossyFrom (matchingBytes (followers b) rest) rest

/-- The text of some bytes with replacement characters for what is no text. -/
def decodeUtf8Lossy (bytes : List UInt8) : List Char := decodeLossyFrom 0 bytes

end SynthTable.Text
