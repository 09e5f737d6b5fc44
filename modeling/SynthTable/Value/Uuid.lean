import SynthTable.Text.Blank
import SynthTable.Text.Hex
import SynthTable.Text.Split

/-!
# Universally unique identifiers

Sixteen bytes, written as hexadecimal digits in groups of 8, 4, 4, 4 and 12. Reading also accepts
the digits without dashes, the groups in braces and the groups as a resource name.
-/

namespace SynthTable

/-- An identifier of sixteen bytes. -/
structure Uuid where
  bytes : Vector UInt8 16
  deriving DecidableEq

namespace Uuid

/-- The identifier of sixteen bytes. -/
def ofBytes? (bytes : List UInt8) : Option Uuid :=
  if h : bytes.length = 16 then some ⟨⟨bytes.toArray, by simpa using h⟩⟩ else none

/-- A random identifier: version 4 in the seventh byte, the variant in the ninth. -/
def ofRandomBytes (bytes : Vector UInt8 16) : Uuid :=
  ⟨(bytes.set 6 (bytes[6] &&& 0x0f ||| 0x40)).set 8 (bytes[8] &&& 0x3f ||| 0x80)⟩

/-- The digits in groups with dashes between them. -/
def toChars (u : Uuid) : List Char :=
  let digits := Text.hexOfBytes u.bytes.toList
  digits.take 8 ++ '-' :: (digits.drop 8).take 4 ++ '-' :: (digits.drop 12).take 4 ++
    '-' :: (digits.drop 16).take 4 ++ '-' :: digits.drop 20

/-- The text of an identifier. -/
def toText (u : Uuid) : String := String.ofList u.toChars

/-- An identifier from its digits alone. -/
def ofDigits? (cs : List Char) : Option Uuid := do ofBytes? (← Text.bytesOfHex? cs)

/-- An identifier from its groups. -/
def ofGroups? (cs : List Char) : Option Uuid :=
  match Text.splitOn '-' cs with
  | [a, b, c, d, e] =>
    if a.length = 8 ∧ b.length = 4 ∧ c.length = 4 ∧ d.length = 4 ∧ e.length = 12 then
      ofDigits? (a ++ b ++ c ++ d ++ e)
    else none
  | _ => none

/-- An identifier in any of its forms, without blanks. -/
def ofChars? (cs : List Char) : Option Uuid :=
  match ofDigits? cs with
  | some u => some u
  | none =>
    match Text.between? '{' '}' cs with
    | some inner => ofGroups? inner
    | none =>
      match Text.dropLead? ['u', 'r', 'n', ':', 'u', 'u', 'i', 'd', ':'] cs with
      | some rest => ofGroups? rest
      | none => ofGroups? cs

/-- The identifier that a text names, with blanks around it. -/
def ofText? (text : String) : Option Uuid := ofChars? (Text.trim text.toList)

end Uuid

end SynthTable
