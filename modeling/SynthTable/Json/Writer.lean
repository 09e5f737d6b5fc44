import SynthTable.Json.Basic
import SynthTable.Number.Decimal
import SynthTable.Text.Hex

/-!
# Writing JSON

The text of a value: on one line without spaces, or indented by two spaces per level. Strings are
written as they are, apart from quotes, backslashes and control characters.
-/

namespace SynthTable.Json

/-- One character as it stands inside a JSON string. -/
def escapeChar (c : Char) : List Char :=
  if c = '"' then ['\\', '"']
  else if c = '\\' then ['\\', '\\']
  else if c = '\n' then ['\\', 'n']
  else if c = '\r' then ['\\', 'r']
  else if c = '\t' then ['\\', 't']
  else if c = '\x08' then ['\\', 'b']
  else if c = '\x0c' then ['\\', 'f']
  else if c.toNat < 0x20 then
    ['\\', 'u', '0', '0', Text.hexDigit (c.toNat / 16), Text.hexDigit (c.toNat % 16)]
  else [c]

/-- A JSON string. -/
def writeString (s : String) : List Char := '"' :: s.toList.flatMap escapeChar ++ ['"']

/-- A JSON number for a double; `null` where there is none. -/
def writeDouble (x : Double) : List Char :=
  if x.isFinite then (x.format .document).toList else ['n', 'u', 'l', 'l']

/-- Texts with a separator between them. -/
def joinWith (sep : List Char) : List (List Char) → List Char
  | [] => []
  | [part] => part
  | part :: rest => part ++ sep ++ joinWith sep rest

mutual

/-- The text of a value on one line. -/
def write : Json → List Char
  | .null => ['n', 'u', 'l', 'l']
  | .bool true => ['t', 'r', 'u', 'e']
  | .bool false => ['f', 'a', 'l', 's', 'e']
  | .integer n => (toString n).toList
  | .float x => writeDouble x
  | .string s => writeString s
  | .array items => '[' :: joinWith [','] (writeItems items) ++ [']']
  | .object members => '{' :: joinWith [','] (writeMembers members) ++ ['}']
  | .unpaired => ['n', 'u', 'l', 'l']

/-- The texts of the items of an array. -/
def writeItems : List Json → List (List Char)
  | [] => []
  | v :: rest => write v :: writeItems rest

/-- The texts of the members of an object. -/
def writeMembers : List (String × Json) → List (List Char)
  | [] => []
  | (n, v) :: rest => (writeString n ++ ':' :: write v) :: writeMembers rest

end

/-- A line end and the blanks of a level. -/
def lineStart (level : Nat) : List Char := '\n' :: List.replicate (2 * level) ' '

/-- Parts of a container, each on a line of its own. -/
def layLines (first last : Char) (level : Nat) : List (List Char) → List Char
  | [] => [first, last]
  | parts =>
    first :: lineStart (level + 1) ++ joinWith (',' :: lineStart (level + 1)) parts ++
      lineStart level ++ [last]

mutual

/-- The indented text of a value at a level. -/
def writeLines (level : Nat) : Json → List Char
  | .array items => layLines '[' ']' level (itemLines (level + 1) items)
  | .object members => layLines '{' '}' level (memberLines (level + 1) members)
  | v => write v

/-- The indented texts of the items of an array. -/
def itemLines (level : Nat) : List Json → List (List Char)
  | [] => []
  | v :: rest => writeLines level v :: itemLines level rest

/-- The indented texts of the members of an object. -/
def memberLines (level : Nat) : List (String × Json) → List (List Char)
  | [] => []
  | (n, v) :: rest => (writeString n ++ ':' :: ' ' :: writeLines level v) :: memberLines level rest

end

/-- The text of a value on one line. -/
def toText (v : Json) : String := String.ofList (write v)

/-- The indented text of a value. -/
def toIndentedText (v : Json) : String := String.ofList (writeLines 0 v)

end SynthTable.Json
