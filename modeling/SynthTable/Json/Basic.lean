import SynthTable.Number.Double

/-!
# JSON values

The values of JSON documents. Members of objects keep the order and the repetitions of the text they
were read from, so that a reader of a document decides what a repetition means.
-/

namespace SynthTable

/-- A JSON value. Numbers written without fraction and exponent are integers when they fit into 64
bits, signed or unsigned; all others are doubles. Where half of a surrogate pair stands alone, a
string or an object with such a name is no value that can be read, but it can be passed over. -/
inductive Json where
  | null
  | bool (b : Bool)
  | integer (n : Int)
  | float (x : Double)
  | string (s : String)
  | array (items : List Json)
  | object (members : List (String × Json))
  /-- A string, or an object with a name, that holds half of a surrogate pair. -/
  | unpaired
  deriving Inhabited

namespace Json

/-- A text as a JSON string. -/
def ofChars (cs : List Char) : Json := .string (String.ofList cs)

/-- A natural number. -/
def ofNat (n : Nat) : Json := .integer n

/-- A value that may be missing, as `null` if it is. -/
def orNull {α : Type} (toJson : α → Json) : Option α → Json
  | some a => toJson a
  | none => .null

/-- A member that is there only if there is a value. -/
def optionalMember {α : Type} (name : String) (toJson : α → Json) :
    Option α → List (String × Json)
  | some a => [(name, toJson a)]
  | none => []

/-- An object with one member more; other values stay as they are. -/
def withMember (v : Json) (name : String) (value : Json) : Json :=
  match v with
  | .object members => .object (members ++ [(name, value)])
  | v => v

/-- Texts. -/
def ofTexts (texts : List String) : Json := .array (texts.map .string)

/-- The values of the members of one name, in order. -/
def valuesOf (name : String) (members : List (String × Json)) : List Json :=
  members.filterMap fun (n, v) => if n = name then some v else none

/-- The first member of a name, of an object. -/
def member? (name : String) : Json → Option Json
  | .object members => (valuesOf name members).head?
  | _ => none

mutual

/-- The number of containers around the innermost value, itself included if it is one. -/
def depth : Json → Nat
  | .array items => depthOfItems items + 1
  | .object members => depthOfMembers members + 1
  | _ => 0

/-- The greatest depth of the items. -/
def depthOfItems : List Json → Nat
  | [] => 0
  | v :: rest => max (depth v) (depthOfItems rest)

/-- The greatest depth of the members. -/
def depthOfMembers : List (String × Json) → Nat
  | [] => 0
  | (_, v) :: rest => max (depth v) (depthOfMembers rest)

end

mutual

/-- Every number in the value is a double and every string a text. -/
def isReadable : Json → Bool
  | .float x => x.isFinite
  | .array items => areReadableItems items
  | .object members => areReadableMembers members
  | .unpaired => false
  | _ => true

/-- Every number in the items is a double and every string a text. -/
def areReadableItems : List Json → Bool
  | [] => true
  | v :: rest => isReadable v && areReadableItems rest

/-- Every number in the members is a double and every string a text. -/
def areReadableMembers : List (String × Json) → Bool
  | [] => true
  | (_, v) :: rest => isReadable v && areReadableMembers rest

end

end Json

end SynthTable
