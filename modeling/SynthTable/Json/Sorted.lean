import SynthTable.Json.Basic
import SynthTable.Order.Sorted

/-!
# Sorted JSON values

The members of all objects in a value in the order of their names; of members of one name the last
counts.
-/

namespace SynthTable.Json

mutual

/-- The value with the members of all objects in the order of their names. -/
def sorted : Json → Json
  | .array items => .array (sortedItems items)
  | .object members => .object (NameMap.ofList (sortedMembers members))
  | v => v

/-- The items of an array, each sorted. -/
def sortedItems : List Json → List Json
  | [] => []
  | v :: rest => sorted v :: sortedItems rest

/-- The members of an object, each sorted. -/
def sortedMembers : List (String × Json) → List (String × Json)
  | [] => []
  | (n, v) :: rest => (n, sorted v) :: sortedMembers rest

end

end SynthTable.Json
