/-!
# Layouts

The names of the columns of a row in the order of generation, with the ghosts among them.
-/

namespace SynthTable

/-- A column of a layout. -/
structure LayoutColumn where
  name : String
  ghost : Bool
  deriving DecidableEq, Repr

/-- The columns of a row. -/
abbrev Layout := List LayoutColumn

namespace Layout

/-- The place of the last column of a name. -/
def position? (layout : Layout) (name : String) : Option Nat :=
  match layout with
  | [] => none
  | c :: rest =>
    match position? rest name with
    | some i => some (i + 1)
    | none => if c.name = name then some 0 else none

/-- The names of the columns. -/
def names (layout : Layout) : List String := layout.map (·.name)

/-- The names of the columns that are written out. -/
def visibleNames (layout : Layout) : List String :=
  (layout.filter (!·.ghost)).map (·.name)

/-- Whether the column at a place is a ghost; places after the last have none. -/
def isGhost (layout : Layout) (index : Nat) : Bool :=
  match layout[index]? with
  | some c => c.ghost
  | none => false

end Layout

end SynthTable
