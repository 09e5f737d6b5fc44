import SynthTable.Row.Layout
import SynthTable.Value.Basic

/-!
# Rows

A row is filled column by column in the order of its layout. A look-up sees only the columns filled
so far, so no column can read a later one.
-/

namespace SynthTable

/-- A layout and the values of its first columns. -/
structure Row where
  layout : Layout
  values : List Value
  fits : values.length ≤ layout.length

namespace Row

/-- A row without values. -/
def empty (layout : Layout) : Row := ⟨layout, [], Nat.zero_le _⟩

/-- The row with the value of the next column; the row itself if it is complete. -/
def push (row : Row) (v : Value) : Row :=
  if h : row.values.length < row.layout.length then
    ⟨row.layout, row.values ++ [v], by rw [List.length_append]; exact h⟩
  else row

/-- The row with the values of a list for its first columns. -/
def ofValues (layout : Layout) (values : List Value) : Row :=
  ⟨layout, values.take layout.length, List.length_take_le ..⟩

/-- The value of a name, if it is filled already. -/
def get? (row : Row) (name : String) : Option Value :=
  (row.layout.position? name).bind (row.values[·]?)

/-- The number of columns filled. -/
def filled (row : Row) : Nat := row.values.length

/-- Whether every column is filled. -/
def isComplete (row : Row) : Bool := row.values.length == row.layout.length

/-- The columns filled, with their values. -/
def cells (row : Row) : List (LayoutColumn × Value) := row.layout.zip row.values

/-- The names of the columns filled, with their values. -/
def entries (row : Row) : List (String × Value) := row.cells.map fun (c, v) => (c.name, v)

/-- The entries that are written out. -/
def visible (row : Row) : List (String × Value) :=
  (row.cells.filter (!·.1.ghost)).map fun (c, v) => (c.name, v)

/-- The values that are written out. -/
def visibleValues (row : Row) : List Value := row.visible.map (·.2)

/-- Members with one more at the end; a member of the same name keeps its place and takes the
value. -/
def setMember (name : String) (value : Json) : List (String × Json) → List (String × Json)
  | [] => [(name, value)]
  | (n, v) :: rest =>
    if n = name then (n, value) :: rest else (n, v) :: setMember name value rest

/-- The entries that are written out as a JSON object. -/
def toJson (row : Row) : Json :=
  .object (row.visible.foldl (fun members (n, v) => setMember n v.toJson members) [])

end Row

end SynthTable
