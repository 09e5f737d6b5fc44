import SynthTable.Text.Blank
import SynthTable.Text.Split

/-!
# Links

A link names a column and an attribute of its values, with a point between them. A dollar sign in
front of the column is allowed.
-/

namespace SynthTable

/-- A column and one of its attributes. -/
structure LinkTarget where
  column : String
  field : String
  deriving DecidableEq, Repr

namespace LinkTarget

/-- Reads `column.attribute`; the last point divides, and neither part may be blank. -/
def ofText? (text : String) : Option LinkTarget := do
  let cs := Text.trim text.toList
  let cs := (Text.dropLead? ['$'] cs).getD cs
  let (column, field) ← Text.cutLast? '.' cs
  let column := Text.trim column
  let field := Text.trim field
  if column.isEmpty || field.isEmpty then none
  else some ⟨String.ofList column, String.ofList field⟩

end LinkTarget

end SynthTable
