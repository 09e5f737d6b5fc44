import SynthTable.Value.Basic

/-!
# Scalars

Formulas compute with numbers, texts and truth values. The value of a column is read as a number or
a truth value where its text is one.
-/

namespace SynthTable

/-- A value of a formula. -/
inductive Scalar where
  | number (x : Double)
  | text (s : String)
  | bool (b : Bool)
  deriving DecidableEq

namespace Scalar

/-- A text as a scalar: a finite number or a truth value if it is one with blanks around it. -/
def ofText (s : String) : Scalar :=
  let trimmed := Text.trim s.toList
  match (Numeral.double? trimmed).filter (·.isFinite) with
  | some x => .number x
  | none =>
    if trimmed = ['t', 'r', 'u', 'e'] then .bool true
    else if trimmed = ['f', 'a', 'l', 's', 'e'] then .bool false
    else .text s

/-- The value of a column as a scalar. -/
def ofValue : Value → Scalar
  | .int n => .number (.ofInt n.toInt)
  | .float x => .number x
  | .bool b => .bool b
  | v => ofText v.toText

/-- Whether a scalar counts as true: numbers but zero, texts but the empty one. -/
def truthy : Scalar → Bool
  | .number x => !x.equal (.zero false)
  | .text s => s != ""
  | .bool b => b

/-- The text of a scalar; whole numbers below 10^15 are written as integers. -/
def render : Scalar → String
  | .number x =>
    if x.isWhole && x.sizeBelow (Nat.pow 10 15) then toString x.toInt64.toInt else x.toText
  | .text s => s
  | .bool b => toString b

/-- The name of the type of a scalar. -/
def typeName : Scalar → String
  | .number _ => "number"
  | .text _ => "text"
  | .bool _ => "boolean"

/-- Equality of numbers or of truth values; scalars of two types are compared by their texts. -/
def equal : Scalar → Scalar → Bool
  | .number x, .number y => x.equal y
  | .bool a, .bool b => a == b
  | a, b => a.render == b.render

end Scalar

end SynthTable
