import SynthTable.Number.Decimal
import SynthTable.Text.Blank
import SynthTable.Text.Quoted

/-!
# Bounds

The lower or upper bound of a column as it was declared: an integer, a double or a text, which may
be a number or a date.
-/

namespace SynthTable

/-- A declared bound. -/
inductive Bound where
  | integer (n : Int64)
  | float (x : Double)
  | text (s : String)
  deriving DecidableEq

namespace Bound

/-- The bound as an integer: a double without fraction is cut to 64 bits, a text must be one. -/
def int64? : Bound → Option Int64
  | .integer n => some n
  | .float x => if x.isWhole then some x.toInt64 else none
  | .text s => Numeral.int64? (Text.trim s.toList)

/-- The bound as a double. -/
def double? : Bound → Option Double
  | .integer n => some (.ofInt n.toInt)
  | .float x => some x
  | .text s => Numeral.double? (Text.trim s.toList)

/-- The bound as messages show it. -/
def shown : Bound → String
  | .integer n => "Integer(" ++ toString n.toInt ++ ")"
  | .float x => "Float(" ++ x.format .message ++ ")"
  | .text s => "Text(" ++ Text.quoted s ++ ")"

end Bound

end SynthTable
