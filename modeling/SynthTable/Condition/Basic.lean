import SynthTable.Row.Basic
import SynthTable.Row.CellError
import SynthTable.Text.Case
import SynthTable.Text.Order

/-!
# Conditions

A condition holds always, or if all comparisons of one of its groups hold. A comparison sets the
text of a column beside the text of another one or a literal.
-/

namespace SynthTable

/-- How two texts are compared. -/
inductive Comparator where
  | equal
  | notEqual
  | greater
  | less
  | atLeast
  | atMost
  | contains
  deriving DecidableEq, Repr

/-- What the text of a column is compared with. -/
inductive Operand where
  | column (name : String)
  | literal (text : String)
  deriving DecidableEq, Repr

/-- One comparison of a condition. -/
structure Comparison where
  column : String
  op : Comparator
  operand : Operand
  deriving DecidableEq, Repr

/-- A condition on a row. -/
inductive Condition where
  | always
  /-- All comparisons of some group hold. -/
  | anyOf (groups : List (List Comparison))
  deriving DecidableEq, Repr

namespace Comparator

/-- The order of two texts without blanks at their ends: by their numbers if both are numbers, by
their characters otherwise. -/
def order? (left right : List Char) : Option Ordering :=
  match Numeral.double? left, Numeral.double? right with
  | some x, some y => x.compare? y
  | _, _ => some (Text.compareTexts left right)

/-- Equality looks neither at case nor at the blanks around the texts; containment looks at the
texts as they are. -/
def holds (op : Comparator) (left right : String) : Bool :=
  let l := Text.trim left.toList
  let r := Text.trim right.toList
  match op with
  | .equal => Text.lower l == Text.lower r
  | .notEqual => Text.lower l != Text.lower r
  | .contains => Text.occursIn right.toList left.toList
  | .greater => order? l r == some .gt
  | .less => order? l r == some .lt
  | .atLeast => (order? l r).any (· != .lt)
  | .atMost => (order? l r).any (· != .gt)

end Comparator

/-- The text of a column that is filled. -/
def Row.textOf (row : Row) (name : String) : Except CellError String :=
  match row.get? name with
  | some v => .ok v.toText
  | none => .error (.missingReference name)

/-- The text of an operand. -/
def Operand.textIn (row : Row) : Operand → Except CellError String
  | .column name => row.textOf name
  | .literal text => .ok text

/-- Whether a comparison holds on a row. -/
def Comparison.holds (c : Comparison) (row : Row) : Except CellError Bool :=
  match row.textOf c.column with
  | .error e => .error e
  | .ok left =>
    match c.operand.textIn row with
    | .error e => .error e
    | .ok right => .ok (c.op.holds left right)

namespace Condition

/-- Whether all comparisons hold; those after the first that does not are not looked at. -/
def allHold (row : Row) : List Comparison → Except CellError Bool
  | [] => .ok true
  | c :: rest =>
    match c.holds row with
    | .error e => .error e
    | .ok false => .ok false
    | .ok true => allHold row rest

/-- Whether some group holds; those after the first that does are not looked at. -/
def anyHolds (row : Row) : List (List Comparison) → Except CellError Bool
  | [] => .ok false
  | group :: rest =>
    match allHold row group with
    | .error e => .error e
    | .ok true => .ok true
    | .ok false => anyHolds row rest

/-- Whether a condition holds on a row. -/
def holds (condition : Condition) (row : Row) : Except CellError Bool :=
  match condition with
  | .always => .ok true
  | .anyOf groups => anyHolds row groups

end Condition

end SynthTable
