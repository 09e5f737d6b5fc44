import SynthTable.Formula.Expr
import SynthTable.Row.Basic
import SynthTable.Row.CellError
import SynthTable.Text.Order

/-!
# Formulas

A formula is evaluated on the columns filled so far. Operators ask for operands of certain types;
`&&` and `||` look at their right operand only if the left one leaves the answer open.
-/

namespace SynthTable

/-- A formula with its text. -/
structure Formula where
  source : String
  expr : Expr

namespace Formula

/-- The formula of a text. -/
def ofText (source : String) : Except FormulaError Formula :=
  match Expr.ofText source with
  | .ok expr => .ok ⟨source, expr⟩
  | .error e => .error e

/-- Two operands that an operator cannot combine. -/
def mismatch (op : BinaryOp) (a b : Scalar) : Except CellError Scalar :=
  .error (.evaluation (.cannotCombine op.symbol a.typeName b.typeName))

/-- Numbers are added; if one operand is a text, the texts of both are joined. -/
def plus (a b : Scalar) : Except CellError Scalar :=
  match a, b with
  | .number x, .number y => .ok (.number (x.add y))
  | .text _, _ => .ok (.text (a.render ++ b.render))
  | _, .text _ => .ok (.text (a.render ++ b.render))
  | _, _ => mismatch .add a b

/-- An operation on two numbers. -/
def arithmetic (op : BinaryOp) (compute : Double → Double → Double) (a b : Scalar) :
    Except CellError Scalar :=
  match a, b with
  | .number x, .number y => .ok (.number (compute x y))
  | _, _ => mismatch op a b

/-- An operation on two numbers of which the second is not zero. -/
def division (op : BinaryOp) (compute : Double → Double → Double) (a b : Scalar) :
    Except CellError Scalar :=
  match a, b with
  | .number x, .number y =>
    if y.equal (.zero false) then .error (.evaluation .divisionByZero)
    else .ok (.number (compute x y))
  | _, _ => mismatch op a b

/-- The order of two numbers or of two texts. -/
def order? : Scalar → Scalar → Option Ordering
  | .number x, .number y => x.compare? y
  | .text s, .text t => some (Text.compareTexts s.toList t.toList)
  | _, _ => none

/-- A comparison by order. -/
def comparison (op : BinaryOp) (holds : Ordering → Bool) (a b : Scalar) :
    Except CellError Scalar :=
  match order? a b with
  | some ordering => .ok (.bool (holds ordering))
  | none => mismatch op a b

/-- The value of an operator on two values. -/
def apply (op : BinaryOp) (a b : Scalar) : Except CellError Scalar :=
  match op with
  | .or => .ok (.bool (a.truthy || b.truthy))
  | .and => .ok (.bool (a.truthy && b.truthy))
  | .eq => .ok (.bool (a.equal b))
  | .ne => .ok (.bool (!a.equal b))
  | .lt => comparison .lt (· == .lt) a b
  | .le => comparison .le (· != .gt) a b
  | .gt => comparison .gt (· == .gt) a b
  | .ge => comparison .ge (· != .lt) a b
  | .add => plus a b
  | .sub => arithmetic .sub Double.sub a b
  | .mul => arithmetic .mul Double.mul a b
  | .div => division .div Double.div a b
  | .rem => division .rem Double.rem a b

/-- The value of an expression on a row. -/
def eval (row : Row) : Expr → Except CellError Scalar
  | .literal value => .ok value
  | .column name =>
    match row.get? name with
    | some v => .ok (.ofValue v)
    | none => .error (.missingReference name)
  | .neg operand =>
    match eval row operand with
    | .error e => .error e
    | .ok (.number x) => .ok (.number x.neg)
    | .ok a => .error (.evaluation (.cannotApply "-" a.typeName))
  | .not operand =>
    match eval row operand with
    | .error e => .error e
    | .ok a => .ok (.bool (!a.truthy))
  | .conditional condition yes no =>
    match eval row condition with
    | .error e => .error e
    | .ok a => if a.truthy then eval row yes else eval row no
  | .binary op left right =>
    match eval row left with
    | .error e => .error e
    | .ok a =>
      if op = .and && !a.truthy then .ok (.bool false)
      else if op = .or && a.truthy then .ok (.bool true)
      else
        match eval row right with
        | .error e => .error e
        | .ok b => apply op a b

/-- The value of a formula on a row; a number must be finite. -/
def evaluate (f : Formula) (row : Row) : Except CellError Scalar :=
  match eval row f.expr with
  | .error e => .error e
  | .ok (.number x) =>
    if x.isFinite then .ok (.number x) else .error (.evaluation (.notFinite f.source))
  | .ok a => .ok a

end Formula

end SynthTable
