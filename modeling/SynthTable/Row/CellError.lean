/-!
# Errors of cells

Why a cell gets no value. The cell is left empty, and the error is reported with its code.
-/

namespace SynthTable

/-- Why a formula has no value. -/
inductive EvaluationFault where
  | divisionByZero
  | cannotApply (symbol operand : String)
  | cannotCombine (symbol left right : String)
  | notFinite (source : String)
  deriving DecidableEq, Repr

/-- The text of a fault. -/
def EvaluationFault.message : EvaluationFault → String
  | .divisionByZero => "division by zero"
  | .cannotApply symbol operand => "operator '" ++ symbol ++ "' cannot apply to " ++ operand
  | .cannotCombine symbol left right =>
    "operator '" ++ symbol ++ "' cannot combine " ++ left ++ " and " ++ right
  | .notFinite source => "formula '" ++ source ++ "' produced a non-finite number"

/-- Why a cell gets no value. -/
inductive CellError where
  | evaluation (fault : EvaluationFault)
  | cast (text kind : String)
  | missingReference (column : String)
  | unknownAttribute (column field : String)
  /-- A value supplied from outside could not be had. -/
  | external (reason : String)
  deriving DecidableEq, Repr

namespace CellError

/-- The code of an error in reports. -/
def code : CellError → String
  | .evaluation _ => "evaluation_failed"
  | .cast .. => "cast_failed"
  | .missingReference _ => "missing_reference"
  | .unknownAttribute .. => "unknown_attribute"
  | .external _ => "external_failed"

/-- The text of an error. -/
def message : CellError → String
  | .evaluation fault => "evaluation failed: " ++ fault.message
  | .cast text kind => "cannot cast '" ++ text ++ "' to " ++ kind
  | .missingReference column => "column '" ++ column ++ "' has no value in the current row"
  | .unknownAttribute column field =>
    "column '" ++ column ++ "' exposes no attribute '" ++ field ++ "'"
  | .external reason => "external provider failed: " ++ reason

end CellError

end SynthTable
