import SynthTable.Condition.Reader
import SynthTable.Formula.Eval
import SynthTable.Schema.Derivation

/-!
# Computations

A derivation whose texts have been read. It is evaluated on the columns filled so far and gives a
text, which the column then casts to its kind.
-/

namespace SynthTable

/-- A text with references, cut at them. -/
structure Template where
  segments : List Reference.Segment

namespace Template

/-- The template of a text. -/
def ofText (source : String) : Template :=
  ⟨Reference.segments Reference.templateStyle source.toList⟩

/-- The text of a segment on a row: a reference that has no value stays as it is written. -/
def segmentText (row : Row) : Reference.Segment → List Char
  | .plain text => text
  | .reference text name =>
    match row.get? (String.ofList name) with
    | some v => v.toText.toList
    | none => text

/-- The text with the references filled in. -/
def render (t : Template) (row : Row) : String :=
  String.ofList (t.segments.flatMap (segmentText row))

end Template

/-- The text of the attribute that a link names. -/
def LinkTarget.resolve (link : LinkTarget) (row : Row) : Except CellError String :=
  match row.get? link.column with
  | none => .error (.missingReference link.column)
  | some v =>
    match v.attribute? link.field with
    | some text => .ok text
    | none => .error (.unknownAttribute link.column link.field)

/-- Why a derivation cannot be evaluated. -/
inductive DerivationError where
  | condition (error : ConditionError)
  | formula (source : String) (error : FormulaError)
  | link (source : String)
  deriving DecidableEq

/-- The text of an error. -/
def DerivationError.message : DerivationError → String
  | .condition error => error.message
  | .formula source error => "formula '" ++ source ++ "': " ++ error.message
  | .link source => "link '" ++ source ++ "' must have the form column.attribute"

mutual

/-- A derivation ready for evaluation. -/
inductive Computation where
  | conditional (lines : List ComputationLine) (default? : Option ComputedValue)
  | formula (f : Formula)
  | template (t : Template)
  | link (l : LinkTarget)

/-- A condition and the value that applies if it holds. -/
inductive ComputationLine where
  | mk (condition : Condition) (value : ComputedValue)

/-- The value of a line. -/
inductive ComputedValue where
  | literal (text : String)
  | derived (c : Computation)

end

/-- Reads a formula with its text in the error. -/
def readFormula (source : String) : Except DerivationError Computation :=
  match Formula.ofText source with
  | .ok f => .ok (.formula f)
  | .error e => .error (.formula source e)

/-- Reads a link with its text in the error. -/
def readLink (source : String) : Except DerivationError LinkTarget :=
  match LinkTarget.ofText? source with
  | some link => .ok link
  | none => .error (.link source)

/-- Reads a condition. -/
def readCondition (source : String) : Except DerivationError Condition :=
  match Condition.ofText source with
  | .ok condition => .ok condition
  | .error e => .error (.condition e)

mutual

/-- Reads the texts of a derivation. -/
def Computation.ofDerivation : Derivation → Except DerivationError Computation
  | .conditional rules default? => do
    let lines ← ComputationLine.ofRules rules
    let default? ← ComputedValue.ofOption default?
    .ok (.conditional lines default?)
  | .formula source => readFormula source
  | .injection source => .ok (.template (.ofText source))
  | .link source => do .ok (.link (← readLink source))

/-- Reads the texts of rules. -/
def ComputationLine.ofRules : List ConditionalRule → Except DerivationError (List ComputationLine)
  | [] => .ok []
  | .mk when value :: rest => do
    let condition ← readCondition when
    let value ← ComputedValue.ofValue value
    let lines ← ComputationLine.ofRules rest
    .ok (.mk condition value :: lines)

/-- Reads the texts of a value. -/
def ComputedValue.ofValue : ConditionalValue → Except DerivationError ComputedValue
  | .derived d => do .ok (.derived (← Computation.ofDerivation d))
  | .text s => .ok (.literal s)
  | .integer n => .ok (.literal (toString n.toInt))
  | .float x => .ok (.literal x.toText)
  | .bool b => .ok (.literal (toString b))

/-- Reads the texts of the value after all rules. -/
def ComputedValue.ofOption :
    Option ConditionalValue → Except DerivationError (Option ComputedValue)
  | some value => do .ok (some (← ComputedValue.ofValue value))
  | none => .ok none

end

mutual

/-- The text of a computation on a row. -/
def Computation.evaluate (row : Row) : Computation → Except CellError String
  | .conditional lines default? =>
    match ComputationLine.firstText row lines with
    | .error e => .error e
    | .ok (some text) => .ok text
    | .ok none => ComputedValue.textOrEmpty row default?
  | .formula f =>
    match f.evaluate row with
    | .error e => .error e
    | .ok value => .ok value.render
  | .template t => .ok (t.render row)
  | .link l => l.resolve row

/-- The text of the first line whose condition holds. -/
def ComputationLine.firstText (row : Row) :
    List ComputationLine → Except CellError (Option String)
  | [] => .ok none
  | .mk condition value :: rest =>
    match condition.holds row with
    | .error e => .error e
    | .ok true =>
      match ComputedValue.textIn row value with
      | .error e => .error e
      | .ok text => .ok (some text)
    | .ok false => ComputationLine.firstText row rest

/-- The text of a value. -/
def ComputedValue.textIn (row : Row) : ComputedValue → Except CellError String
  | .literal text => .ok text
  | .derived c => Computation.evaluate row c

/-- The text of the value after all lines; empty if there is none. -/
def ComputedValue.textOrEmpty (row : Row) : Option ComputedValue → Except CellError String
  | some value => ComputedValue.textIn row value
  | none => .ok ""

end

/-- The name of the form of a computation. -/
def Computation.label : Computation → String
  | .conditional _ _ => "conditional"
  | .formula _ => "formula"
  | .template _ => "injection"
  | .link _ => "link"

end SynthTable
