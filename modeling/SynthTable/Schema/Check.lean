import SynthTable.Json.Basic
import SynthTable.Schema.Basic

/-!
# Checking schemas

A schema without names for all columns, or with one name for two, is refused. Everything else that
is wrong concerns one column: an error drops the column and so every column that needs it, a warning
leaves it.
-/

namespace SynthTable

/-- Why a schema is refused as a whole. -/
inductive NameFault where
  /-- The column at this place has a blank name. -/
  | blank (index : Nat)
  /-- A name stands for two columns. -/
  | repeated (name : String)
  deriving DecidableEq, Repr

/-- The text of a fault. -/
def NameFault.message : NameFault → String
  | .blank index => "column at position " ++ toString index ++ " has an empty name"
  | .repeated name => "duplicate column name: " ++ name

/-- What is wrong with a column. -/
inductive Finding where
  | negativeWeight (value : String) (weight : Int64)
  | emptyPickList (kind : ColumnKind)
  | invalidBound (label : String) (kind : ColumnKind)
  | invalidBounds (min max : Double)
  | missingPattern
  | missingSource
  | invalidSeparator (separator : String)
  | unresolvedPlaceholder (name : String)
  | unknownReference (name : String)
  | forwardReference (name : String)
  | droppedDependency (name : String)
  | unknownAttribute (kind : ColumnKind) (target : LinkTarget)
  | invalidLink
  deriving DecidableEq

namespace Finding

/-- Whether a finding drops the column. -/
def isError : Finding → Bool
  | .negativeWeight .. | .emptyPickList _ | .unresolvedPlaceholder _ => false
  | _ => true

/-- The code of a finding in reports. -/
def code : Finding → String
  | .negativeWeight .. => "negative_weight"
  | .emptyPickList _ => "empty_pick_list"
  | .invalidBound .. => "invalid_bound"
  | .invalidBounds .. => "invalid_bounds"
  | .missingPattern => "missing_regex"
  | .missingSource => "missing_source"
  | .invalidSeparator _ => "invalid_separator"
  | .unresolvedPlaceholder _ => "unresolved_placeholder"
  | .unknownReference _ => "unknown_reference"
  | .forwardReference _ => "forward_reference"
  | .droppedDependency _ => "dropped_dependency"
  | .unknownAttribute .. => "unknown_attribute"
  | .invalidLink => "invalid_link"

/-- The place of a finding within its column. -/
def place : Finding → String
  | .negativeWeight value _ => ".values." ++ value
  | .emptyPickList _ => ".values"
  | .invalidBound label _ => "." ++ label
  | .invalidBounds .. => ""
  | .missingPattern => ".regex"
  | .missingSource => ".source"
  | .invalidSeparator _ => ".source.separator"
  | _ => ".derivation"

/-- The text of a finding. -/
def message : Finding → String
  | .negativeWeight value weight =>
    "weight " ++ toString weight.toInt ++ " for value '" ++ value ++ "' is negative"
  | .emptyPickList _ => "every weight is zero or negative"
  | .invalidBound label kind =>
    label ++ " is not a finite number for " ++ kind.label ++ " column"
  | .invalidBounds min max =>
    "min " ++ min.toText ++ " is greater than max " ++ max.toText
  | .missingPattern => "string_regex column requires a regex pattern"
  | .missingSource => "csv column requires a source file"
  | .invalidSeparator separator => "separator '" ++ separator ++ "' must be one character"
  | .unresolvedPlaceholder name =>
    "placeholder '$\x7b" ++ name ++ "\x7d' names no column and is kept as text"
  | .unknownReference name => "references unknown column '" ++ name ++ "'"
  | .forwardReference name =>
    "references column '" ++ name ++ "' which is not declared before it"
  | .droppedDependency name => "references column '" ++ name ++ "' which was dropped"
  | .unknownAttribute kind target =>
    kind.label ++ " column '" ++ target.column ++ "' has no attribute '" ++ target.field ++ "'"
  | .invalidLink => "link must have the form column.attribute"

/-- Advice that goes with a finding. -/
def hint? : Finding → Option String
  | .negativeWeight .. => some "negative weights are treated as zero"
  | .emptyPickList kind => some (kind.label ++ " falls back to its default sampling")
  | .unknownReference _ | .forwardReference _ | .droppedDependency _ =>
    some "declare referenced columns earlier in the model"
  | _ => none

end Finding

/-- A finding with its column. -/
structure Issue where
  column : String
  /-- The place of the column in the schema. -/
  index : Nat
  finding : Finding
  deriving DecidableEq

/-- The place of an issue in the schema. -/
def Issue.path (issue : Issue) : String :=
  "columns[" ++ toString issue.index ++ "]" ++ issue.finding.place

/-- An issue as a JSON object. -/
def Issue.toJson (issue : Issue) : Json :=
  .object (
    [("severity", .string (if issue.finding.isError then "error" else "warning")),
      ("code", .string issue.finding.code), ("column", .string issue.column),
      ("path", .string issue.path), ("message", .string issue.finding.message)] ++
    Json.optionalMember "hint" .string issue.finding.hint?)

/-- The issues of a schema, errors and warnings apart, each in the order of the columns. -/
structure CheckReport where
  errors : List Issue
  warnings : List Issue

namespace CheckReport

/-- No column has to be dropped. -/
def isOk (r : CheckReport) : Bool := r.errors.isEmpty

/-- The columns with an error. -/
def dropped (r : CheckReport) : Names := .ofList (r.errors.map (·.column))

/-- A report as a JSON object. -/
def toJson (r : CheckReport) : Json :=
  .object [("errors", .array (r.errors.map Issue.toJson)),
    ("warnings", .array (r.warnings.map Issue.toJson))]

end CheckReport

namespace Column

/-- What is wrong with the weights of the values. -/
def weightFindings (c : Column) : List Finding :=
  (c.values.filterMap fun (value, weight) =>
    if weight < 0 then some (.negativeWeight value weight) else none) ++
  if !c.values.isEmpty && c.values.all (·.2 ≤ 0) then [.emptyPickList c.kind] else []

/-- A bound as a finite number. -/
def finiteBound? (b : Bound) : Option Double := b.double?.filter (·.isFinite)

/-- What is wrong with the bounds of a numeric column. -/
def boundFindings (c : Column) : List Finding :=
  if !c.kind.isNumeric then []
  else
    let min? := c.min?.map finiteBound?
    let max? := c.max?.map finiteBound?
    match min?, max? with
    | some none, _ => [.invalidBound "min" c.kind]
    | _, some none => [.invalidBound "max" c.kind]
    | some (some min), some (some max) => if max.less min then [.invalidBounds min max] else []
    | _, _ => []

/-- What is missing for the kind. -/
def settingFindings (c : Column) : List Finding :=
  match c.kind with
  | .stringRegex =>
    if c.pattern?.isNone && c.derivation?.isNone then [.missingPattern] else []
  | .csv =>
    match c.source? with
    | none => [.missingSource]
    | some source =>
      if source.separator.length = 1 then [] else [.invalidSeparator source.separator]
  | _ => []

/-- What is wrong with a reference to `name` from the column at `index`, where `alive` are the
columns before it that have no error. -/
def referenceFinding? (schema : Schema) (index : Nat) (alive : List String) (required : Names)
    (name : String) : Option Finding :=
  match schema.position? name with
  | none =>
    if required.contains name then some (.unknownReference name)
    else some (.unresolvedPlaceholder name)
  | some position =>
    if index ≤ position then some (.forwardReference name)
    else if alive.contains name then none
    else some (.droppedDependency name)

/-- What is wrong with a link. -/
def linkFinding? (schema : Schema) (link : LinkTarget) : Option Finding :=
  match schema.column? link.column with
  | none => none
  | some target =>
    if target.kind.linkAttributes.allows? link.field = some false then
      some (.unknownAttribute target.kind link)
    else none

/-- What is wrong with the derivation. -/
def derivationFindings (schema : Schema) (index : Nat) (alive : List String) (c : Column) :
    List Finding :=
  match c.derivation? with
  | none => []
  | some d =>
    d.references.filterMap (referenceFinding? schema index alive d.requiredReferences) ++
    d.links.filterMap (linkFinding? schema) ++
    match d with
    | .link source => if (LinkTarget.ofText? source).isNone then [.invalidLink] else []
    | _ => []

/-- All that is wrong with the column at `index`. -/
def findings (schema : Schema) (index : Nat) (alive : List String) (c : Column) : List Finding :=
  c.weightFindings ++ c.boundFindings ++ c.settingFindings ++
    c.derivationFindings schema index alive

end Column

namespace Schema

/-- The first fault in the names of the columns from `index` on, with the names before them. -/
def nameFaultFrom (index : Nat) (seen : List String) : List Column → Option NameFault
  | [] => none
  | c :: rest =>
    if Text.isAllBlank c.name then some (.blank index)
    else if seen.contains c.name then some (.repeated c.name)
    else nameFaultFrom (index + 1) (c.name :: seen) rest

/-- The first fault in the names of the columns. -/
def nameFault? (s : Schema) : Option NameFault := nameFaultFrom 0 [] s.columns

/-- The issues of the columns from `index` on; `alive` are the columns before without error. -/
def issuesFrom (s : Schema) (index : Nat) (alive : List String) : List Column → List Issue
  | [] => []
  | c :: rest =>
    let findings := c.findings s index alive
    let alive := if findings.any (·.isError) then alive else c.name :: alive
    findings.map (⟨c.name, index, ·⟩) ++ issuesFrom s (index + 1) alive rest

/-- The issues of a schema whose names are without fault. -/
def issues (s : Schema) : List Issue := s.issuesFrom 0 [] s.columns

/-- Checks a schema. -/
def check (s : Schema) : Except NameFault CheckReport :=
  match s.nameFault? with
  | some fault => .error fault
  | none => .ok ⟨s.issues.filter (·.finding.isError), s.issues.filter (!·.finding.isError)⟩

end Schema

end SynthTable
