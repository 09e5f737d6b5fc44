import SynthTable.Schema.Check
import SynthTable.Table.Field
import SynthTable.Table.Notice

/-!
# Plans

A plan holds the fields of a table in the order of generation. Columns that cannot be made ready are
dropped with a reason, and with them the columns that need them. A crash while a column is made ready
breaks the making of the plan off.
-/

namespace SynthTable

/-- Why a column is dropped. -/
inductive DropReason where
  /-- The check of the schema found an error. -/
  | finding (finding : Finding)
  /-- A column that it reads was dropped. -/
  | dependency (name : String)
  | field (error : FieldError)
  | missingAttribute (target : LinkTarget)
  deriving DecidableEq

namespace DropReason

/-- The crash that stands behind a reason. -/
def crash? : DropReason → Option Crash
  | .field e => e.crash?
  | _ => none

/-- The code of a reason in reports. -/
def code : DropReason → String
  | .finding f => f.code
  | .dependency _ => "dropped_dependency"
  | .field _ => "invalid_column"
  | .missingAttribute _ => "unknown_attribute"

/-- The text of a reason. -/
def message : DropReason → String
  | .finding f => f.message
  | .dependency name => "references dropped column '" ++ name ++ "'"
  | .field e => e.message
  | .missingAttribute target =>
    "column '" ++ target.column ++ "' exposes no attribute '" ++ target.field ++ "'"

end DropReason

/-- A column that was dropped. -/
structure DroppedColumn where
  column : String
  reason : DropReason
  deriving DecidableEq

/-- A dropped column as a JSON object. -/
def DroppedColumn.toJson (d : DroppedColumn) : Json :=
  .object [("column", .string d.column), ("code", .string d.reason.code),
    ("reason", .string d.reason.message)]

/-- A table ready for generation. -/
structure Plan where
  fields : List Field
  check : CheckReport
  dropped : List DroppedColumn
  warnings : List Notice

/-- Why no plan is made of a schema. -/
inductive BuildFault where
  | names (fault : NameFault)
  | crash (crash : Crash)
  deriving DecidableEq, Repr

/-- Why a plan is refused. -/
inductive PlanError where
  | names (fault : NameFault)
  /-- The name of an external column is blank or taken. -/
  | externalName (name : String)
  deriving DecidableEq, Repr

/-- The text of an error. -/
def PlanError.message : PlanError → String
  | .names fault => "invalid model: " ++ fault.message
  | .externalName name =>
    "invalid model: external column name '" ++ name ++ "' is empty or already used"

namespace Plan

/-- The layout of the fields of a list. -/
def layoutOf (fields : List Field) : Layout := fields.map fun f => ⟨f.name, f.ghost⟩

/-- The layout of the rows of a plan. -/
def layout (p : Plan) : Layout := layoutOf p.fields

/-- The fields and dropped columns of the columns so far, and the warnings about the fields. -/
structure Progress where
  fields : List Field
  dropped : List DroppedColumn
  warnings : List Notice

/-- The first column that a column reads and that was dropped. -/
def droppedReference? (c : Column) (dropped : List DroppedColumn) : Option String :=
  c.references.find? fun name => dropped.any (·.column = name)

/-- Whether a field is known not to have the attribute of a link. -/
def lacks (fields : List Field) (link : LinkTarget) : Bool :=
  (fields.find? (·.name = link.column)).any fun f => f.exposes link.field == some false

/-- The links of a column. -/
def linksOf (c : Column) : List LinkTarget :=
  match c.derivation? with
  | some d => d.links
  | none => []

/-- The field of a column after some fields and dropped columns. -/
def fieldOf (c : Column) (assets : AssetSource) (fields : List Field)
    (dropped : List DroppedColumn) : Except DropReason Field :=
  match droppedReference? c dropped with
  | some name => .error (.dependency name)
  | none =>
    match Field.build c assets with
    | .error e => .error (.field e)
    | .ok f =>
      match (linksOf c).find? (lacks fields) with
      | some link => .error (.missingAttribute link)
      | none => .ok f

/-- The error that the check found first for a column. -/
def findingFor? (check : CheckReport) (name : String) : Option Finding :=
  (check.errors.find? (·.column = name)).map (·.finding)

/-- What became of a column. -/
def outcomeOf (check : CheckReport) (assets : AssetSource) (progress : Progress) (c : Column) :
    Except DropReason Field :=
  match findingFor? check c.name with
  | some finding => .error (.finding finding)
  | none => fieldOf c assets progress.fields progress.dropped

/-- The next column: a field or a dropped column more. -/
def advance (check : CheckReport) (assets : AssetSource) (progress : Progress) (c : Column) :
    Progress :=
  match outcomeOf check assets progress c with
  | .error reason => { progress with dropped := progress.dropped ++ [⟨c.name, reason⟩] }
  | .ok f =>
    { progress with
      fields := progress.fields ++ [f]
      warnings := progress.warnings ++
        f.warnings.map fun message => ⟨"build_warning", message, some c.name, none⟩ }

/-- The crash that a column ends in when its turn comes. -/
def crashAt? (check : CheckReport) (assets : AssetSource) (progress : Progress) (c : Column) :
    Option Crash :=
  match outcomeOf check assets progress c with
  | .error reason => reason.crash?
  | .ok _ => none

/-- The columns of a list, one after the other, up to a crash. -/
def advanceAll (check : CheckReport) (assets : AssetSource) :
    List Column → Progress → Except Crash Progress
  | [], progress => .ok progress
  | c :: rest, progress =>
    match crashAt? check assets progress c with
    | some crash => .error crash
    | none => advanceAll check assets rest (advance check assets progress c)

/-- The warnings of a check. -/
def checkNotices (check : CheckReport) : List Notice :=
  check.warnings.map fun i => ⟨i.finding.code, i.finding.message, some i.column, none⟩

/-- The plan of a schema. -/
def build (schema : Schema) (assets : AssetSource) : Except BuildFault Plan :=
  match schema.check with
  | .error fault => .error (.names fault)
  | .ok check =>
    match advanceAll check assets schema.columns ⟨[], [], checkNotices check⟩ with
    | .error crash => .error (.crash crash)
    | .ok progress => .ok ⟨progress.fields, check, progress.dropped, progress.warnings⟩

/-- The plan with an external column after all others. -/
def withExternal (p : Plan) (name : String) (source : ExternalSource) : Except PlanError Plan :=
  if Text.isAllBlank name || (p.layout.position? name).isSome then .error (.externalName name)
  else .ok { p with fields := p.fields ++ [.external name source] }

/-- The warnings about a plan: those of its making, then one for every dropped column. -/
def notices (p : Plan) : List Notice :=
  p.warnings ++ p.dropped.map fun d => ⟨d.reason.code, d.reason.message, some d.column, none⟩

end Plan

end SynthTable
