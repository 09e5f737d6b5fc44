import SynthTable.Command.Arguments
import SynthTable.Command.Basic
import SynthTable.Json.Sorted
import SynthTable.Json.Writer
import SynthTable.Schema.References

/-!
# The command `check`

Makes a plan of a schema and prints what would be generated: the columns, those that are dropped,
the warnings, the findings of the check and the graph of references.
-/

namespace SynthTable

namespace Plan

/-- The summary of a plan and its schema, with all members in the order of their names. -/
def summary (p : Plan) (schema : Schema) : Json :=
  Json.sorted <| .object [
    ("build_warnings", .array (p.warnings.map Notice.toJson)),
    ("columns", .array (p.fields.map fun f => f.descriptor.toJson)),
    ("dropped", .array (p.dropped.map DroppedColumn.toJson)),
    ("references", schema.referenceReport.toJson), ("validation", p.check.toJson)]

/-- Whether a strict check fails: a column is dropped, or the check of the schema warns. -/
def isUnclean (p : Plan) : Bool := !p.dropped.isEmpty || !p.check.warnings.isEmpty

end Plan

namespace CheckRequest

/-- The levels of the events that are shown. -/
def shownLevel : LogFilter := ⟨[.upTo LogLevel.warn.rank]⟩

/-- The end of the command for a schema and its files. -/
def conclude (request : CheckRequest) (program : Program) (schema : Schema)
    (assets : AssetSource) : Completion :=
  let events := (Plan.makingEvents schema assets).filter (shownLevel.keeps program.target)
  match Plan.build schema assets with
  | .error (.names fault) => .failure (.names fault) "" events
  | .error (.crash _) => .crashed events
  | .ok p =>
    let output := (p.summary schema).toIndentedText ++ "\n"
    if request.strict && p.isUnclean then
      .failure (.strict p.dropped.length p.check.warnings.length) output events
    else .success output events

/-- Runs the command. -/
def run {m : Type → Type} [Monad m] [Machine m] (request : CheckRequest) (program : Program) :
    m Completion := do
  match Schema.ofFile (← Machine.read request.schemaPath) with
  | .error e => return .failure e "" []
  | .ok schema =>
    let assets ← AssetSource.ofSchema schema request.dictionaries?
    return request.conclude program schema assets

end CheckRequest

end SynthTable
