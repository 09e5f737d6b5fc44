import SynthTable.Json.Decode
import SynthTable.Schema.Basic

/-!
# Schemas as JSON documents

Writing a schema leaves out what has its default; reading supplies it. Containers may be nested only
to a certain depth. Bounds and conditional values take the first form that fits: an integer of 64
bits, then a double, then a text, then for values a truth value or a derivation.
-/

namespace SynthTable

/-- The number of containers that may be nested in a document. -/
def nestingLimit : Nat := 127

/-- A value read as a whole before its form is known: its containers fit into the room that is left
and all in it can be read. -/
def Json.fitsWithin (room : Nat) (v : Json) : Bool := v.depth ≤ room && v.isReadable

/-- A bound. -/
def Bound.ofJson? : Json → Option Bound
  | .integer n =>
    match Json.int64? (.integer n) with
    | some i => some (.integer i)
    | none => some (.float (.ofInt n))
  | .float x => if x.isFinite then some (.float x) else none
  | .string s => some (.text s)
  | _ => none

/-- The document of a bound. -/
def Bound.toJson : Bound → Json
  | .integer n => .integer n.toInt
  | .float x => .float x
  | .text s => .string s

/-- The kind of its name; an object with the name as its only member and no value will do. -/
def ColumnKind.ofJson? : Json → Option ColumnKind
  | .string s => ofLabel? s
  | .object [(s, .null)] => ofLabel? s
  | _ => none

/-- The document of a file of records. -/
def CsvSource.toJson (s : CsvSource) : Json :=
  .object [("path", .string s.path), ("separator", .string s.separator),
    ("main_field", .string s.mainField)]

/-- A file of records. -/
def CsvSource.ofJson? (v : Json) : Option CsvSource := do
  match ← v.fields? ["path", "separator", "main_field"] with
  | [path, separator, mainField] =>
    some {
      path := ← Json.required? Json.string? path
      separator := ← Json.orDefault? Json.string? "," separator
      mainField := ← Json.required? Json.string? mainField }
  | _ => none

/-- A value of a conditional; `derivation` reads the derivations in it. -/
def ConditionalValue.ofJson? (derivation : Json → Option Derivation) :
    Json → Option ConditionalValue
  | .string s => some (.text s)
  | .integer n =>
    match Json.int64? (.integer n) with
    | some i => some (.integer i)
    | none => some (.float (.ofInt n))
  | .float x => some (.float x)
  | .bool b => some (.bool b)
  | v => (derivation v).map .derived

/-- A rule of a conditional with `room` for the containers inside it. -/
def ConditionalRule.ofJson? (room : Nat) (derivation : Json → Option Derivation) (v : Json) :
    Option ConditionalRule := do
  match ← v.fields? ["when", "then"] with
  | [condition, value] =>
    let condition ← Json.required? Json.string? condition
    let value ← value
    guard (value.fitsWithin room)
    some (.mk condition (← ConditionalValue.ofJson? derivation value))
  | _ => none

/-- A derivation that opens at most `room` containers, one inside the other. -/
def Derivation.ofJson? : (room : Nat) → Json → Option Derivation
  | 0, _ => none
  | room + 1, v => do
    let (form, body) ← v.onlyMember?
    match form with
    | "formula" => body.string?.map .formula
    | "injection" => body.string?.map .injection
    | "link" => body.string?.map .link
    | "conditional" =>
      match ← body.fields? ["rules", "default"] with
      | [rules, default?] =>
        guard (2 ≤ room)
        let rules ← Json.required? Json.items? rules
        guard (rules.isEmpty || 3 ≤ room)
        let rules ← rules.mapM (ConditionalRule.ofJson? (room - 3) (ofJson? room))
        let default? ← Json.optional? (fun value => do
          guard (value.fitsWithin (room - 1))
          ConditionalValue.ofJson? (ofJson? room) value) default?
        some (.conditional rules default?)
      | _ => none
    | _ => none

mutual

/-- The document of a derivation. -/
def Derivation.toJson : Derivation → Json
  | .conditional rules default? =>
    .object [("conditional", .object
      (("rules", .array (ConditionalRule.listToJson rules)) ::
        ConditionalValue.defaultToJson default?))]
  | .formula source => .object [("formula", .string source)]
  | .injection source => .object [("injection", .string source)]
  | .link source => .object [("link", .string source)]

/-- The documents of rules. -/
def ConditionalRule.listToJson : List ConditionalRule → List Json
  | [] => []
  | .mk w v :: rest =>
    .object [("when", .string w), ("then", ConditionalValue.toJson v)] ::
      ConditionalRule.listToJson rest

/-- The document of a value. -/
def ConditionalValue.toJson : ConditionalValue → Json
  | .text s => .string s
  | .integer n => .integer n.toInt
  | .float x => .float x
  | .bool b => .bool b
  | .derived d => Derivation.toJson d

/-- The member of the value after all rules. -/
def ConditionalValue.defaultToJson : Option ConditionalValue → List (String × Json)
  | some v => [("default", ConditionalValue.toJson v)]
  | none => []

end

namespace Column

/-- The names of the members of a column. -/
def memberNames : List String :=
  ["name", "kind", "ghost", "values", "min", "max", "length", "filters", "regex", "format",
    "use_now", "source", "derivation"]

/-- The values of a column with their weights; of a repeated value the last weight counts. -/
def weightsOfJson? (v : Json) : Option (NameMap Int64) := do
  let pairs ← (← v.members?).mapM fun (n, w) => do some (n, ← w.int64?)
  some (.ofList pairs)

/-- A column with `room` for the containers inside it. -/
def ofJson? (room : Nat) (v : Json) : Option Column := do
  match ← v.fields? memberNames with
  | [name, kind, ghost, values, min?, max?, length?, filters, pattern?, format?, useNow, source?,
      derivation?] =>
    some {
      name := ← Json.required? Json.string? name
      kind := ← Json.required? ColumnKind.ofJson? kind
      ghost := ← Json.orDefault? Json.bool? false ghost
      values := ← Json.orDefault? weightsOfJson? [] values
      min? := ← Json.optional? Bound.ofJson? min?
      max? := ← Json.optional? Bound.ofJson? max?
      length? := ← Json.optional? Json.int64? length?
      filters := ← Json.orDefault? (Json.listOf? Json.string?) [] filters
      pattern? := ← Json.optional? Json.string? pattern?
      format? := ← Json.optional? Json.string? format?
      useNow := ← Json.orDefault? Json.bool? false useNow
      source? := ← Json.optional? CsvSource.ofJson? source?
      derivation? := ← Json.optional? (Derivation.ofJson? room) derivation? }
  | _ => none

/-- A member that is written only if the flag is set. -/
def flagMember (name : String) (flag : Bool) : List (String × Json) :=
  if flag then [(name, .bool true)] else []

/-- A member that is written only if the list is not empty. -/
def listMember {α : Type} (name : String) (toJson : List α → Json) :
    List α → List (String × Json)
  | [] => []
  | items => [(name, toJson items)]

/-- The document of a column. -/
def toJson (c : Column) : Json :=
  .object (
    [("name", .string c.name), ("kind", .string c.kind.label)] ++
    flagMember "ghost" c.ghost ++
    listMember "values" (fun ws => .object (ws.map fun (n, w) => (n, .integer w.toInt))) c.values ++
    Json.optionalMember "min" Bound.toJson c.min? ++
    Json.optionalMember "max" Bound.toJson c.max? ++
    Json.optionalMember "length" (fun n => .integer n.toInt) c.length? ++
    listMember "filters" Json.ofTexts c.filters ++
    Json.optionalMember "regex" .string c.pattern? ++
    Json.optionalMember "format" .string c.format? ++
    flagMember "use_now" c.useNow ++
    Json.optionalMember "source" CsvSource.toJson c.source? ++
    Json.optionalMember "derivation" Derivation.toJson c.derivation?)

end Column

namespace Schema

/-- A schema. -/
def ofJson? (v : Json) : Option Schema := do
  match ← v.fields? ["model_version", "name", "columns"] with
  | [version, title?, columns] =>
    some {
      version := ← Json.orDefault? Json.string? defaultVersion version
      title? := ← Json.optional? Json.string? title?
      columns := ← Json.required? (Json.listOf? (Column.ofJson? (nestingLimit - 3))) columns }
  | _ => none

/-- The document of a schema. -/
def toJson (s : Schema) : Json :=
  .object (
    [("model_version", .string s.version)] ++
    Json.optionalMember "name" .string s.title? ++
    [("columns", .array (s.columns.map Column.toJson))])

end Schema

end SynthTable
