import SynthTable.Assets.Cache
import SynthTable.Log.Event

/-!
# Events of making a plan

The events follow from the schema and the files alone: columns are made ready in order, each reads
the files of its domain, and it is dropped or not. Only the first reading of a file is an event. A
crash leaves the events before it.
-/

namespace SynthTable

/-- Events of columns so far, and the labels of the files read. -/
structure EventTrail where
  events : List Event
  loaded : List String

namespace EventTrail

/-- The trail with some events more. -/
def note (trail : EventTrail) (events : List Event) : EventTrail :=
  { trail with events := trail.events ++ events }

/-- The trail with the reading of a file, if it is the first one. -/
def load (trail : EventTrail) (path : String) (separator : UInt8) (hasHeader : Bool)
    (table : AssetTable) : EventTrail :=
  let label := AssetCache.label path separator hasHeader
  if trail.loaded.contains label then trail
  else
    ⟨trail.events ++ [.fileLoaded path table.records.length table.missing],
      label :: trail.loaded⟩

/-- The trail with the use of a dictionary, whose entries are filtered by country. -/
def consult {α : Type} (trail : EventTrail) (assets : AssetSource) (name : String)
    (readEntry : List String → Option α) (standIn : α) (country : α → String)
    (filters : List String) : EventTrail :=
  match assets.dictionary name with
  | .error _ => trail
  | .ok table =>
    let trail := trail.load (joinPath assets.root name) 59 false table
    let entries := Dictionary.entriesOf readEntry standIn table
    let empty := (table.records.filterMap readEntry).isEmpty
    let unmatched := !filters.isEmpty &&
      !entries.any fun e => filters.any (Dictionary.namesCountry (country e))
    trail.note <|
      (if empty then [.dictionaryEmpty name table.missing] else []) ++
      (if unmatched then [.entriesUnmatched filters] else [])

/-- The trail with the use of the cities. -/
def consultCities (trail : EventTrail) (assets : AssetSource) (filters : List String) :
    EventTrail :=
  trail.consult assets Dictionary.citiesPath Dictionary.city? .standIn City.country filters

/-- The trail with the use of the first names. -/
def consultNames (trail : EventTrail) (assets : AssetSource) (filters : List String) :
    EventTrail :=
  trail.consult assets Dictionary.namesPath Dictionary.personName? .standIn PersonName.country
    filters

/-- The trail with the use of the dialing codes. -/
def consultDialCodes (trail : EventTrail) (assets : AssetSource) (filters : List String) :
    EventTrail :=
  trail.consult assets Dictionary.dialCodesPath Dictionary.dialCode? .standIn DialCode.country
    filters

/-- The trail with the use of a file of a user. -/
def consultRecords (trail : EventTrail) (assets : AssetSource) (path : String)
    (separator : UInt8) (mainField : String) (filters : List String) : EventTrail :=
  let trail :=
    match assets.table path separator with
    | .error e => trail.note [.recordsUnreadable path (DomainError.asset e).message]
    | .ok table =>
      let trail := trail.load path separator true table
      if table.header.contains mainField then trail
      else trail.note [.mainFieldMissing path mainField table.missing]
  let conditions := Dictionary.conditions filters
  let met (r : CsvRecord) : Bool := conditions.all fun (name, value) => r.get? name = some value
  if !conditions.isEmpty && !(Dictionary.records assets path separator mainField).any met then
    trail.note [.recordsUnmatched filters]
  else trail

/-- The trail with what happens while the domain of a column is built. -/
def build (trail : EventTrail) (c : Column) (assets : AssetSource) : EventTrail :=
  match c.kind with
  | .stringRegex =>
    let groups := (c.pattern?.map fun source => (Pattern.read source).malformed).getD []
    trail.note (groups.map fun g => .groupMalformed (String.ofList g.text) g.fault.message)
  | .name | .email => trail.consultNames assets c.filters
  | .city => trail.consultCities assets c.filters
  | .country =>
    if (PickList.ofWeights c.values).isEmpty then trail.consultCities assets c.filters else trail
  | .phone => trail.consultDialCodes assets c.filters
  | .csv =>
    match c.source?.map fun source => (source, Text.stringBytes source.separator) with
    | some (source, [separator]) =>
      trail.consultRecords assets source.path separator source.mainField c.filters
    | _ => trail
  | _ => trail

end EventTrail

namespace Plan

/-- The events of a column after the columns so far. -/
def columnEvents (check : CheckReport) (assets : AssetSource) (progress : Progress)
    (trail : EventTrail) (c : Column) : EventTrail :=
  let reached := (findingFor? check c.name).isNone && (droppedReference? c progress.dropped).isNone
  let trail := if reached then trail.build c assets else trail
  match outcomeOf check assets progress c with
  | .error reason =>
    if reason.crash?.isSome then trail else trail.note [.columnDropped ⟨c.name, reason⟩]
  | .ok _ => trail

/-- The events of the columns of a list, up to a crash. -/
def columnsEvents (check : CheckReport) (assets : AssetSource) :
    List Column → Progress → EventTrail → EventTrail
  | [], _, trail => trail
  | c :: rest, progress, trail =>
    let trail := columnEvents check assets progress trail c
    match crashAt? check assets progress c with
    | some _ => trail
    | none => columnsEvents check assets rest (advance check assets progress c) trail

/-- The events of making the plan of a schema. -/
def makingEvents (schema : Schema) (assets : AssetSource) : List Event :=
  match schema.check with
  | .error _ => []
  | .ok check =>
    (columnsEvents check assets schema.columns ⟨[], [], []⟩ ⟨[], []⟩).events ++
      match build schema assets with
      | .error _ => []
      | .ok p => [.planReady (schema.title?.getD "") p.fields.length p.dropped.length]

end Plan

end SynthTable
