import SynthTable.Table.Plan
import SynthTable.Text.Quoted

/-!
# Events

What happens while a table is made and generated. An event belongs to a part of the program and has
a level, a message and data; most of the events of a run have a name, too.
-/

namespace SynthTable

/-- How much an event matters. -/
inductive LogLevel where
  | error
  | warn
  | info
  | debug
  deriving DecidableEq, Repr

namespace LogLevel

/-- The word for a level. -/
def label : LogLevel → String
  | .error => "ERROR"
  | .warn => "WARN"
  | .info => "INFO"
  | .debug => "DEBUG"

/-- The rank of a level; the more an event matters, the lower it is. -/
def rank : LogLevel → Nat
  | .error => 1
  | .warn => 2
  | .info => 3
  | .debug => 4

end LogLevel

/-- The parts of the program that log events. -/
inductive LogPart where
  | commands
  | engine
  | dictionaries
  | files
  | patterns
  | texts
  deriving DecidableEq, Repr

/-- Something that happened. -/
inductive Event where
  | runStarted (runId directory schemaPath : String)
  /-- A file was read for the first time. -/
  | fileLoaded (path : String) (records : Nat) (missing : Bool)
  /-- A dictionary without entries; one entry stands in. -/
  | dictionaryEmpty (path : String) (missing : Bool)
  /-- No entry of a dictionary meets the filters; all are kept. -/
  | entriesUnmatched (filters : List String)
  | recordsUnreadable (path reason : String)
  /-- A file without the field that stands for a record. -/
  | mainFieldMissing (path field : String) (missing : Bool)
  /-- No record meets the filters; all are kept. -/
  | recordsUnmatched (filters : List String)
  /-- A group of a pattern is left out. -/
  | groupMalformed (text reason : String)
  | columnDropped (column : DroppedColumn)
  | planReady (title : String) (columns dropped : Nat)
  | generationStarted (report : Report) (batchSize columns : Nat)
  /-- A computed text that is no address. -/
  | addressDoubtful (text : String)
  /-- A cell without a value. -/
  | cellFailed (notice : Notice)
  | batchGenerated (runId : String) (batch rows : Nat)
  | generationCompleted (report : Report)
  /-- A sink stopped the generation. -/
  | generationStopped (runId reason : String)
  | generationCrashed (runId : String)
  | runCompleted (report : Report) (rowsPath : String)
  | runFailed (runId reason : String)

namespace Event

/-- The level of an event. -/
def level : Event → LogLevel
  | .runStarted .. | .planReady .. | .generationStarted .. | .generationCompleted ..
  | .runCompleted .. => .info
  | .fileLoaded .. | .batchGenerated .. => .debug
  | .runFailed .. => .error
  | .dictionaryEmpty .. | .entriesUnmatched .. | .recordsUnreadable .. | .mainFieldMissing ..
  | .recordsUnmatched .. | .groupMalformed .. | .columnDropped .. | .addressDoubtful ..
  | .cellFailed .. | .generationStopped .. | .generationCrashed .. => .warn

/-- The part of the program that an event belongs to. -/
def part : Event → LogPart
  | .runStarted .. | .runCompleted .. | .runFailed .. => .commands
  | .fileLoaded .. => .files
  | .dictionaryEmpty .. | .entriesUnmatched .. | .recordsUnreadable .. | .mainFieldMissing ..
  | .recordsUnmatched .. => .dictionaries
  | .groupMalformed .. => .patterns
  | .addressDoubtful .. => .texts
  | .columnDropped .. | .planReady .. | .generationStarted .. | .cellFailed ..
  | .batchGenerated .. | .generationCompleted .. | .generationStopped ..
  | .generationCrashed .. => .engine

/-- The name of an event. -/
def name? : Event → Option String
  | .runStarted .. => some "run_started"
  | .columnDropped .. => some "column_dropped"
  | .planReady .. => some "model_loaded"
  | .generationStarted .. => some "generation_started"
  | .batchGenerated .. => some "batch_generated"
  | .generationCompleted .. => some "generation_completed"
  | .runCompleted .. => some "run_completed"
  | .runFailed .. => some "run_failed"
  | _ => none

/-- The message of an event. -/
def message : Event → String
  | .runStarted .. => "run started"
  | .fileLoaded .. => "asset loaded"
  | .dictionaryEmpty .. => "dictionary unavailable, using sentinel entry"
  | .entriesUnmatched .. => "dictionary filters matched nothing, using full dictionary"
  | .recordsUnreadable .. => "csv source unreadable, using empty record"
  | .mainFieldMissing .. => "csv main field not found, using empty record"
  | .recordsUnmatched .. => "csv filters matched nothing, using every record"
  | .groupMalformed .. => "malformed regex-lite group"
  | .columnDropped .. => "column dropped"
  | .planReady .. => "model loaded"
  | .generationStarted .. => "generation started"
  | .addressDoubtful .. => "computed ip value is not an IPv4 address"
  | .cellFailed notice => notice.message
  | .batchGenerated .. => "batch generated"
  | .generationCompleted .. => "generation completed"
  | .generationStopped .. => "generation failed"
  | .generationCrashed .. => "generation panicked"
  | .runCompleted .. => "run completed"
  | .runFailed .. => "run failed"

/-- Texts in brackets, each in quotes. -/
def quotedList (texts : List String) : String :=
  "[" ++ ", ".intercalate (texts.map Text.quoted) ++ "]"

/-- The data of an event. -/
def data : Event → List (String × Json)
  | .runStarted runId directory schemaPath =>
    [("run_id", .string runId), ("run_path", .string directory), ("model", .string schemaPath)]
  | .fileLoaded path records missing =>
    [("path", .string path), ("records", .ofNat records), ("missing", .bool missing)]
  | .dictionaryEmpty path missing => [("asset", .string path), ("missing", .bool missing)]
  | .entriesUnmatched filters => [("filters", .string (quotedList filters))]
  | .recordsUnreadable path reason => [("path", .string path), ("error", .string reason)]
  | .mainFieldMissing path field missing =>
    [("path", .string path), ("main_field", .string field), ("missing", .bool missing)]
  | .recordsUnmatched filters => [("filters", .string (quotedList filters))]
  | .groupMalformed text reason => [("group", .string text), ("reason", .string reason)]
  | .columnDropped d =>
    [("column", .string d.column), ("code", .string d.reason.code),
      ("reason", .string d.reason.message)]
  | .planReady title columns dropped =>
    [("name", .string title), ("columns", .ofNat columns), ("dropped", .ofNat dropped)]
  | .generationStarted report batchSize columns =>
    [("run_id", .string report.runId), ("rows", .ofNat report.rowsRequested),
      ("seed", .ofNat report.seed.toNat), ("threads", .ofNat report.threads),
      ("batch_size", .ofNat batchSize), ("columns", .ofNat columns)]
  | .addressDoubtful text => [("value", .string text)]
  | .cellFailed notice =>
    [("code", .string notice.code), ("column", .string (notice.column?.getD "")),
      ("row", .ofNat (notice.row?.getD 0))]
  | .batchGenerated runId batch rows =>
    [("run_id", .string runId), ("batch", .ofNat batch), ("rows", .ofNat rows)]
  | .generationCompleted report =>
    [("run_id", .string report.runId), ("rows_generated", .ofNat report.rowsGenerated),
      ("batches", .ofNat report.batches), ("warnings", .ofNat report.total),
      ("bytes_written", .ofNat report.bytesWritten)]
  | .generationStopped runId reason => [("run_id", .string runId), ("error", .string reason)]
  | .generationCrashed runId => [("run_id", .string runId)]
  | .runCompleted report rowsPath =>
    [("run_id", .string report.runId), ("rows_generated", .ofNat report.rowsGenerated),
      ("warnings", .ofNat report.total), ("rows_path", .string rowsPath)]
  | .runFailed runId reason => [("run_id", .string runId), ("reason", .string reason)]

/-- The names of the fields of an event: its message, its name and its data. Batches and complete
generations also have a duration. -/
def fieldNames (e : Event) : List String :=
  let timed : List String :=
    match e with
    | .batchGenerated .. | .generationCompleted .. => ["duration_ms"]
    | _ => []
  "message" :: (e.name?.map fun _ => "event").toList ++ e.data.map (·.1) ++ timed

/-- An event as a JSON object, with the time of the log and the name of its part there. -/
def toJson (time : String) (target : LogPart → String) (e : Event) : Json :=
  .object [("timestamp", .string time), ("level", .string e.level.label),
    ("fields", .object (("message", .string e.message) ::
      Json.optionalMember "event" .string e.name? ++ e.data)),
    ("target", .string (target e.part))]

end Event

end SynthTable
