import SynthTable.Command.Arguments
import SynthTable.Command.Basic
import SynthTable.Sink.CsvRows
import SynthTable.Sink.JsonLines
import SynthTable.Table.Run

/-!
# The command `generate`

Generates rows into a new directory of a run. The directory gets a copy of the schema, the options
of the run and a log at the start, and the rows and a report at the end; what is there when the
command fails stays.
-/

namespace SynthTable

/-- What a run takes from its surroundings. -/
structure Occasion where
  runId : String
  startedAt : DateTime
  /-- The seed if none is set. -/
  seed : UInt64
  processors : Nat
  clock : Clock

namespace Occasion

/-- The name of the directory of the run. -/
def directoryName (o : Occasion) : String :=
  let time := o.startedAt.toText.toList.map fun c => if c = ':' then '-' else c
  String.ofList time ++ "Z__run_" ++ o.runId

/-- The time of the start in documents. -/
def startText (o : Occasion) : String := o.startedAt.toPreciseText ++ "+00:00"

end Occasion

/-- Where the files of a run lie. -/
structure RunPaths where
  directory : String
  /-- The file of the rows, inside the directory or elsewhere. -/
  rows : String
  deriving DecidableEq, Repr

namespace RunPaths

/-- The paths of a run. -/
def of (request : GenerateRequest) (occasion : Occasion) : RunPaths :=
  let directory := joinPath request.runsDirectory occasion.directoryName
  ⟨directory, request.out?.getD (joinPath directory ("rows." ++ request.format.label))⟩

/-- The path of a file in the directory. -/
def inside (paths : RunPaths) (name : String) : String := joinPath paths.directory name

/-- The copy of the schema. -/
def schema (paths : RunPaths) : String := paths.inside "model.json"

/-- The options of the run. -/
def config (paths : RunPaths) : String := paths.inside "config.json"

/-- The log. -/
def log (paths : RunPaths) : String := paths.inside "logs.ndjson"

/-- The report. -/
def report (paths : RunPaths) : String := paths.inside "generation_report.json"

end RunPaths

namespace GenerateRequest

/-- What overrides the settings. -/
def overrides (request : GenerateRequest) : Overrides :=
  { threads? := request.threads?
    batchSize? := request.batchSize?
    seed? := request.seed?
    dictionaries? := request.dictionaries? }

/-- The configuration of a run as it is kept in its directory. -/
def configuration (request : GenerateRequest) (occasion : Occasion) (schema : Schema)
    (options : Options) : Json :=
  .object [("run_id", .string occasion.runId), ("started_at", .string occasion.startText),
    ("model_path", .string request.schemaPath), ("model_version", .string schema.version),
    ("rows", .ofNat request.rows), ("format", .string request.format.label),
    ("options", options.toJson (.ofNat occasion.processors))]

/-- The request to the generator. -/
def runRequest (request : GenerateRequest) (occasion : Occasion) (options : Options) :
    RunRequest :=
  { runId := occasion.runId
    rows := request.rows
    seed := (options.seed?.map UInt64.ofNat).getD occasion.seed
    threads := options.threads?.getD occasion.processors
    batchSize := options.batchSize
    noticeLimit := options.noticeLimit }

/-- Generates the rows: the report or why there is none, the events and the bytes of the rows. -/
def rowsOf (request : GenerateRequest) (p : Plan) (runRequest : RunRequest) (clock : Clock) :
    Except (RunError SinkError) Report × List Event × List UInt8 :=
  let shared : Shared := ⟨[], clock⟩
  match request.format with
  | .csv =>
    let (result, events, sink) := p.runWithEvents runRequest shared (CsvRows.onDevice (.empty none))
    (result, events, sink.close.2.writer.device.content)
  | .jsonl =>
    let (result, events, sink) :=
      p.runWithEvents runRequest shared (JsonLines.onDevice (.empty none))
    (result, events, sink.device.content)

/-- The bytes of a document in a file. -/
def documentBytes (v : Json) : List UInt8 := Text.encodeUtf8 (Json.writeLines 0 v)

variable {m : Type → Type} [Monad m] [Machine m]

/-- Makes the directory of a run with the copy of the schema, the configuration and an empty log;
tells whether it could be made. -/
def startRun (paths : RunPaths) (schema : Schema) (configuration : Json) : m Bool := do
  let made ← Machine.makeDirectories paths.directory
  let faults := [
    ← Machine.write paths.schema (documentBytes schema.toJson),
    ← Machine.write paths.config (documentBytes configuration),
    ← Machine.write paths.log []]
  return made && faults.all (·.isNone)

/-- Makes the file for the rows and the directory that holds it. -/
def openRows (path : String) : m (Option CommandError) := do
  let parent := parentPath path
  if parent ≠ "" then
    if !(← Machine.makeDirectories parent) then return some (.rowsDirectory parent)
  return (← Machine.write path []).map .rowsFile

/-- Writes the report of a run that took some milliseconds. -/
def writeReport (paths : RunPaths) (report : Report) (milliseconds : Nat) : m Unit := do
  let document := report.toJson.withMember "duration_ms" (.ofNat milliseconds)
  let _ ← Machine.write paths.report (documentBytes document)

/-- Generates the rows of a plan into their file: the end of the command and the events. -/
def generateInto (request : GenerateRequest) (paths : RunPaths) (runRequest : RunRequest)
    (clock : Clock) (p : Plan) : m (Option CommandError × List Event) := do
  if let some error ← openRows paths.rows then return (some error, [])
  let start ← Machine.milliseconds
  let (result, events, content) := request.rowsOf p runRequest clock
  let _ ← Machine.write paths.rows content
  let duration := (← Machine.milliseconds) - start
  match result with
  | .ok report =>
    writeReport paths report duration
    return (none, events ++ [.runCompleted report paths.rows])
  | .error (.failed report) =>
    writeReport paths report duration
    let reason := report.failure?.getD "unknown failure"
    return (some (.failed reason), events ++ [.runFailed runRequest.runId reason])
  | .error (.sink e) => return (some (.sink e), events)

/-- Makes the plan of a schema and generates its rows: the end of the command, unless the making of
the plan crashes, and the events. -/
def planAndGenerate (request : GenerateRequest) (paths : RunPaths) (occasion : Occasion)
    (schema : Schema) (options : Options) :
    m (Except Crash (Option CommandError) × List Event) := do
  let assets ← AssetSource.ofSchema schema options.dictionaries?
  let making := Plan.makingEvents schema assets
  match Plan.build schema assets with
  | .error (.names fault) => return (.ok (some (.names fault)), making)
  | .error (.crash crash) => return (.error crash, making)
  | .ok p =>
    let (error?, events) ←
      request.generateInto paths (request.runRequest occasion options) occasion.clock p
    return (.ok error?, making ++ events)

/-- The lines of a log. -/
def logBytes (program : Program) (occasion : Occasion) (events : List Event) : List UInt8 :=
  events.flatMap fun e =>
    Text.encodeUtf8 (Json.write (e.toJson (occasion.startedAt.toPreciseText ++ "Z") program.target))
      ++ [10]

/-- Runs the command after its settings and its schema were read. -/
def runWith (request : GenerateRequest) (program : Program) (occasion : Occasion)
    (settings : Settings) (schema : Schema) : m Completion := do
  let options := settings.options request.overrides
  let paths := RunPaths.of request occasion
  if !(← startRun paths schema (request.configuration occasion schema options)) then
    return .failure (.runDirectory paths.directory) "" []
  match LogFilter.ofText settings.log.level with
  | .error .malformed => return .failure (.logLevel settings.log.level) "" []
  | .error .insideCharacter => return .crashed []
  | .ok filter =>
    let (ending, events) ← request.planAndGenerate paths occasion schema options
    let started : Event := .runStarted occasion.runId paths.directory request.schemaPath
    let shown := (started :: events).filter (filter.keeps program.target)
    if settings.log.toFile then
      let _ ← Machine.write paths.log (logBytes program occasion shown)
    match ending with
    | .error _ => return .crashed shown
    | .ok none => return .success (paths.directory ++ "\n") shown
    | .ok (some error) => return .failure error "" shown

/-- Runs the command. -/
def run (request : GenerateRequest) (program : Program) (occasion : Occasion) : m Completion := do
  let settingsPath := request.settings?.getD program.settingsFile
  match Settings.ofFile settingsPath request.settings?.isSome (← Machine.read settingsPath) with
  | .error e => return .failure (.settings e) "" []
  | .ok settings =>
    match Schema.ofFile (← Machine.read request.schemaPath) with
    | .error e => return .failure e "" []
    | .ok schema => request.runWith program occasion settings schema

end GenerateRequest

end SynthTable
