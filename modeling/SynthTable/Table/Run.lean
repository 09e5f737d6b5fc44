import SynthTable.Log.RowEvents
import SynthTable.Sink.Basic

/-!
# Runs

A run generates rows batch by batch and gives each batch to a sink. It ends with a report, with an
error of the sink, or with a crash and the report on what was done before. On the way it keeps a
journal of events.
-/

namespace SynthTable

/-- What a run is asked for. -/
structure RunRequest where
  runId : String
  rows : Nat
  seed : UInt64
  threads : Nat
  batchSize : Nat
  /-- The number of notices to keep in the report. -/
  noticeLimit : Nat

/-- Why a run ends without success. -/
inductive RunError (ε : Type) where
  | sink (error : ε)
  /-- The run crashed; the report says how far it came. -/
  | failed (report : Report)

namespace Run

/-- The report so far, what all rows share, the sink, and the events with the last one first. -/
structure Progress (τ : Type) where
  report : Report
  shared : Shared
  sink : τ
  journal : List Event

/-- The progress with some events more. -/
def Progress.note {τ : Type} (progress : Progress τ) (events : List Event) : Progress τ :=
  { progress with journal := events.reverse ++ progress.journal }

/-- The number of rows of a batch. -/
def batchSize (request : RunRequest) : Nat := max request.batchSize 1

/-- The report on a run that has not begun. -/
def firstReport (p : Plan) (request : RunRequest) : Report :=
  { Report.empty request.runId request.seed request.noticeLimit with
    rowsRequested := request.rows
    threads := max request.threads 1
    droppedColumns := p.dropped.map (·.column)
    buildWarnings := p.notices }

variable {ε τ : Type} [Sink ε τ]

/-- Generates one batch from an index on and gives it to the sink. -/
def oneBatch (p : Plan) (request : RunRequest) (start count : Nat) (progress : Progress τ) :
    Except (Stop ε) Unit × Progress τ :=
  match Batch.generate p request.threads request.seed start count progress.shared with
  | (.error crash, shared) =>
    let progress := progress.note (Batch.crashEvents p request.seed start count progress.shared)
    (.error (.crash crash), { progress with shared })
  | (.ok batch, shared) =>
    let report := progress.report.recordAll batch.notices
    let progress := progress.note (batch.events p)
    match Sink.write batch.rows progress.sink with
    | (.error stop, sink) => (.error stop, { progress with report, shared, sink })
    | (.ok (), sink) =>
      let report := { report with
        rowsGenerated := start + batch.rows.length
        batches := report.batches + 1 }
      let progress := progress.note
        [.batchGenerated request.runId report.batches batch.rows.length]
      (.ok (), { progress with report, shared, sink })

/-- Generates `left` rows from an index on, batch by batch. -/
def batches (p : Plan) (request : RunRequest) (start left : Nat) (progress : Progress τ) :
    Except (Stop ε) Unit × Progress τ :=
  if h : left = 0 then (.ok (), progress)
  else
    let count := min left (batchSize request)
    match oneBatch p request start count progress with
    | (.error stop, progress) => (.error stop, progress)
    | (.ok (), progress) =>
      have : 0 < batchSize request := by unfold batchSize; omega
      batches p request (start + count) (left - count) progress
termination_by left
decreasing_by omega

/-- All steps of the sink: the start, the batches and the end. -/
def steps (p : Plan) (request : RunRequest) (progress : Progress τ) :
    Except (Stop ε) Nat × Progress τ :=
  match Sink.start p.layout progress.sink with
  | (.error stop, sink) => (.error stop, { progress with sink })
  | (.ok (), sink) =>
    match batches p request 0 request.rows { progress with sink } with
    | (.error stop, progress) => (.error stop, progress)
    | (.ok (), progress) =>
      let (result, sink) := Sink.finish progress.sink
      (result, { progress with sink })

/-- How a run ends: with a report or an error, the last event, and the sink. -/
def conclude (request : RunRequest) :
    Except (Stop ε) Nat × Progress τ → Except (RunError ε) Report × Event × Progress τ
  | (.ok bytes, progress) =>
    let report := { progress.report with bytesWritten := bytes }
    (.ok report, .generationCompleted report, progress)
  | (.error (.sink e), progress) =>
    (.error (.sink e), .generationStopped request.runId (Sink.message τ e), progress)
  | (.error (.crash c), progress) =>
    (.error (.failed (progress.report.fail c.message)), .generationCrashed request.runId, progress)

/-- Runs a plan from the first report on. -/
def outcome (p : Plan) (request : RunRequest) (shared : Shared) (sink : τ) :
    Except (RunError ε) Report × Event × Progress τ :=
  let report := firstReport p request
  let started : Event := .generationStarted report (batchSize request) p.fields.length
  conclude request (steps p request ⟨report, shared, sink, [started]⟩)

end Run

namespace Plan

variable {ε τ : Type} [Sink ε τ]

/-- Runs a plan into a sink. -/
def run (p : Plan) (request : RunRequest) (shared : Shared) (sink : τ) :
    Except (RunError ε) Report × τ :=
  let (result, _, progress) := Run.outcome p request shared sink
  (result, progress.sink)

/-- Runs a plan into a sink and gives the events, too. -/
def runWithEvents (p : Plan) (request : RunRequest) (shared : Shared) (sink : τ) :
    Except (RunError ε) Report × List Event × τ :=
  let (result, last, progress) := Run.outcome p request shared sink
  (result, (last :: progress.journal).reverse, progress.sink)

end Plan

end SynthTable
