import SynthTable.Json.Basic
import SynthTable.Order.Sorted

/-!
# Notices and reports

Notices are collected while a table is made ready and while rows are generated. A report counts them
by their codes and keeps the first ones.
-/

namespace SynthTable

/-- A warning about a column or about a cell. -/
structure Notice where
  code : String
  message : String
  column? : Option String
  row? : Option Nat
  deriving DecidableEq, Repr

/-- A notice as a JSON object. -/
def Notice.toJson (n : Notice) : Json :=
  .object (
    [("level", .string "warning"), ("code", .string n.code), ("message", .string n.message)] ++
    Json.optionalMember "column" .string n.column? ++
    Json.optionalMember "row" .ofNat n.row?)

/-- What a run did. -/
structure Report where
  runId : String
  seed : UInt64
  rowsRequested : Nat
  rowsGenerated : Nat
  batches : Nat
  threads : Nat
  bytesWritten : Nat
  droppedColumns : List String
  buildWarnings : List Notice
  /-- The numbers of notices by their codes. -/
  counts : NameMap Nat
  /-- The first notices. -/
  recorded : List Notice
  /-- The number of notices after them. -/
  suppressed : Nat
  failure? : Option String
  /-- The number of notices to keep. -/
  limit : Nat

namespace Report

/-- A report on nothing yet. -/
def empty (runId : String) (seed : UInt64) (limit : Nat) : Report :=
  ⟨runId, seed, 0, 0, 0, 0, 0, [], [], [], [], 0, none, limit⟩

/-- The counts with one more of a code. -/
def increase (code : String) (counts : NameMap Nat) : NameMap Nat :=
  counts.update code fun n => n.getD 0 + 1

/-- The report with one notice more, kept while there are fewer than the limit. -/
def record (r : Report) (n : Notice) : Report :=
  let r := { r with counts := increase n.code r.counts }
  if r.recorded.length < r.limit then { r with recorded := r.recorded ++ [n] }
  else { r with suppressed := r.suppressed + 1 }

/-- The report with some notices more. -/
def recordAll (r : Report) (notices : List Notice) : Report := notices.foldl record r

/-- The report of a run that ended by a failure. -/
def fail (r : Report) (message : String) : Report :=
  { r with counts := increase "generation_failed" r.counts, failure? := some message }

/-- The number of all notices. -/
def total (r : Report) : Nat := r.counts.foldr (fun entry count => entry.2 + count) 0

/-- A report as a JSON object, without the time that the run took. -/
def toJson (r : Report) : Json :=
  .object (
    [("run_id", .string r.runId), ("seed", .ofNat r.seed.toNat),
      ("rows_requested", .ofNat r.rowsRequested), ("rows_generated", .ofNat r.rowsGenerated),
      ("batches", .ofNat r.batches), ("threads", .ofNat r.threads),
      ("bytes_written", .ofNat r.bytesWritten),
      ("dropped_columns", .ofTexts r.droppedColumns),
      ("build_warnings", .array (r.buildWarnings.map Notice.toJson)),
      ("warnings_by_code", .object (r.counts.map fun (code, n) => (code, .ofNat n))),
      ("warnings", .array (r.recorded.map Notice.toJson)),
      ("suppressed_warnings", .ofNat r.suppressed)] ++
    Json.optionalMember "failure" .string r.failure?)

end Report

end SynthTable
