import SynthTable.Random.ChaCha
import SynthTable.Table.Plan

/-!
# Generating rows

A row is generated field by field. A field that fails leaves its cell empty and gives an error. Each
row of a run has a source of its own, whose seed is made of the seed of the run and the index of the
row; counters and the clock go on from row to row.
-/

namespace SynthTable

/-- A row and the errors of its cells, in the order of the columns. -/
structure RowResult where
  row : Row
  errors : List (String × CellError)

namespace Plan

/-- Generates the fields of a list after those filled in `result`. -/
def fill {σ : Type} [RandomSource σ] :
    List Field → RowResult → World σ → Except Crash RowResult × World σ
  | [], result, w => (.ok result, w)
  | f :: rest, result, w =>
    match f.valueFor result.row w with
    | (.error crash, w) => (.error crash, w)
    | (.ok (.ok v), w) => fill rest ⟨result.row.push v, result.errors⟩ w
    | (.ok (.error e), w) =>
      fill rest ⟨result.row.push .null, result.errors ++ [(f.name, e)]⟩ w

/-- Generates a row. -/
def generateRow {σ : Type} [RandomSource σ] (p : Plan) (w : World σ) :
    Except Crash RowResult × World σ :=
  fill p.fields ⟨.empty p.layout, []⟩ w

end Plan

/-- The seed of the row at an index. -/
def rowSeed (seed index : UInt64) : UInt64 :=
  ((seed ^^^ 0xcbf29ce484222325) ^^^ (index * 0x9e3779b97f4a7c15)) * 0x100000001b3

/-- Rows in the order of their indices, with the notices about their cells. -/
structure Batch where
  rows : List Row
  notices : List Notice

namespace Batch

/-- The number of rows for each worker: the rows are divided evenly, and what is left over goes to
the first one. -/
def shares (threads count : Nat) : List Nat :=
  if count = 0 then []
  else
    let workers := min (max threads 1) count
    (count / workers + count % workers) :: List.replicate (workers - 1) (count / workers)

/-- The notice about a cell. -/
def noticeOf (index : Nat) (failure : String × CellError) : Notice :=
  ⟨failure.2.code, failure.2.message, some failure.1, some index⟩

/-- Generates a row of a run. -/
def generateOne (p : Plan) (seed : UInt64) (index : Nat) (shared : Shared) :
    Except Crash RowResult × Shared :=
  let (result, w) := p.generateRow (World.mk (Random.Stream.ofSeed (rowSeed seed (.ofNat index)))
    shared)
  (result, w.shared)

/-- Generates `count` rows from an index on, as one worker does. -/
def generateShare (p : Plan) (seed : UInt64) :
    (start count : Nat) → Shared → Except Crash Batch × Shared
  | _, 0, shared => (.ok ⟨[], []⟩, shared)
  | start, count + 1, shared =>
    match generateOne p seed start shared with
    | (.error crash, shared) => (.error crash, shared)
    | (.ok result, shared) =>
      match generateShare p seed (start + 1) count shared with
      | (.error crash, shared) => (.error crash, shared)
      | (.ok batch, shared) =>
        let notices := result.errors.map (noticeOf start) ++ batch.notices
        (.ok ⟨result.row :: batch.rows, notices⟩, shared)

/-- The first index and the number of rows of each worker. -/
def spans : (start : Nat) → List Nat → List (Nat × Nat)
  | _, [] => []
  | start, count :: rest => (start, count) :: spans (start + count) rest

/-- Generates the shares of workers, one after another. -/
def generateSpans (p : Plan) (seed : UInt64) :
    List (Nat × Nat) → Shared → Except Crash Batch × Shared
  | [], shared => (.ok ⟨[], []⟩, shared)
  | (start, count) :: rest, shared =>
    match generateShare p seed start count shared with
    | (.error crash, shared) => (.error crash, shared)
    | (.ok batch, shared) =>
      match generateSpans p seed rest shared with
      | (.error crash, shared) => (.error crash, shared)
      | (.ok later, shared) =>
        (.ok ⟨batch.rows ++ later.rows, batch.notices ++ later.notices⟩, shared)

/-- Generates `count` rows from an index on, shared among workers. -/
def generate (p : Plan) (threads : Nat) (seed : UInt64) (start count : Nat) (shared : Shared) :
    Except Crash Batch × Shared :=
  generateSpans p seed (spans start (shares threads count)) shared

end Batch

end SynthTable
