import SynthTable.Log.Event
import SynthTable.Table.Generate

/-!
# Events of rows

Cells without a value and computed texts that are no addresses are events. They follow from the rows
of a batch; if the generation of a row crashes, from the rows before it and from the part of it that
was filled.
-/

namespace SynthTable

/-- The events of a value of a field: a computed text that is no address where one is due. -/
def Field.valueEvents (f : Field) (v : Value) : List Event :=
  match f.content, v with
  | .declared _ (.ip _) (some _), .text text =>
    if Domain.isAddress (Text.trim text.toList) then [] else [.addressDoubtful text]
  | _, _ => []

/-- The events of the values of a row. -/
def Plan.rowEvents (p : Plan) (row : Row) : List Event :=
  (p.fields.zip row.values).flatMap fun (f, v) => f.valueEvents v

namespace Batch

/-- The events of a batch: those of its rows, then one for every notice. -/
def events (p : Plan) (b : Batch) : List Event :=
  b.rows.flatMap p.rowEvents ++ b.notices.map .cellFailed

/-- The part of a row that is filled with the first `count` fields, or fewer if their generation
crashes. -/
def filledPart (p : Plan) (seed : UInt64) (index : Nat) (shared : Shared) : (count : Nat) → Row
  | 0 => .empty []
  | count + 1 =>
    match generateOne { p with fields := p.fields.take (count + 1) } seed index shared with
    | (.ok result, _) => result.row
    | (.error _, _) => filledPart p seed index shared count

/-- The events of the rows before a crash, and of the filled part of the row that crashes. -/
def crashEvents (p : Plan) (seed : UInt64) : (start count : Nat) → Shared → List Event
  | _, 0, _ => []
  | start, count + 1, shared =>
    match generateOne p seed start shared with
    | (.ok result, later) => p.rowEvents result.row ++ crashEvents p seed (start + 1) count later
    | (.error _, _) => p.rowEvents (filledPart p seed start shared p.fields.length)

end Batch

end SynthTable
