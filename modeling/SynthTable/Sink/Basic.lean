import SynthTable.Domain.World
import SynthTable.Row.Basic

/-!
# Sinks

A sink takes the rows of a run: it begins with the layout, takes the rows batch by batch, and
finishes with the number of bytes written. Each step may fail, with an error of the sink's own type.
-/

namespace SynthTable

/-- Why a sink for files fails. -/
inductive SinkError where
  /-- The device takes no more bytes at the end of a run. -/
  | deviceFull
  /-- The device takes no more bytes inside a separated record. -/
  | recordDeviceFull
  /-- A separated record has another number of fields than the first one. -/
  | recordLength (found first : Nat)
  /-- The device takes no more bytes inside a document. -/
  | documentDeviceFull
  /-- The device takes no more bytes when the sink is closed. -/
  | closing
  deriving DecidableEq, Repr

/-- The text of an error. -/
def SinkError.message : SinkError → String
  | .deviceFull => "io error: disk full"
  | .recordDeviceFull => "csv error: disk full"
  | .recordLength found first =>
    "csv error: CSV error: found record with " ++ toString found ++
      " fields, but the previous record has " ++ toString first ++ " fields"
  | .documentDeviceFull => "json error: disk full"
  | .closing => "sink error: disk full"

/-- How a run is stopped by its sink or by a row. -/
inductive Stop (ε : Type) where
  | sink (error : ε)
  | crash (crash : Crash)
  deriving DecidableEq, Repr

/-- The steps of a sink with states `τ`, which fail with errors `ε`. -/
class Sink (ε : outParam Type) (τ : Type) where
  /-- The text of an error. -/
  message : ε → String
  /-- Begins with the layout of the rows. -/
  start : Layout → τ → Except (Stop ε) Unit × τ
  /-- Takes some rows. -/
  write : List Row → τ → Except (Stop ε) Unit × τ
  /-- Ends, with the number of bytes written. -/
  finish : τ → Except (Stop ε) Nat × τ

/-- A sink that keeps the rows. -/
structure Collector where
  columns : List String
  rows : List Row

/-- A collector without rows. -/
def Collector.empty : Collector := ⟨[], []⟩

instance : Sink SinkError Collector where
  message := SinkError.message
  start := fun layout s => (.ok (), { s with columns := layout.visibleNames })
  write := fun rows s => (.ok (), { s with rows := s.rows ++ rows })
  finish := fun s => (.ok 0, s)

end SynthTable
