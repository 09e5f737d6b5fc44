import SynthTable.Csv.Writer
import SynthTable.Sink.Basic
import SynthTable.Text.Utf8

/-!
# Separated rows

The names of the visible columns are written as the first record and the texts of the visible values
of each row as a further one.
-/

namespace SynthTable

/-- The writer that the records go to. -/
structure CsvRows where
  writer : Csv.Writer

namespace CsvRows

/-- A sink on a device. -/
def onDevice (device : Device) : CsvRows := ⟨.onDevice device⟩

/-- An error of the writer as a stop of the run. -/
def stopOf : Csv.WriteError → Stop SinkError
  | .deviceFull => .sink .recordDeviceFull
  | .length found first => .sink (.recordLength found first)

/-- Writes a record of texts. -/
def writeTexts (texts : List String) (s : CsvRows) : Except (Stop SinkError) Unit × CsvRows :=
  match (Csv.Writer.writeRecord (texts.map Text.stringBytes)).run s.writer with
  | (.ok (), writer) => (.ok (), ⟨writer⟩)
  | (.error e, writer) => (.error (stopOf e), ⟨writer⟩)

/-- The record of a row. -/
def recordOf (row : Row) : List String := row.visibleValues.map Value.toText

/-- Writes the records of rows. -/
def writeRows : List Row → CsvRows → Except (Stop SinkError) Unit × CsvRows
  | [], s => (.ok (), s)
  | row :: rest, s =>
    match writeTexts (recordOf row) s with
    | (.ok (), s) => writeRows rest s
    | (.error stop, s) => (.error stop, s)

/-- Sends what is gathered to the device. -/
def flush (s : CsvRows) : Except SinkError Nat × CsvRows :=
  match Csv.Writer.flush.run s.writer with
  | (.ok (), writer) => (.ok writer.device.count, ⟨writer⟩)
  | (.error _, writer) => (.error .deviceFull, ⟨writer⟩)

/-- Closes the sink; what is gathered goes to the device. -/
def close (s : CsvRows) : Option SinkError × CsvRows :=
  match s.flush with
  | (.ok _, s) => (none, s)
  | (.error _, s) => (some .closing, s)

instance : Sink SinkError CsvRows where
  message := SinkError.message
  start := fun layout s => writeTexts layout.visibleNames s
  write := writeRows
  finish := fun s =>
    match s.flush with
    | (.ok n, s) => (.ok n, s)
    | (.error e, s) => (.error (.sink e), s)

end CsvRows

end SynthTable
