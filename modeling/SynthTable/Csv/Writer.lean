import SynthTable.Sink.Device

/-!
# Writing separated records

Fields are divided by commas and records end with line feeds. A field that holds a comma, a quote or
a line end stands between quotes, its own quotes doubled. A record of one empty field, or of none,
is written as two quotes. All records must have as many fields as the first.

Bytes are gathered in a buffer; what does not fit into it any more sends it to the device. A device
that fails leaves the buffer as it is, and the writer in the middle of its record.
-/

namespace SynthTable.Csv

/-- The state of a writer. -/
structure Writer where
  device : CountedDevice
  /-- The bytes gathered, the last first. -/
  buffer : List UInt8
  /-- Their number. -/
  size : Nat
  /-- The number of fields of the record so far. -/
  fields : Nat
  /-- The number of fields of the first record. -/
  expected? : Option Nat
  /-- A field has been begun and not left by a comma or a line end. -/
  inField : Bool
  /-- The field stands between quotes, and the closing one is not written yet. -/
  quoting : Bool
  /-- No byte of the record has been written. -/
  untouched : Bool

/-- Why a record cannot be written. -/
inductive WriteError where
  | deviceFull
  | length (found first : Nat)
  deriving DecidableEq, Repr

/-- The size of the buffer. -/
def bufferSize : Nat := 8192

/-- Steps of a writer that may fail and keep what they have done. -/
abbrev WriteM := ExceptT WriteError (StateM Writer)

namespace Writer

/-- A writer on a device. -/
def onDevice (device : Device) : Writer := ⟨.ofDevice device, [], 0, 0, none, false, false, true⟩

/-- Sends the buffer to the device. -/
def flush : WriteM Unit := do
  let w ← get
  let (fits, device) := w.device.write w.buffer.reverse
  if fits then set { w with device, buffer := [], size := 0 }
  else
    set { w with device }
    throw .deviceFull

/-- Gathers bytes that are not divided between two buffers. -/
def emit (bytes : List UInt8) : WriteM Unit := do
  let w ← get
  if bufferSize < w.size + bytes.length then flush
  modify fun w => { w with
    buffer := bytes.reverse ++ w.buffer
    size := w.size + bytes.length
    untouched := false }

/-- The bytes that ask for quotes: comma, quote and line ends. -/
def asksForQuotes (b : UInt8) : Bool := b == 44 || b == 34 || b == 10 || b == 13

/-- The pieces of a field between quotes: quotes are doubled. -/
def quotedPieces (bytes : List UInt8) : List (List UInt8) :=
  bytes.map fun b => if b = 34 then [34, 34] else [b]

/-- Writes a comma, after the closing quote if one is due. -/
def separate : WriteM Unit := do
  if (← get).quoting then
    emit [34]
    modify fun w => { w with quoting := false }
  emit [44]
  modify fun w => { w with inField := false }

/-- Writes a field. -/
def writeField (bytes : List UInt8) : WriteM Unit := do
  if 0 < (← get).fields then separate
  if !(← get).inField then
    modify fun w => { w with quoting := bytes.any asksForQuotes }
    if (← get).quoting then emit [34]
    modify fun w => { w with inField := true }
  if (← get).quoting then (quotedPieces bytes).forM emit
  else (bytes.map fun b => [b]).forM emit
  modify fun w => { w with fields := w.fields + 1 }

/-- Compares the number of fields with that of the first record. -/
def checkLength : WriteM Unit := do
  let w ← get
  match w.expected? with
  | none => set { w with expected? := some w.fields }
  | some n => if n ≠ w.fields then throw (.length w.fields n)

/-- Writes a line end, after the closing quote if one is due; two quotes for an empty record. -/
def endRecord : WriteM Unit := do
  checkLength
  if (← get).untouched then emit [34, 34]
  if (← get).quoting then
    emit [34]
    modify fun w => { w with quoting := false }
  emit [10]
  modify fun w => { w with untouched := true, inField := false, fields := 0 }

/-- Writes a record. -/
def writeRecord (fields : List (List UInt8)) : WriteM Unit := do
  fields.forM writeField
  endRecord

end Writer

end SynthTable.Csv
