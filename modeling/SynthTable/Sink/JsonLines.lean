import SynthTable.Sink.Basic
import SynthTable.Sink.Device
import SynthTable.Text.Utf8

/-!
# JSON lines

Each row is written as one JSON object on a line of its own, without the ghosts.
-/

namespace SynthTable

/-- The device that the lines go to. -/
structure JsonLines where
  device : CountedDevice

namespace JsonLines

/-- A sink on a device. -/
def onDevice (device : Device) : JsonLines := ⟨.ofDevice device⟩

/-- The bytes of the document of a row. -/
def documentBytes (row : Row) : List UInt8 := Text.encodeUtf8 (Json.write row.toJson)

/-- Writes rows, each with a line end. -/
def writeRows : List Row → CountedDevice → Except (Stop SinkError) Unit × CountedDevice
  | [], device => (.ok (), device)
  | row :: rest, device =>
    match device.write (documentBytes row) with
    | (false, device) => (.error (.sink .documentDeviceFull), device)
    | (true, device) =>
      match device.write [10] with
      | (false, device) => (.error (.sink .deviceFull), device)
      | (true, device) => writeRows rest device

instance : Sink SinkError JsonLines where
  message := SinkError.message
  start := fun _ s => (.ok (), s)
  write := fun rows s =>
    let (result, device) := writeRows rows s.device
    (result, ⟨device⟩)
  finish := fun s => (.ok s.device.count, s)

end JsonLines

end SynthTable
