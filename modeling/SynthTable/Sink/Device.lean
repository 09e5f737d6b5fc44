/-!
# Devices

A device takes bytes and may be full after some of them. A write that does not fit puts down what
fits and fails. What a sink writes is counted on its way to the device.
-/

namespace SynthTable

/-- The bytes taken, the last first, and how many more fit if there is a limit. -/
structure Device where
  taken : List UInt8
  room? : Option Nat
  deriving DecidableEq, Repr

namespace Device

/-- A device with nothing on it. -/
def empty (room? : Option Nat) : Device := ⟨[], room?⟩

/-- The bytes taken in order. -/
def content (d : Device) : List UInt8 := d.taken.reverse

/-- Puts bytes down as far as they fit, and tells how many do. -/
def write (d : Device) (bytes : List UInt8) : Nat × Device :=
  match d.room? with
  | none => (bytes.length, ⟨bytes.reverse ++ d.taken, none⟩)
  | some room =>
    let fitting := bytes.take room
    (fitting.length, ⟨fitting.reverse ++ d.taken, some (room - fitting.length)⟩)

end Device

/-- A device with a counter of the bytes put down. Its 64 bits are more than any device holds. -/
structure CountedDevice where
  device : Device
  count : Nat
  deriving DecidableEq, Repr

namespace CountedDevice

/-- A device whose counter is at its start. -/
def ofDevice (device : Device) : CountedDevice := ⟨device, 0⟩

/-- The bytes on the device in order. -/
def content (d : CountedDevice) : List UInt8 := d.device.content

/-- Puts bytes down and counts them; tells whether all of them fit. -/
def write (d : CountedDevice) (bytes : List UInt8) : Bool × CountedDevice :=
  let (size, device) := d.device.write bytes
  (size = bytes.length, ⟨device, d.count + size⟩)

end CountedDevice

end SynthTable
