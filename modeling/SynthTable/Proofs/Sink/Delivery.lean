import SynthTable.Sink.Basic
import SynthTable.Sink.Device

/-!
# Delivering rows to a sink

A delivery begins a sink with a layout, gives it rows in batches and ends it. What a sink keeps to
from batch to batch holds for all the rows, however they are cut (`exists_deliver`). On the way to a
device the bytes are counted, and the counter is right (`CountedDevice.count_write`).

A row of a layout that has all its values shows the visible columns of the layout, in their order.
-/

namespace SynthTable

/-! ## Devices -/

/-- A write puts down as many bytes as it tells. -/
theorem Device.length_content_write (d : Device) (bytes : List UInt8) :
    (d.write bytes).2.content.length = d.content.length + (d.write bytes).1 := by
  rw [Device.write]
  cases d.room? <;> simp [Device.content, Nat.add_comm]

namespace CountedDevice

variable {d : CountedDevice}

/-- The counter stays the number of bytes on the device, also when the device is full. -/
theorem count_write (h : d.count = d.content.length) (bytes : List UInt8) :
    (d.write bytes).2.count = (d.write bytes).2.content.length := by
  have hlength := d.device.length_content_write bytes
  show d.count + (d.device.write bytes).1 = (d.device.write bytes).2.content.length
  rw [hlength, h]
  rfl

/-- The device has no limit, and the counter is the number of bytes on it. -/
structure IsOpen (d : CountedDevice) : Prop where
  room : d.device.room? = none
  count_eq : d.count = d.content.length

theorem isOpen_ofDevice : (ofDevice (.empty none)).IsOpen := ⟨rfl, rfl⟩

/-- A device without limit takes all bytes. -/
theorem IsOpen.write_eq (h : d.IsOpen) (bytes : List UInt8) :
    d.write bytes = (true, (d.write bytes).2) := by
  refine Prod.ext ?_ rfl
  rw [write, Device.write, h.room]
  exact decide_eq_true rfl

theorem IsOpen.content_write (h : d.IsOpen) (bytes : List UInt8) :
    (d.write bytes).2.content = d.content ++ bytes := by
  rw [write, Device.write, h.room]
  simp [content, Device.content]

theorem IsOpen.write (h : d.IsOpen) (bytes : List UInt8) : (d.write bytes).2.IsOpen := by
  refine ⟨?_, count_write h.count_eq bytes⟩
  rw [CountedDevice.write, Device.write, h.room]

end CountedDevice

/-! ## Rows -/

namespace Row

variable {row : Row}

/-- The row has a value for every column of the layout. -/
structure Completes (row : Row) (layout : Layout) : Prop where
  layout_eq : row.layout = layout
  complete : row.isComplete = true

/-- A complete row shows the visible columns of its layout. -/
theorem map_fst_visible (h : row.isComplete = true) :
    row.visible.map (·.1) = row.layout.visibleNames := by
  have hlength : row.layout.length ≤ row.values.length := by
    simp only [isComplete, beq_iff_eq] at h
    omega
  have hcolumns : row.cells.map (·.1) = row.layout := List.map_fst_zip hlength
  have hfilter : (row.cells.filter (!·.1.ghost)).map (·.1) = row.layout.filter (!·.ghost) := by
    rw [← hcolumns, List.filter_map]
    rfl
  rw [visible, Layout.visibleNames, ← hfilter, List.map_map, List.map_map]
  rfl

theorem length_visibleValues (h : row.isComplete = true) :
    row.visibleValues.length = row.layout.visibleNames.length := by
  rw [← map_fst_visible h, visibleValues, List.length_map, List.length_map]

end Row

/-! ## Deliveries -/

namespace Sink

variable {ε τ : Type} [Sink ε τ] {layout : Layout}

/-- Gives batches to a sink one after the other. -/
def writeAll : List (List Row) → τ → Except (Stop ε) Unit × τ
  | [], s => (.ok (), s)
  | batch :: rest, s =>
    match write batch s with
    | (.ok (), s) => writeAll rest s
    | (.error stop, s) => (.error stop, s)

/-- Begins a sink with a layout, gives it batches of rows and ends it. -/
def deliver (layout : Layout) (batches : List (List Row)) (s : τ) : Except (Stop ε) Nat × τ :=
  match start layout s with
  | (.error stop, s) => (.error stop, s)
  | (.ok (), s) =>
    match writeAll batches s with
    | (.error stop, s) => (.error stop, s)
    | (.ok (), s) => finish s

/-- What each batch of complete rows keeps holds for all batches. `holds` tells of the rows that a
sink has taken. -/
theorem exists_writeAll {holds : List Row → τ → Prop}
    (hstep : ∀ rows batch s, holds rows s → (∀ row ∈ batch, row.Completes layout) →
      ∃ s', write batch s = (.ok (), s') ∧ holds (rows ++ batch) s')
    {batches : List (List Row)} (hrows : ∀ row ∈ batches.flatten, row.Completes layout)
    {rows : List Row} {s : τ} (h : holds rows s) :
    ∃ s', writeAll batches s = (.ok (), s') ∧ holds (rows ++ batches.flatten) s' := by
  induction batches generalizing rows s with
  | nil => exact ⟨s, rfl, by rwa [List.flatten_nil, List.append_nil]⟩
  | cons batch rest ih =>
    have hbatch : ∀ row ∈ batch, row.Completes layout := fun row hrow =>
      hrows row (List.mem_append_left _ hrow)
    obtain ⟨s₁, hwrite, hheld⟩ := hstep rows batch s h hbatch
    obtain ⟨s', hrest, hall⟩ := ih (fun row hrow => hrows row (List.mem_append_right _ hrow)) hheld
    refine ⟨s', ?_, ?_⟩
    · rw [writeAll, hwrite]
      exact hrest
    · rwa [List.flatten_cons, ← List.append_assoc]

/-- A delivery succeeds if the start and each batch do, and ends with what they keep. -/
theorem exists_deliver {holds : List Row → τ → Prop} {s₀ : τ}
    (hstart : ∃ s, start layout s₀ = (.ok (), s) ∧ holds [] s)
    (hstep : ∀ rows batch s, holds rows s → (∀ row ∈ batch, row.Completes layout) →
      ∃ s', write batch s = (.ok (), s') ∧ holds (rows ++ batch) s')
    {batches : List (List Row)} (hrows : ∀ row ∈ batches.flatten, row.Completes layout) :
    ∃ s, deliver layout batches s₀ = finish s ∧ holds batches.flatten s := by
  obtain ⟨s₁, hbegin, hnone⟩ := hstart
  obtain ⟨s, hbatches, hall⟩ := exists_writeAll hstep hrows hnone
  refine ⟨s, ?_, hall⟩
  rw [deliver, hbegin]
  dsimp only
  rw [hbatches]

end Sink

end SynthTable
