import SynthTable.Proofs.Csv.Plain
import SynthTable.Proofs.Sink.Delivery

/-!
# The writer puts records down in their written form

What a writer has put down is the content of its device and after it what it has gathered
(`output`). A step on a device without limit succeeds and only adds to the output. Between two
records nothing is open (`IsIdle`), and after each field of a record the output, with the quote that
is still due, has grown by the written form of the fields (`HasWritten`). So a record adds its line
(`exists_writeRecord`).
-/

namespace SynthTable.Csv.Writer

variable {w w' : Writer} {bytes base : List UInt8} {record : List (List UInt8)}

/-! ## Steps that succeed -/

/-- A step succeeds and leads from one state of the writer to another. -/
def Leads (m : WriteM Unit) (w w' : Writer) : Prop := m.run w = (.ok (), w')

theorem Leads.bind {m : WriteM Unit} {f : Unit → WriteM Unit} {w₁ w₂ w₃ : Writer}
    (h : Leads m w₁ w₂) (h' : Leads (f ()) w₂ w₃) : Leads (m >>= f) w₁ w₃ := by
  have hbind : (m >>= f).run w₁ =
      match m.run w₁ with
      | (.ok a, w) => (f a).run w
      | (.error e, w) => (.error e, w) := by
    show (ExceptT.run m >>= ExceptT.bindCont f) w₁ = _
    show ExceptT.bindCont f (m.run w₁).1 (m.run w₁).2 = _
    rcases m.run w₁ with ⟨_ | _, w⟩ <;> rfl
  unfold Leads
  rw [hbind, h]
  exact h'

theorem leads_get {f : Writer → WriteM Unit} (h : Leads (f w) w w') : Leads (get >>= f) w w' := h

theorem leads_modify (f : Writer → Writer) : Leads (modify f) w (f w) := rfl

theorem leads_set (w' : Writer) : Leads (set w') w w' := rfl

/-! ## The output -/

/-- All bytes that have been put down: on the device, or gathered for it. -/
def output (w : Writer) : List UInt8 := w.device.content ++ w.buffer.reverse

/-- The writer after its buffer has gone to the device. -/
def sent (w : Writer) : Writer :=
  { w with device := (w.device.write w.buffer.reverse).2, buffer := [], size := 0 }

/-- The writer after bytes have been gathered. -/
def gathered (bytes : List UInt8) (w : Writer) : Writer :=
  { w with buffer := bytes.reverse ++ w.buffer, size := w.size + bytes.length, untouched := false }

/-- The writer after bytes that are not divided between two buffers. -/
def put (bytes : List UInt8) (w : Writer) : Writer :=
  gathered bytes (if bufferSize < w.size + bytes.length then w.sent else w)

theorem leads_flush (h : w.device.IsOpen) : Leads flush w w.sent := by
  unfold flush
  apply leads_get
  rw [sent, h.write_eq]
  exact leads_set _

theorem output_sent (h : w.device.IsOpen) : w.sent.output = w.output := by
  simp [output, sent, h.content_write]

theorem isOpen_sent (h : w.device.IsOpen) : w.sent.device.IsOpen := h.write _

theorem leads_emit (h : w.device.IsOpen) (bytes : List UInt8) :
    Leads (emit bytes) w (w.put bytes) := by
  unfold emit
  apply leads_get
  dsimp only
  by_cases hfull : bufferSize < w.size + bytes.length
  · rw [if_pos hfull, put, if_pos hfull]
    exact (leads_flush h).bind (leads_modify _)
  · rw [if_neg hfull, put, if_neg hfull]
    exact leads_modify _

theorem output_put (h : w.device.IsOpen) (bytes : List UInt8) :
    (w.put bytes).output = w.output ++ bytes := by
  have hgathered : ∀ w : Writer, (w.gathered bytes).output = w.output ++ bytes := by
    intro w
    simp [output, gathered]
  rw [put, hgathered]
  by_cases hfull : bufferSize < w.size + bytes.length
  · rw [if_pos hfull, output_sent h]
  · rw [if_neg hfull]

/-- The writer `w'` has put down some bytes more than `w` and is the same otherwise. -/
structure Extends (w : Writer) (bytes : List UInt8) (w' : Writer) : Prop where
  output : w'.output = w.output ++ bytes
  isOpen : w'.device.IsOpen
  fields : w'.fields = w.fields
  expected : w'.expected? = w.expected?
  inField : w'.inField = w.inField
  quoting : w'.quoting = w.quoting
  untouched : w'.untouched = (w.untouched && bytes.isEmpty)

theorem extends_put (h : w.device.IsOpen) (hne : bytes ≠ []) :
    Extends w bytes (w.put bytes) := by
  have hempty : bytes.isEmpty = false := by simpa using hne
  have hbase : ∀ v : Writer, v = (if bufferSize < w.size + bytes.length then w.sent else w) →
      v.device.IsOpen ∧ v.fields = w.fields ∧ v.expected? = w.expected? ∧
        v.inField = w.inField ∧ v.quoting = w.quoting := by
    rintro v rfl
    by_cases hfull : bufferSize < w.size + bytes.length
    · rw [if_pos hfull]
      exact ⟨isOpen_sent h, rfl, rfl, rfl, rfl⟩
    · rw [if_neg hfull]
      exact ⟨h, rfl, rfl, rfl, rfl⟩
  obtain ⟨hdevice, hfields, hexpected, hinField, hquoting⟩ := hbase _ rfl
  exact ⟨output_put h bytes, hdevice, hfields, hexpected, hinField, hquoting,
    by rw [hempty, Bool.and_false]; rfl⟩

theorem Extends.refl (h : w.device.IsOpen) : Extends w [] w :=
  ⟨(List.append_nil _).symm, h, rfl, rfl, rfl, rfl, by simp⟩

theorem Extends.trans {w'' : Writer} {more : List UInt8} (h : Extends w bytes w')
    (h' : Extends w' more w'') : Extends w (bytes ++ more) w'' where
  output := by rw [h'.output, h.output, List.append_assoc]
  isOpen := h'.isOpen
  fields := h'.fields.trans h.fields
  expected := h'.expected.trans h.expected
  inField := h'.inField.trans h.inField
  quoting := h'.quoting.trans h.quoting
  untouched := by rw [h'.untouched, h.untouched, Bool.and_assoc]; cases bytes <;> simp

/-- Pieces are put down one after the other. -/
theorem exists_forM_emit (h : w.device.IsOpen) {pieces : List (List UInt8)}
    (hne : ∀ piece ∈ pieces, piece ≠ []) :
    ∃ w', Leads (pieces.forM emit) w w' ∧ Extends w pieces.flatten w' := by
  induction pieces generalizing w with
  | nil => exact ⟨w, rfl, .refl h⟩
  | cons piece pieces ih =>
    have hfirst := extends_put h (hne piece List.mem_cons_self)
    obtain ⟨w', hleads, hrest⟩ := ih hfirst.isOpen fun p hp => hne p (List.mem_cons_of_mem piece hp)
    exact ⟨w', (leads_emit h piece).bind hleads, hfirst.trans hrest⟩

/-- The quote that is still due. -/
def due (w : Writer) : List UInt8 := if w.quoting then [34] else []

/-- The quote that is due is put down, and none is due any more. -/
theorem exists_close (hdevice : w.device.IsOpen) :
    ∃ w₁, Extends { w with quoting := false } w.due w₁ ∧
      ∀ {k : Unit → WriteM Unit} {w'}, Leads (k ()) w₁ w' →
        Leads (if w.quoting then emit [34] >>= fun _ =>
          modify (fun w => { w with quoting := false }) >>= k else k ()) w w' := by
  by_cases hquoting : w.quoting = true
  · have hclose := extends_put hdevice (List.cons_ne_nil (34 : UInt8) [])
    refine ⟨{ w.put [34] with quoting := false }, ?_, ?_⟩
    · rw [due, if_pos hquoting]
      exact ⟨hclose.output, hclose.isOpen, hclose.fields, hclose.expected, hclose.inField, rfl,
        hclose.untouched⟩
    · intro k w' hk
      rw [if_pos hquoting]
      exact (leads_emit hdevice _).bind ((leads_modify _).bind hk)
  · refine ⟨w, ?_, fun hk => ?_⟩
    · rw [due, if_neg hquoting]
      exact ⟨(List.append_nil _).symm, hdevice, rfl, rfl, rfl, Bool.not_eq_true _ ▸ hquoting, by simp⟩
    · rw [if_neg hquoting]
      exact hk

/-- Bytes are put down if a condition holds. -/
theorem exists_ite_emit (hdevice : w.device.IsOpen) (c : Prop) [Decidable c]
    (hne : bytes ≠ []) :
    ∃ w₁, Extends w (if c then bytes else []) w₁ ∧
      ∀ {k : Unit → WriteM Unit} {w'}, Leads (k ()) w₁ w' →
        Leads (if c then emit bytes >>= k else k ()) w w' := by
  by_cases hc : c
  · refine ⟨w.put bytes, ?_, fun hk => ?_⟩
    · rw [if_pos hc]
      exact extends_put hdevice hne
    · rw [if_pos hc]
      exact (leads_emit hdevice _).bind hk
  · refine ⟨w, ?_, fun hk => ?_⟩
    · rw [if_neg hc]
      exact .refl hdevice
    · rw [if_neg hc]
      exact hk

/-! ## One field -/

/-- Nothing of a field is open. -/
structure IsReady (w : Writer) : Prop where
  isOpen : w.device.IsOpen
  inField : w.inField = false
  quoting : w.quoting = false

/-- The writer `w'` has put down some fields more than `w` in their written form, up to the quote
that is still due. -/
structure HasWritten (w : Writer) (form : List UInt8) (count : Nat) (w' : Writer) : Prop where
  output : w'.output ++ w'.due = w.output ++ w.due ++ form
  isOpen : w'.device.IsOpen
  fields : w'.fields = w.fields + count
  expected : w'.expected? = w.expected?
  untouched : w'.untouched = (w.untouched && form.isEmpty)

theorem HasWritten.refl (h : w.device.IsOpen) : HasWritten w [] 0 w :=
  ⟨(List.append_nil _).symm, h, rfl, rfl, by simp⟩

theorem HasWritten.trans {w'' : Writer} {form more : List UInt8} {m n : Nat}
    (h : HasWritten w form m w') (h' : HasWritten w' more n w'') :
    HasWritten w (form ++ more) (m + n) w'' where
  output := by rw [h'.output, h.output, List.append_assoc]
  isOpen := h'.isOpen
  fields := by rw [h'.fields, h.fields, Nat.add_assoc]
  expected := h'.expected.trans h.expected
  untouched := by rw [h'.untouched, h.untouched, Bool.and_assoc]; cases form <;> simp

theorem IsReady.due_eq (h : IsReady w) : w.due = [] := by
  rw [due, h.quoting]
  rfl

/-- Writes a field without the comma before it. -/
def writeContent (field : List UInt8) : WriteM Unit := do
  if !(← get).inField then
    modify fun w => { w with quoting := field.any asksForQuotes }
    if (← get).quoting then emit [34]
    modify fun w => { w with inField := true }
  if (← get).quoting then (quotedPieces field).forM emit
  else (field.map fun b => [b]).forM emit
  modify fun w => { w with fields := w.fields + 1 }

theorem writeField_eq (field : List UInt8) :
    writeField field = (do
      if 0 < (← get).fields then separate
      writeContent field) := rfl

theorem quotedPieces_ne_nil (field : List UInt8) : ∀ piece ∈ quotedPieces field, piece ≠ [] := by
  intro piece hpiece
  obtain ⟨b, -, rfl⟩ := List.mem_map.1 hpiece
  by_cases hb : b = 34
  · rw [if_pos hb]
    exact List.cons_ne_nil _ _
  · rw [if_neg hb]
    exact List.cons_ne_nil _ _

/-- A field that asks for quotes. -/
theorem exists_writeContent_quoted (h : IsReady w) {field : List UInt8}
    (hquotes : field.any asksForQuotes = true) :
    ∃ w', Leads (writeContent field) w w' ∧ HasWritten w (fieldForm field) 1 w' := by
  let w₁ : Writer := { w with quoting := field.any asksForQuotes }
  have hopen : Extends w₁ [34] (w₁.put [34]) := extends_put h.isOpen (List.cons_ne_nil _ _)
  let w₂ : Writer := { w₁.put [34] with inField := true }
  have hdevice : w₂.device.IsOpen := hopen.isOpen
  obtain ⟨w₃, hleads, hinner⟩ := exists_forM_emit hdevice (quotedPieces_ne_nil field)
  have hquoting : w₂.quoting = true := hopen.quoting.trans hquotes
  have hform : fieldForm field = [34] ++ (quotedPieces field).flatten ++ [34] := by
    rw [fieldForm, if_pos hquotes]
    rfl
  refine ⟨{ w₃ with fields := w₃.fields + 1 }, ?_, ?_⟩
  · unfold writeContent
    apply leads_get
    rw [if_pos (by rw [h.inField]; rfl)]
    refine (leads_modify _).bind ?_
    apply leads_get
    rw [if_pos hquotes]
    refine (leads_emit (w := w₁) h.isOpen _).bind ?_
    refine (leads_modify _).bind ?_
    apply leads_get
    rw [if_pos hquoting]
    exact hleads.bind (leads_modify _)
  · have houtput : w₃.output = w.output ++ [34] ++ (quotedPieces field).flatten :=
      hinner.output.trans (congrArg (· ++ _) hopen.output)
    have hdue : w₃.due = [34] := by rw [due, hinner.quoting, if_pos hquoting]
    refine ⟨?_, hinner.isOpen, ?_, hinner.expected.trans hopen.expected, ?_⟩
    · show w₃.output ++ w₃.due = _
      rw [houtput, hdue, hform, h.due_eq]
      simp
    · exact congrArg (· + 1) (hinner.fields.trans hopen.fields)
    · have huntouched : w₂.untouched = false := hopen.untouched.trans (Bool.and_false _)
      show w₃.untouched = _
      rw [hinner.untouched, huntouched, hform]
      simp

/-- A field that asks for no quotes. -/
theorem exists_writeContent_plain (h : IsReady w) {field : List UInt8}
    (hquotes : field.any asksForQuotes = false) :
    ∃ w', Leads (writeContent field) w w' ∧ HasWritten w (fieldForm field) 1 w' := by
  let w₁ : Writer := { w with quoting := field.any asksForQuotes, inField := true }
  have hpieces : ∀ piece ∈ field.map fun b => [b], piece ≠ [] := by
    intro piece hpiece
    obtain ⟨b, -, rfl⟩ := List.mem_map.1 hpiece
    exact List.cons_ne_nil b []
  have hdevice : w₁.device.IsOpen := h.isOpen
  obtain ⟨w₂, hleads, hinner⟩ := exists_forM_emit hdevice hpieces
  have hflatten : (field.map fun b => [b]).flatten = field := List.flatMap_singleton' field
  have hform : fieldForm field = field := by simp [fieldForm, hquotes]
  have hquoting : w₁.quoting = false := hquotes
  refine ⟨{ w₂ with fields := w₂.fields + 1 }, ?_, ?_⟩
  · unfold writeContent
    apply leads_get
    rw [if_pos (by rw [h.inField]; rfl)]
    refine (leads_modify _).bind ?_
    apply leads_get
    rw [if_neg (by simp [hquotes])]
    refine (leads_modify _).bind ?_
    apply leads_get
    rw [if_neg (by simp [hquotes])]
    exact hleads.bind (leads_modify _)
  · have hdue : w₂.due = [] := by
      rw [due, hinner.quoting, hquoting]
      rfl
    rw [hflatten] at hinner
    refine ⟨?_, hinner.isOpen, congrArg (· + 1) hinner.fields, hinner.expected, ?_⟩
    · show w₂.output ++ w₂.due = _
      rw [hinner.output, hdue, hform, h.due_eq, List.append_nil, List.append_nil]
      rfl
    · show w₂.untouched = _
      rw [hinner.untouched, hform]

/-- A field is put down in its written form. -/
theorem exists_writeContent (h : IsReady w) (field : List UInt8) :
    ∃ w', Leads (writeContent field) w w' ∧ HasWritten w (fieldForm field) 1 w' := by
  by_cases hquotes : field.any asksForQuotes = true
  · exact exists_writeContent_quoted h hquotes
  · exact exists_writeContent_plain h (Bool.not_eq_true _ ▸ hquotes)

/-! ## The fields of a record -/

/-- The first field of a record has no comma before it. -/
theorem exists_writeField_first (h : IsReady w) (hfields : w.fields = 0) (field : List UInt8) :
    ∃ w', Leads (writeField field) w w' ∧ HasWritten w (fieldForm field) 1 w' := by
  obtain ⟨w', hleads, hwritten⟩ := exists_writeContent h field
  refine ⟨w', ?_, hwritten⟩
  rw [writeField_eq]
  apply leads_get
  rw [if_neg (by omega)]
  exact hleads

/-- After a field the writer puts down the quote that is due and a comma. -/
theorem exists_separate (hdevice : w.device.IsOpen) :
    ∃ w', Leads separate w w' ∧ IsReady w' ∧ HasWritten w [44] 0 w' := by
  obtain ⟨w₁, hclose, hleads⟩ := exists_close hdevice
  have hcomma := extends_put hclose.isOpen (List.cons_ne_nil (44 : UInt8) [])
  let w₂ : Writer := { w₁.put [44] with inField := false }
  have hready : IsReady w₂ := ⟨hcomma.isOpen, rfl, hcomma.quoting.trans hclose.quoting⟩
  have houtput : w₂.output = w.output ++ w.due ++ [44] :=
    hcomma.output.trans (congrArg (· ++ _) hclose.output)
  refine ⟨w₂, ?_, hready, ?_, hcomma.isOpen, hcomma.fields.trans hclose.fields,
    hcomma.expected.trans hclose.expected, ?_⟩
  · unfold separate
    apply leads_get
    exact hleads ((leads_emit hclose.isOpen _).bind (leads_modify _))
  · rw [hready.due_eq, List.append_nil, houtput]
  · have huntouched : w₂.untouched = false := hcomma.untouched.trans (Bool.and_false _)
    rw [huntouched, List.isEmpty_cons, Bool.and_false]

/-- A further field comes after a comma. -/
theorem exists_writeField_later (hdevice : w.device.IsOpen) (hfields : 0 < w.fields)
    (field : List UInt8) :
    ∃ w', Leads (writeField field) w w' ∧ HasWritten w (44 :: fieldForm field) 1 w' := by
  obtain ⟨w₁, hcomma, hready, hseparated⟩ := exists_separate hdevice
  obtain ⟨w', hleads, hwritten⟩ := exists_writeContent hready field
  refine ⟨w', ?_, hseparated.trans hwritten⟩
  rw [writeField_eq]
  apply leads_get
  rw [if_pos hfields]
  exact hcomma.bind hleads

/-- The further fields of a record are put down one after the other. -/
theorem exists_forM_writeField (hdevice : w.device.IsOpen) (hfields : 0 < w.fields)
    (later : List (List UInt8)) :
    ∃ w', Leads (later.forM writeField) w w' ∧ HasWritten w (laterForm later) later.length w' := by
  induction later generalizing w with
  | nil => exact ⟨w, rfl, .refl hdevice⟩
  | cons field later ih =>
    obtain ⟨w₁, hfield, hwritten⟩ := exists_writeField_later hdevice hfields field
    have hcount : 0 < w₁.fields := by
      rw [hwritten.fields]
      exact Nat.succ_pos _
    obtain ⟨w', hleads, hrest⟩ := ih hwritten.isOpen hcount
    refine ⟨w', hfield.bind hleads, ?_⟩
    rw [List.length_cons, Nat.add_comm]
    exact hwritten.trans hrest

/-- The fields of a record are put down with commas between them. -/
theorem exists_forM_record (h : IsReady w) (hfields : w.fields = 0) {record : List (List UInt8)}
    (hne : record ≠ []) :
    ∃ w', Leads (record.forM writeField) w w' ∧
      HasWritten w (recordForm record) record.length w' := by
  obtain ⟨field, later, rfl⟩ := List.exists_cons_of_ne_nil hne
  obtain ⟨w₁, hfield, hfirst⟩ := exists_writeField_first h hfields field
  have hcount : 0 < w₁.fields := by
    rw [hfirst.fields]
    exact Nat.succ_pos _
  obtain ⟨w', hleads, hrest⟩ := exists_forM_writeField hfirst.isOpen hcount later
  refine ⟨w', hfield.bind hleads, ?_⟩
  rw [List.length_cons, Nat.add_comm]
  exact hfirst.trans hrest

/-! ## Records -/

/-- Nothing of a record is open. -/
structure IsIdle (w : Writer) : Prop extends IsReady w where
  fields : w.fields = 0
  untouched : w.untouched = true

theorem isIdle_onDevice : IsIdle (.onDevice (.empty none)) :=
  ⟨⟨CountedDevice.isOpen_ofDevice, rfl, rfl⟩, rfl, rfl⟩

/-- A line end is put down after the quote that is due; two quotes for a record without bytes. -/
theorem exists_endRecord (hdevice : w.device.IsOpen)
    (hexpected : w.expected? = none ∨ w.expected? = some w.fields) :
    ∃ w', Leads endRecord w w' ∧ IsIdle w' ∧ w'.expected? = some w.fields ∧
      w'.output = w.output ++ (if w.untouched then [34, 34] else []) ++ w.due ++ [10] := by
  let w₁ : Writer := { w with expected? := some w.fields }
  have hcheck : Leads checkLength w w₁ := by
    unfold checkLength
    apply leads_get
    rcases hexpected with h | h
    · rw [h]
      exact leads_set _
    · have hsame : w₁ = w := by
        show { w with expected? := some w.fields } = w
        rw [← h]
      rw [h, hsame]
      simp only [ne_eq, not_true_eq_false, if_false]
      rfl
  obtain ⟨w₂, hempty, hleads₂⟩ := exists_ite_emit (w := w₁) hdevice (w₁.untouched = true)
    (List.cons_ne_nil (34 : UInt8) [34])
  obtain ⟨w₃, hclose, hleads₃⟩ := exists_close hempty.isOpen
  have hend := extends_put hclose.isOpen (List.cons_ne_nil (10 : UInt8) [])
  refine ⟨{ w₃.put [10] with untouched := true, inField := false, fields := 0 }, ?_,
    ⟨⟨hend.isOpen, rfl, hend.quoting.trans hclose.quoting⟩, rfl, rfl⟩,
    hend.expected.trans (hclose.expected.trans hempty.expected), ?_⟩
  · unfold endRecord
    refine hcheck.bind ?_
    apply leads_get
    refine hleads₂ ?_
    apply leads_get
    exact hleads₃ ((leads_emit hclose.isOpen _).bind (leads_modify _))
  · have hdue : w₂.due = w.due := by rw [due, due, hempty.quoting]
    show (w₃.put [10]).output = _
    rw [hend.output, hclose.output, hdue]
    exact congrArg (· ++ _ ++ _) hempty.output

/-- A record adds its line to the output. -/
theorem exists_writeRecord (h : IsIdle w) {record : List (List UInt8)} (hne : record ≠ [])
    (hexpected : w.expected? = none ∨ w.expected? = some record.length) :
    ∃ w', Leads (writeRecord record) w w' ∧ IsIdle w' ∧ w'.expected? = some record.length ∧
      w'.output = w.output ++ lineForm record := by
  obtain ⟨w₁, hfields, hwritten⟩ := exists_forM_record h.toIsReady h.fields hne
  have hcount : w₁.fields = record.length := by rw [hwritten.fields, h.fields, Nat.zero_add]
  have hlengths : w₁.expected? = none ∨ w₁.expected? = some w₁.fields := by
    rw [hwritten.expected, hcount]
    exact hexpected
  obtain ⟨w', hend, hidle, hlength, houtput⟩ := exists_endRecord hwritten.isOpen hlengths
  have hform : w₁.output ++ w₁.due = w.output ++ recordForm record := by
    rw [hwritten.output, h.toIsReady.due_eq, List.append_nil]
  have hbytes : w₁.untouched = (recordForm record).isEmpty := by
    rw [hwritten.untouched, h.untouched, Bool.true_and]
  -- a record without bytes has no quote due, and quotes are alike anyway
  have hquotes : w₁.output ++ (if w₁.untouched then [34, 34] else []) ++ w₁.due =
      w₁.output ++ w₁.due ++ (if w₁.untouched then [34, 34] else []) := by
    unfold due
    by_cases hdue : w₁.quoting = true <;> by_cases htouched : w₁.untouched = true <;>
      simp [hdue, htouched]
  refine ⟨w', hfields.bind hend, hidle, hlength.trans (congrArg _ hcount), ?_⟩
  rw [houtput, hquotes, hform, hbytes, lineForm]
  cases recordForm record <;> simp

end SynthTable.Csv.Writer
