import SynthTable.Proofs.Csv.Writer
import SynthTable.Proofs.Sink.Delivery
import SynthTable.Sink.CsvRows

/-!
# Separated rows hold the visible table

After each batch the writer of a sink on a device without limit stands between two records, and its
output is the lines of the names and of the rows so far (`Keeps`). So what a delivery leaves on the
device is read back as the visible names and values, whatever they hold
(`deliver_reads_visible`).
-/

namespace SynthTable.CsvRows

variable {layout : Layout} {s : CsvRows} {texts : List String} {records : List (List String)}

/-- The lines of records of texts. -/
def linesOf (records : List (List String)) : List UInt8 :=
  records.flatMap fun record => Csv.lineForm (record.map Text.stringBytes)

/-- The sink stands after records of a width. -/
structure Keeps (width : Nat) (records : List (List String)) (s : CsvRows) : Prop where
  idle : s.writer.IsIdle
  output : s.writer.output = linesOf records
  width : s.writer.expected? = none ∨ s.writer.expected? = some width

theorem keeps_onDevice (width : Nat) : Keeps width [] (onDevice (.empty none)) :=
  ⟨Csv.Writer.isIdle_onDevice, rfl, .inl rfl⟩

/-- A record of the width adds its line. -/
theorem exists_writeTexts {width : Nat} (h : Keeps width records s) (hne : texts ≠ [])
    (hwidth : texts.length = width) :
    ∃ s', writeTexts texts s = (.ok (), s') ∧ Keeps width (records ++ [texts]) s' := by
  have hfields : texts.map Text.stringBytes ≠ [] := by simpa using hne
  have hlength : (texts.map Text.stringBytes).length = width := by rw [List.length_map, hwidth]
  obtain ⟨writer, hleads, hidle, hexpected, houtput⟩ :=
    Csv.Writer.exists_writeRecord h.idle hfields (by rw [hlength]; exact h.width)
  refine ⟨⟨writer⟩, ?_, hidle, ?_, .inr (hexpected.trans (congrArg _ hlength))⟩
  · rw [writeTexts, hleads]
  · show writer.output = _
    rw [houtput, h.output, linesOf, linesOf, List.flatMap_append, List.flatMap_singleton]

theorem length_recordOf {row : Row} (h : row.Completes layout) :
    (recordOf row).length = layout.visibleNames.length := by
  rw [recordOf, List.length_map, Row.length_visibleValues h.complete, h.layout_eq]

theorem recordOf_ne_nil {row : Row} (h : row.Completes layout)
    (hvisible : layout.visibleNames ≠ []) : recordOf row ≠ [] := by
  intro hnone
  have hlength := length_recordOf h
  rw [hnone] at hlength
  exact hvisible (List.length_eq_zero_iff.1 hlength.symm)

/-- The rows of a batch add their lines. -/
theorem exists_writeRows {rows : List Row} (hrows : ∀ row ∈ rows, row.Completes layout)
    (hvisible : layout.visibleNames ≠ []) (h : Keeps layout.visibleNames.length records s) :
    ∃ s', writeRows rows s = (.ok (), s') ∧
      Keeps layout.visibleNames.length (records ++ rows.map recordOf) s' := by
  induction rows generalizing records s with
  | nil => exact ⟨s, rfl, by rwa [List.map_nil, List.append_nil]⟩
  | cons row rows ih =>
    have hrow := hrows row List.mem_cons_self
    obtain ⟨s₁, hwrite, hkeeps⟩ :=
      exists_writeTexts h (recordOf_ne_nil hrow hvisible) (length_recordOf hrow)
    obtain ⟨s', hrest, hall⟩ := ih (fun r hr => hrows r (List.mem_cons_of_mem row hr)) hkeeps
    refine ⟨s', ?_, ?_⟩
    · rw [writeRows, hwrite]
      exact hrest
    · rwa [List.map_cons, List.append_cons]

/-- At the end all that has been put down is on the device. -/
theorem finish_of_keeps {width : Nat} (h : Keeps width records s) :
    ∃ s', Sink.finish s = (.ok s'.writer.device.content.length, s') ∧
      s'.writer.device.content = linesOf records := by
  have hopen := h.idle.isOpen
  have hflush : Csv.Writer.flush.run s.writer = (.ok (), s.writer.sent) :=
    Csv.Writer.leads_flush hopen
  have hcontent : s.writer.sent.device.content = linesOf records := by
    have houtput := Csv.Writer.output_sent hopen
    rw [Csv.Writer.output] at houtput
    rw [← h.output, ← houtput]
    exact (List.append_nil _).symm
  refine ⟨⟨s.writer.sent⟩, ?_, hcontent⟩
  have hsent : flush s = (.ok s.writer.sent.device.content.length, ⟨s.writer.sent⟩) := by
    rw [flush, hflush]
    dsimp only
    rw [(Csv.Writer.isOpen_sent hopen).count_eq]
  dsimp only [Sink.finish]
  rw [hsent]

/-- However complete rows of a layout with a visible column are cut into batches, their delivery
succeeds with the number of bytes, and the bytes are read back by the plain rules as the visible
names and then the texts of the visible values of each row. -/
theorem deliver_reads_visible (hvisible : layout.visibleNames ≠ []) {batches : List (List Row)}
    (hrows : ∀ row ∈ batches.flatten, row.Completes layout) :
    ∃ s : CsvRows, Sink.deliver layout batches (onDevice (.empty none)) =
        (.ok s.writer.device.content.length, s) ∧
      Csv.readTexts? s.writer.device.content =
        some (layout.visibleNames :: batches.flatten.map recordOf) := by
  have hstep : ∀ (rows batch : List Row) (s : CsvRows),
      Keeps layout.visibleNames.length (layout.visibleNames :: rows.map recordOf) s →
      (∀ row ∈ batch, row.Completes layout) →
      ∃ s', Sink.write batch s = (.ok (), s') ∧ Keeps layout.visibleNames.length
        (layout.visibleNames :: (rows ++ batch).map recordOf) s' := by
    intro rows batch s h hbatch
    rw [List.map_append, ← List.cons_append]
    exact exists_writeRows hbatch hvisible h
  obtain ⟨s, hdeliver, hkeeps⟩ := Sink.exists_deliver
    (exists_writeTexts (keeps_onDevice _) hvisible rfl) hstep hrows
  obtain ⟨s', hfinish, hcontent⟩ := finish_of_keeps hkeeps
  have hne : ∀ record ∈ layout.visibleNames :: batches.flatten.map recordOf, record ≠ [] := by
    intro record hrecord
    rcases List.mem_cons.1 hrecord with rfl | hmem
    · exact hvisible
    · obtain ⟨row, hrow, rfl⟩ := List.mem_map.1 hmem
      exact recordOf_ne_nil (hrows row hrow) hvisible
  refine ⟨s', hdeliver.trans hfinish, ?_⟩
  rw [hcontent, linesOf, Csv.readTexts?_lines hne]

/-- A ghost between two columns with quotes, commas and line ends in their names and values, and a
single column whose value is empty. -/
theorem deliver_reads_visible_quoted :
    (∃ s : CsvRows, Sink.deliver [⟨"a,b", false⟩, ⟨"secret", true⟩, ⟨"c\r\n", false⟩]
        [[.ofValues [⟨"a,b", false⟩, ⟨"secret", true⟩, ⟨"c\r\n", false⟩]
            [.text "say \"hi\"", .bool true, .null]], [],
          [.ofValues [⟨"a,b", false⟩, ⟨"secret", true⟩, ⟨"c\r\n", false⟩]
            [.text " \n", .text "hidden", .bool false]]]
        (onDevice (.empty none)) = (.ok s.writer.device.content.length, s) ∧
      Csv.readTexts? s.writer.device.content =
        some [["a,b", "c\r\n"], ["say \"hi\"", ""], [" \n", "false"]]) ∧
    ∃ s : CsvRows, Sink.deliver [⟨"only", false⟩] [[.ofValues [⟨"only", false⟩] [.null]]]
        (onDevice (.empty none)) = (.ok s.writer.device.content.length, s) ∧
      Csv.readTexts? s.writer.device.content = some [["only"], [""]] := by
  refine ⟨deliver_reads_visible ?_ ?_, deliver_reads_visible ?_ ?_⟩
  · exact List.cons_ne_nil _ _
  · intro row hrow
    rcases List.mem_cons.1 hrow with rfl | hlater
    · exact ⟨rfl, rfl⟩
    · rw [List.mem_singleton.1 hlater]
      exact ⟨rfl, rfl⟩
  · exact List.cons_ne_nil _ _
  · intro row hrow
    rw [List.mem_singleton.1 hrow]
    exact ⟨rfl, rfl⟩

end SynthTable.CsvRows
