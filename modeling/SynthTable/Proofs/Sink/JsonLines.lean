import SynthTable.Proofs.Json.Reading
import SynthTable.Proofs.Sink.Delivery
import SynthTable.Proofs.Text.Utf8
import SynthTable.Sink.JsonLines

/-!
# JSON lines hold the visible rows

The document of a row has no line end in it, so the line feeds of what a delivery leaves on the
device are those that end the documents. Each document is read back as an object of the visible
names with the values themselves or their texts (`deliver_reads_rows`).
-/

namespace SynthTable

/-! ## The object of a row -/

namespace Value

/-- What a value is read back as: nothing, truth values and integers as themselves, all else as its
text. -/
def documentForm : Value → Json
  | .null => .null
  | .bool b => .bool b
  | .int n => .integer n.toInt
  | v => .string v.toText

theorem toJson_of_noFloat {v : Value} (h : ∀ x, v ≠ .float x) : v.toJson = v.documentForm := by
  cases v with
  | float x => exact absurd rfl (h x)
  | _ => rfl

theorem isExact_documentForm (v : Value) : v.documentForm.isExact = true := by
  cases v with
  | int n => exact Json.hasWord_toInt n
  | _ => rfl

end Value

namespace Row

variable {row : Row} {layout : Layout}

theorem setMember_of_notMem {name : String} {value : Json} {members : List (String × Json)}
    (h : name ∉ members.map (·.1)) : setMember name value members = members ++ [(name, value)] := by
  induction members with
  | nil => rfl
  | cons m rest ih =>
    rw [List.map_cons, List.mem_cons, not_or] at h
    rw [setMember, if_neg (Ne.symm h.1), ih h.2, List.cons_append]

/-- Distinct names are set one after the other. -/
theorem foldl_setMember (members : List (String × Json)) {entries : List (String × Value)}
    (h : (members.map (·.1) ++ entries.map (·.1)).Nodup) :
    entries.foldl (fun members (n, v) => setMember n v.toJson members) members =
      members ++ entries.map fun (n, v) => (n, v.toJson) := by
  induction entries generalizing members with
  | nil => simp
  | cons entry rest ih =>
    have hnew : entry.1 ∉ members.map (·.1) := by
      intro hmem
      exact (List.nodup_append.1 h).2.2 _ hmem _ List.mem_cons_self rfl
    have hrest : ((members ++ [(entry.1, entry.2.toJson)]).map (·.1) ++ rest.map (·.1)).Nodup := by
      simpa using h
    rw [List.foldl_cons]
    dsimp only
    rw [setMember_of_notMem hnew, ih _ hrest]
    simp

/-- The visible names of a row with what its values are read back as. -/
def documentMembers (row : Row) : List (String × Json) :=
  row.layout.visibleNames.zip (row.visibleValues.map Value.documentForm)

/-- The object of a row of a layout with distinct names. -/
theorem toJson_of_nodup (hnames : layout.names.Nodup) (hrow : row.Completes layout)
    (hvalues : ∀ v ∈ row.values, ∀ x, v ≠ .float x) : row.toJson = .object row.documentMembers := by
  have hvisible : (row.visible.map (·.1)).Nodup := by
    rw [map_fst_visible hrow.complete, hrow.layout_eq]
    exact hnames.sublist (List.filter_sublist.map _)
  have hforms : ∀ entry ∈ row.visible, entry.2.toJson = entry.2.documentForm := by
    intro entry hentry
    obtain ⟨cell, hcell, rfl⟩ := List.mem_map.1 hentry
    have hvalue : cell.2 ∈ row.values := (List.of_mem_zip (List.mem_of_mem_filter hcell)).2
    exact Value.toJson_of_noFloat (hvalues cell.2 hvalue)
  have hmembers : row.visible.map (fun (n, v) => (n, v.toJson)) = row.documentMembers := by
    apply List.zip_of_prod
    · rw [List.map_map]
      exact map_fst_visible hrow.complete
    · rw [visibleValues, List.map_map, List.map_map]
      exact List.map_congr_left hforms
  rw [toJson, foldl_setMember [] hvisible, List.nil_append, hmembers]

end Row

namespace JsonLines

variable {layout : Layout} {row : Row}

/-! ## The document of a row -/

/-- The document that bytes are. -/
def documentOf? (bytes : List UInt8) : Option Json := (Text.textOf? bytes).bind Json.ofText?

theorem isExact_documentMembers (row : Row) : (Json.object row.documentMembers).isExact = true := by
  rw [Json.isExact, Json.areExactMembers_iff]
  intro m hm
  obtain ⟨v, -, hv⟩ := List.mem_map.1 (List.of_mem_zip hm).2
  rw [← hv]
  exact Value.isExact_documentForm v

/-- The document of a row is read back as its object. -/
theorem documentOf?_documentBytes (h : row.toJson = .object row.documentMembers) :
    documentOf? (documentBytes row) = some (.object row.documentMembers) := by
  rw [documentOf?, documentBytes, h, Text.textOf?_encodeUtf8, Option.bind_some]
  exact Json.ofText?_toText (isExact_documentMembers row)

/-- The document of a row stands on one line. -/
theorem lineFeed_notMem_documentBytes (h : row.toJson = .object row.documentMembers) :
    (10 : UInt8) ∉ documentBytes row := by
  intro hmem
  rw [documentBytes, h] at hmem
  -- a byte 10 would be the whole of a line end among the characters
  have hnewline := Text.mem_of_plain hmem (by decide)
  exact Json.newline_notMem_write _ (isExact_documentMembers row) hnewline

/-! ## The lines -/

/-- The lines of rows. -/
def linesOf (rows : List Row) : List UInt8 := rows.flatMap fun row => documentBytes row ++ [10]

/-- A device without limit takes the lines of all rows. -/
theorem exists_writeRows {device : CountedDevice} (hopen : device.IsOpen) (rows : List Row) :
    ∃ device', writeRows rows device = (.ok (), device') ∧ device'.IsOpen ∧
      device'.content = device.content ++ linesOf rows := by
  induction rows generalizing device with
  | nil => exact ⟨device, rfl, hopen, (List.append_nil _).symm⟩
  | cons row rows ih =>
    have hdocument := hopen.write (documentBytes row)
    obtain ⟨device', hwrite, hopen', hcontent⟩ := ih (hdocument.write [10])
    refine ⟨device', ?_, hopen', ?_⟩
    · rw [writeRows, hopen.write_eq]
      dsimp only
      rw [hdocument.write_eq]
      exact hwrite
    · rw [hcontent, hdocument.content_write, hopen.content_write]
      simp [linesOf]

theorem splitOn_linesOf {rows : List Row} (h : ∀ row ∈ rows, (10 : UInt8) ∉ documentBytes row) :
    (linesOf rows).splitOn 10 = rows.map documentBytes ++ [[]] := by
  have hlines : linesOf rows = [10].intercalate (rows.map documentBytes ++ [[]]) := by
    clear h
    induction rows with
    | nil => rfl
    | cons row rows ih =>
      obtain ⟨next, rest, hrest⟩ : ∃ next rest, rows.map documentBytes ++ [[]] = next :: rest :=
        List.exists_cons_of_ne_nil (by simp)
      rw [hrest] at ih
      rw [List.map_cons, List.cons_append, hrest, List.intercalate_cons_cons, ← ih, linesOf,
        List.flatMap_cons]
      rfl
  have hfree : ∀ line ∈ rows.map documentBytes ++ [[]], (10 : UInt8) ∉ line := by
    intro line hline
    rcases List.mem_append.1 hline with hdocument | hlast
    · obtain ⟨row, hrow, rfl⟩ := List.mem_map.1 hdocument
      exact h row hrow
    · rw [List.mem_singleton.1 hlast]
      exact List.not_mem_nil
  rw [hlines, List.splitOn_intercalate 10 hfree (by simp)]

/-- However complete rows without doubles, of a layout with distinct names, are cut into batches,
their delivery succeeds with the number of bytes. Cut at the line feeds the bytes are one document
for each row, with nothing after the last. The document of a row is read back as the object of the
visible names and the visible values, with nothing, truth values and integers as themselves and all
else as its text. -/
theorem deliver_reads_rows (hnames : layout.names.Nodup) {batches : List (List Row)}
    (hrows : ∀ row ∈ batches.flatten, row.Completes layout)
    (hvalues : ∀ row ∈ batches.flatten, ∀ v ∈ row.values, ∀ x, v ≠ .float x) :
    ∃ (s : JsonLines) (documents : List (List UInt8)),
      Sink.deliver layout batches (onDevice (.empty none)) = (.ok s.device.content.length, s) ∧
      s.device.content.splitOn 10 = documents ++ [[]] ∧
      documents.map documentOf? = batches.flatten.map fun row =>
        some (.object (layout.visibleNames.zip (row.visibleValues.map Value.documentForm))) := by
  have hobjects : ∀ row ∈ batches.flatten, row.toJson = .object row.documentMembers :=
    fun row hrow => Row.toJson_of_nodup hnames (hrows row hrow) (hvalues row hrow)
  have hstep : ∀ (rows batch : List Row) (s : JsonLines),
      (s.device.IsOpen ∧ s.device.content = linesOf rows) →
      (∀ row ∈ batch, row.Completes layout) →
      ∃ s', Sink.write batch s = (.ok (), s') ∧
        s'.device.IsOpen ∧ s'.device.content = linesOf (rows ++ batch) := by
    rintro rows batch s ⟨hopen, hcontent⟩ -
    obtain ⟨device, hwrite, hopen', hcontent'⟩ := exists_writeRows hopen batch
    refine ⟨⟨device⟩, ?_, hopen', ?_⟩
    · dsimp only [Sink.write]
      rw [hwrite]
    · rw [hcontent', hcontent, linesOf, linesOf, linesOf, List.flatMap_append]
  have hstart : ∃ s, Sink.start layout (onDevice (.empty none)) = (.ok (), s) ∧
      s.device.IsOpen ∧ s.device.content = linesOf [] := ⟨_, rfl, CountedDevice.isOpen_ofDevice, rfl⟩
  obtain ⟨s, hdeliver, hopen, hcontent⟩ := Sink.exists_deliver hstart hstep hrows
  refine ⟨s, batches.flatten.map documentBytes, ?_, ?_, ?_⟩
  · rw [hdeliver]
    dsimp only [Sink.finish]
    rw [hopen.count_eq]
  · rw [hcontent, splitOn_linesOf]
    exact fun row hrow => lineFeed_notMem_documentBytes (hobjects row hrow)
  · rw [List.map_map]
    apply List.map_congr_left
    intro row hrow
    rw [Function.comp_apply, documentOf?_documentBytes (hobjects row hrow), Row.documentMembers,
      (hrows row hrow).layout_eq]

/-- A ghost between two columns; quotes, line ends and control characters in names and values. -/
theorem deliver_reads_rows_escapes :
    ∃ (s : JsonLines) (documents : List (List UInt8)),
      Sink.deliver [⟨"a\"b\n", false⟩, ⟨"secret", true⟩, ⟨"π\\", false⟩]
          [[.ofValues [⟨"a\"b\n", false⟩, ⟨"secret", true⟩, ⟨"π\\", false⟩]
              [.text "one\r\ntwo\x01", .bool true, .null]], [],
            [.ofValues [⟨"a\"b\n", false⟩, ⟨"secret", true⟩, ⟨"π\\", false⟩]
              [.int (-7), .text "hidden", .bool false]]]
          (onDevice (.empty none)) = (.ok s.device.content.length, s) ∧
        s.device.content.splitOn 10 = documents ++ [[]] ∧
        documents.map documentOf? =
          [some (.object [("a\"b\n", .string "one\r\ntwo\x01"), ("π\\", .null)]),
            some (.object [("a\"b\n", .integer (-7)), ("π\\", .bool false)])] := by
  refine deliver_reads_rows ?_ ?_ ?_
  · simp [Layout.names]
  · intro row hrow
    rcases List.mem_cons.1 hrow with rfl | hlater
    · exact ⟨rfl, rfl⟩
    · rw [List.mem_singleton.1 hlater]
      exact ⟨rfl, rfl⟩
  · rintro row hrow v hv x rfl
    rcases List.mem_cons.1 hrow with rfl | hlater
    · simp [Row.ofValues] at hv
    · rw [List.mem_singleton.1 hlater] at hv
      simp [Row.ofValues] at hv

end JsonLines

end SynthTable
