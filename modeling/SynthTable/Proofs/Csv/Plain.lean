import SynthTable.Csv.Reader
import SynthTable.Csv.Writer
import SynthTable.Proofs.Fallible
import SynthTable.Proofs.Text.Utf8

/-!
# The plain form of separated records

A plain reader takes fields exactly as they stand: commas divide them, line ends end records, a
quote at the start of a field opens it up to the next quote that is not doubled, and quotes stand
nowhere else. Lines without any byte are no records. It reads back every record in its written form
(`readPlain?_lines`), whatever the fields hold.
-/

namespace SynthTable.Csv

/-! ## Reading -/

/-- The records of bytes from a mode on: `fields` are the fields of the record so far and `field`
the bytes of its last field so far, both in reverse. Nothing if a quote stands where none may stand. -/
def recordsFrom (mode : Mode) (fields : List (List UInt8)) (field : List UInt8) :
    List UInt8 → Option (List (List (List UInt8)))
  | [] =>
    if mode = .recordStart then some []
    else if mode = .quoted then none
    else some [(field.reverse :: fields).reverse]
  | b :: rest =>
    if mode = .quoted then
      if b = 34 then recordsFrom .afterQuote fields field rest
      else recordsFrom .quoted fields (b :: field) rest
    else if b = 44 then recordsFrom .fieldStart (field.reverse :: fields) [] rest
    else if isLineEnd b then
      if mode = .recordStart then recordsFrom .recordStart [] [] rest
      else (recordsFrom .recordStart [] [] rest).map ((field.reverse :: fields).reverse :: ·)
    else if b = 34 then
      if mode = .afterQuote then recordsFrom .quoted fields (34 :: field) rest
      else if mode = .plain then none
      else recordsFrom .quoted fields field rest
    else if mode = .afterQuote then none
    else recordsFrom .plain fields (b :: field) rest

/-- The records of bytes by the plain rules. -/
def readPlain? (bytes : List UInt8) : Option (List (List (List UInt8))) :=
  recordsFrom .recordStart [] [] bytes

/-- The records of bytes as texts. -/
def readTexts? (bytes : List UInt8) : Option (List (List String)) := do
  (← readPlain? bytes).mapM (·.mapM Text.textOf?)

/-! ## Writing -/

/-- A field as it is written. -/
def fieldForm (field : List UInt8) : List UInt8 :=
  if field.any Writer.asksForQuotes then 34 :: ((Writer.quotedPieces field).flatten ++ [34])
  else field

/-- Further fields of a record, each after a comma. -/
def laterForm (fields : List (List UInt8)) : List UInt8 :=
  fields.flatMap fun field => 44 :: fieldForm field

/-- The fields of a record with commas between them. -/
def recordForm : List (List UInt8) → List UInt8
  | [] => []
  | field :: later => fieldForm field ++ laterForm later

/-- A record as it is written, with its line end. What would be a line without any byte is written
as two quotes. -/
def lineForm (record : List (List UInt8)) : List UInt8 :=
  (if recordForm record = [] then [34, 34] else recordForm record) ++ [10]

/-! ## Reading back one field -/

variable {fields : List (List UInt8)} {field rest : List UInt8} {mode : Mode}

theorem asksForQuotes_eq_false_iff {b : UInt8} :
    Writer.asksForQuotes b = false ↔ b ≠ 44 ∧ b ≠ 34 ∧ isLineEnd b = false := by
  simp [Writer.asksForQuotes, isLineEnd, and_assoc]

/-- Bytes that ask for no quotes are taken one by one. -/
theorem recordsFrom_plain (hmode : mode ≠ .quoted ∧ mode ≠ .afterQuote) {b : UInt8}
    (hb : Writer.asksForQuotes b = false) :
    recordsFrom mode fields field (b :: rest) = recordsFrom .plain fields (b :: field) rest := by
  obtain ⟨hcomma, hquote, hend⟩ := asksForQuotes_eq_false_iff.1 hb
  rw [recordsFrom, if_neg hmode.1, if_neg hcomma, if_neg (by simp [hend]), if_neg hquote,
    if_neg hmode.2]

theorem recordsFrom_plain_append {more : List UInt8}
    (hmore : ∀ b ∈ more, Writer.asksForQuotes b = false) :
    recordsFrom .plain fields field (more ++ rest) =
      recordsFrom .plain fields (more.reverse ++ field) rest := by
  induction more generalizing field with
  | nil => rfl
  | cons b more ih =>
    have hmode : Mode.plain ≠ .quoted ∧ Mode.plain ≠ .afterQuote := ⟨by decide, by decide⟩
    rw [List.cons_append, recordsFrom_plain hmode (hmore b List.mem_cons_self),
      ih fun d hd => hmore d (List.mem_cons_of_mem b hd)]
    simp

/-- Between quotes each byte stands for itself, and two quotes for one. -/
theorem recordsFrom_quoted_append (more : List UInt8) :
    recordsFrom .quoted fields field ((Writer.quotedPieces more).flatten ++ rest) =
      recordsFrom .quoted fields (more.reverse ++ field) rest := by
  induction more generalizing field with
  | nil => rfl
  | cons b more ih =>
    have hpiece : (Writer.quotedPieces (b :: more)).flatten =
        (if b = 34 then [34, 34] else [b]) ++ (Writer.quotedPieces more).flatten := rfl
    have hread : recordsFrom .quoted fields field
        ((Writer.quotedPieces (b :: more)).flatten ++ rest) =
        recordsFrom .quoted fields (b :: field) ((Writer.quotedPieces more).flatten ++ rest) := by
      rw [hpiece]
      by_cases hb : b = 34
      · subst hb
        simp [recordsFrom, isLineEnd]
      · simp [recordsFrom, hb]
    rw [hread, ih]
    simp

/-- A field is read back, and the reader then stands after it: between no quotes, and outside of a
record only if it has read nothing. -/
theorem recordsFrom_fieldForm (hmode : mode = .recordStart ∨ mode = .fieldStart)
    (fields : List (List UInt8)) (field : List UInt8) :
    ∃ after : Mode, after ≠ .quoted ∧ (after = .recordStart → mode = .recordStart ∧ field = []) ∧
      ∀ rest, recordsFrom mode fields [] (fieldForm field ++ rest) =
        recordsFrom after fields field.reverse rest := by
  have hstart : mode ≠ .quoted ∧ mode ≠ .afterQuote := by
    rcases hmode with rfl | rfl <;> exact ⟨by decide, by decide⟩
  by_cases hquotes : field.any Writer.asksForQuotes = true
  · refine ⟨.afterQuote, by decide, fun h => (by cases h), fun rest => ?_⟩
    have hopen : ∀ bytes, recordsFrom mode fields [] (34 :: bytes) =
        recordsFrom .quoted fields [] bytes := by
      intro bytes
      rcases hmode with rfl | rfl <;> simp [recordsFrom, isLineEnd]
    rw [fieldForm, if_pos hquotes, List.cons_append, hopen, List.append_assoc,
      recordsFrom_quoted_append, List.append_nil]
    simp [recordsFrom]
  · rw [Bool.not_eq_true] at hquotes
    have hplain : ∀ b ∈ field, Writer.asksForQuotes b = false := by
      simpa [List.any_eq_false] using hquotes
    have hform : fieldForm field = field := by simp [fieldForm, hquotes]
    rw [hform]
    cases field with
    | nil => exact ⟨mode, hstart.1, fun h => ⟨h, rfl⟩, fun rest => rfl⟩
    | cons b more =>
      refine ⟨.plain, by decide, fun h => (by cases h), fun rest => ?_⟩
      rw [List.cons_append, recordsFrom_plain hstart (hplain b List.mem_cons_self),
        recordsFrom_plain_append fun d hd => hplain d (List.mem_cons_of_mem b hd)]
      simp

/-! ## Reading back records -/

/-- A comma ends a field. -/
theorem recordsFrom_comma (hmode : mode ≠ .quoted) :
    recordsFrom mode fields field (44 :: rest) =
      recordsFrom .fieldStart (field.reverse :: fields) [] rest := by
  rw [recordsFrom, if_neg hmode, if_pos rfl]

/-- A line end ends a record that has begun. -/
theorem recordsFrom_lineEnd (hmode : mode ≠ .quoted) (hbegun : mode ≠ .recordStart) :
    recordsFrom mode fields field (10 :: rest) =
      (recordsFrom .recordStart [] [] rest).map ((field.reverse :: fields).reverse :: ·) := by
  rw [recordsFrom, if_neg hmode, if_neg (by decide), if_pos (by decide), if_neg hbegun]

/-- The fields of a record are read back up to its line end, unless they make a line without any
byte. -/
theorem recordsFrom_recordForm (hmode : mode = .recordStart ∨ mode = .fieldStart)
    (later : List (List UInt8))
    (hbytes : mode = .fieldStart ∨ fieldForm field ++ laterForm later ≠ []) :
    recordsFrom mode fields [] (fieldForm field ++ (laterForm later ++ 10 :: rest)) =
      (recordsFrom .recordStart [] [] rest).map ((fields.reverse ++ field :: later) :: ·) := by
  induction later generalizing mode fields field with
  | nil =>
    obtain ⟨after, hafter, houtside, hread⟩ := recordsFrom_fieldForm hmode fields field
    have hbegun : after ≠ .recordStart := by
      intro heq
      obtain ⟨hrecord, hempty⟩ := houtside heq
      rcases hbytes with hstart | hne
      · rw [hrecord] at hstart
        cases hstart
      · subst hempty
        exact hne rfl
    rw [hread, laterForm, List.flatMap_nil, List.nil_append, recordsFrom_lineEnd hafter hbegun,
      List.reverse_reverse, List.reverse_cons]
  | cons next later ih =>
    obtain ⟨after, hafter, -, hread⟩ := recordsFrom_fieldForm hmode fields field
    have hlater : laterForm (next :: later) ++ 10 :: rest =
        44 :: (fieldForm next ++ (laterForm later ++ 10 :: rest)) := by
      simp [laterForm]
    rw [hread, hlater, recordsFrom_comma hafter, List.reverse_reverse, ih (.inr rfl) (.inl rfl)]
    simp

/-- A record is read back from its line. -/
theorem recordsFrom_lineForm {record : List (List UInt8)} (hne : record ≠ []) (rest : List UInt8) :
    recordsFrom .recordStart [] [] (lineForm record ++ rest) =
      (recordsFrom .recordStart [] [] rest).map (record :: ·) := by
  obtain ⟨field, later, rfl⟩ := List.exists_cons_of_ne_nil hne
  by_cases hbytes : recordForm (field :: later) = []
  · -- only a single field without bytes makes a line without bytes
    obtain ⟨hfield, hlater⟩ := List.append_eq_nil_iff.1 hbytes
    have hlast : later = [] := by
      cases later with
      | nil => rfl
      | cons next later => simp [laterForm] at hlater
    have hempty : field = [] := by
      unfold fieldForm at hfield
      split at hfield
      · cases hfield
      · exact hfield
    subst hlast hempty
    simp [lineForm, recordForm, laterForm, fieldForm, recordsFrom, isLineEnd]
  · rw [lineForm, if_neg hbytes, recordForm, List.append_assoc, List.append_assoc,
      List.singleton_append, recordsFrom_recordForm (.inl rfl) later (.inr hbytes)]
    rfl

/-- What is written line by line is read back. -/
theorem readPlain?_lines {records : List (List (List UInt8))}
    (h : ∀ record ∈ records, record ≠ []) :
    readPlain? (records.flatMap lineForm) = some records := by
  induction records with
  | nil => rfl
  | cons record records ih =>
    have hrest := ih fun other hother => h other (List.mem_cons_of_mem record hother)
    rw [readPlain?] at hrest
    rw [readPlain?, List.flatMap_cons, recordsFrom_lineForm (h record List.mem_cons_self), hrest]
    rfl

/-! ## Texts -/

/-- Texts that are written line by line are read back. -/
theorem readTexts?_lines {records : List (List String)} (h : ∀ record ∈ records, record ≠ []) :
    readTexts? (records.flatMap fun record => lineForm (record.map Text.stringBytes)) =
      some records := by
  have hlines : (records.flatMap fun record => lineForm (record.map Text.stringBytes)) =
      (records.map (·.map Text.stringBytes)).flatMap lineForm := by
    rw [List.flatMap_map]
  have hne : ∀ record ∈ records.map (·.map Text.stringBytes), record ≠ [] := by
    intro record hrecord
    obtain ⟨texts, htexts, rfl⟩ := List.mem_map.1 hrecord
    simpa using h texts htexts
  have htexts : (records.map (·.map Text.stringBytes)).mapM (·.mapM Text.textOf?) = some records :=
    mapM_map_some fun record _ => mapM_map_some fun s _ => Text.textOf?_stringBytes s
  rw [readTexts?, hlines, readPlain?_lines hne]
  exact htexts

end SynthTable.Csv
