import SynthTable.Domain.Cast
import SynthTable.Proofs.Domain.Dictionaries

/-!
# Attributes of the values of a domain

Cities, first names and the records of a file have attributes. A domain that shows an attribute
draws no value without it (`answers_of_generate`), and a text that is cast becomes a value with the
attribute unless it strays: it stands for no record, and the record made up for it has only the
field that stands for it (`answers_cast_iff`). Made-up cities and names have all attributes.
-/

namespace SynthTable

/-- A value has an attribute. -/
def Value.Answers (v : Value) (name : String) : Prop := ∃ text, v.attribute? name = some text

section

variable {name : String}

/-! ## Values -/

theorem City.answers (c : City) (h : name ∈ ColumnKind.cityAttributes) :
    (Value.city c).Answers name := by
  simp only [ColumnKind.cityAttributes, List.mem_cons, List.not_mem_nil, or_false] at h
  rcases h with rfl | rfl | rfl | rfl | rfl | rfl | rfl <;> exact ⟨_, rfl⟩

theorem PersonName.answers (n : PersonName) (h : name ∈ ColumnKind.nameAttributes) :
    (Value.name n).Answers name := by
  simp only [ColumnKind.nameAttributes, List.mem_cons, List.not_mem_nil, or_false] at h
  rcases h with rfl | rfl | rfl | rfl | rfl | rfl | rfl <;> exact ⟨_, rfl⟩

/-- A record answers the names of its header. -/
theorem CsvRecord.answers_iff (r : CsvRecord) :
    (Value.record r).Answers name ↔ name ∈ r.header := by
  show (∃ text, (r.header.findIdx? (· = name)).map _ = some text) ↔ _
  rw [← Option.isSome_iff_exists, Option.isSome_map, List.findIdx?_isSome]
  simp

/-! ## Records of a file -/

theorem Dictionary.matching_subset (filters : List String) (records : List CsvRecord) :
    matching filters records ⊆ records :=
  fun _ hr => (mem_matching_iff.1 hr).1

/-- The records of a file have one header. -/
theorem Dictionary.header_records (source : AssetSource) (path : String) (separator : UInt8)
    (mainField : String) :
    ∃ header, ∀ r ∈ records source path separator mainField, r.header = header := by
  have hstandIn : ∃ header, ∀ r ∈ [CsvRecord.single mainField ""], r.header = header :=
    ⟨[mainField], fun r hr => by rw [List.mem_singleton.1 hr]; rfl⟩
  unfold records
  dsimp only
  split
  · exact hstandIn
  · next table _ =>
    split
    · exact hstandIn
    · split
      · exact hstandIn
      · refine ⟨table.header, fun r hr => ?_⟩
        obtain ⟨fields, -, rfl⟩ := List.mem_map.1 hr
        rfl

end

namespace Domain

/-! ## Domains -/

/-- The values of a domain have an attribute: it is one of cities or names, or all records of the
file have a field of this name and only these are drawn. -/
def Shows : Domain → String → Prop
  | .city _ _, shown => shown ∈ ColumnKind.cityAttributes
  | .name _ _, shown => shown ∈ ColumnKind.nameAttributes
  | .csv _ all pick, shown => (∀ r ∈ all, shown ∈ r.header) ∧ ∀ e ∈ pick.entries, e.1 ∈ all
  | _, _ => False

/-- A text stands for no record of the file, and the attribute is not the field that stands for a
record. -/
def Strays : Domain → String → String → Prop
  | .csv mainField all _, written, shown =>
    (∀ r ∈ all, r.mainValue ≠ written) ∧ shown ≠ mainField
  | _, _, _ => False

variable {domain : Domain} {name : String}

theorem null_or_entry_of_drawn {σ α : Type} [RandomSource σ] {toValue : α → Value}
    {entries : PickList α} {w w' : World σ} {v : Value}
    (h : drawn (drawEntry toValue entries) w = (.ok v, w')) :
    v = .null ∨ ∃ e ∈ entries.entries, v = toValue e.1 := by
  rcases hdraw : entries.draw w.source with ⟨_ | a, s⟩
  · simp only [drawn, World.draw, drawEntry, hdraw, Prod.mk.injEq, Except.ok.injEq] at h
    exact .inl h.1.symm
  · simp only [drawn, World.draw, drawEntry, hdraw, Prod.mk.injEq, Except.ok.injEq] at h
    obtain ⟨e, he, rfl⟩ := PickList.mem_entries_of_draw (congrArg Prod.fst hdraw)
    exact .inr ⟨e, he, h.1.symm⟩

/-- What a domain draws has the attributes that it shows. -/
theorem answers_of_generate {σ : Type} [RandomSource σ] (hshows : domain.Shows name)
    {column : String} {w w' : World σ} {v : Value}
    (h : generate column domain w = (.ok v, w')) : v = .null ∨ v.Answers name := by
  cases domain with
  | city all pick =>
    rcases null_or_entry_of_drawn h with hnull | ⟨e, -, rfl⟩
    · exact .inl hnull
    · exact .inr (City.answers e.1 hshows)
  | name all pick =>
    rcases null_or_entry_of_drawn h with hnull | ⟨e, -, rfl⟩
    · exact .inl hnull
    · exact .inr (PersonName.answers e.1 hshows)
  | csv mainField all pick =>
    rcases null_or_entry_of_drawn h with hnull | ⟨e, he, rfl⟩
    · exact .inl hnull
    · exact .inr ((CsvRecord.answers_iff e.1).2 (hshows.1 e.1 (hshows.2 e he)))
  | _ => exact hshows.elim

/-- What a text is cast to has the attributes that the domain shows, unless the text strays. -/
theorem answers_cast_iff (hshows : domain.Shows name) {text : String} {v : Value}
    (h : domain.cast text = .ok v) : v.Answers name ↔ ¬ domain.Strays text name := by
  cases domain with
  | city all pick =>
    cases h
    exact ⟨fun _ hstrays => hstrays, fun _ => City.answers _ hshows⟩
  | name all pick =>
    cases h
    exact ⟨fun _ hstrays => hstrays, fun _ => PersonName.answers _ hshows⟩
  | csv mainField all pick =>
    cases h
    rw [CsvRecord.answers_iff, recordFor]
    cases hfind : all.find? (·.mainValue = text) with
    | some r =>
      have hr := List.mem_of_find?_eq_some hfind
      have hmain : r.mainValue = text := by simpa using List.find?_some hfind
      exact ⟨fun _ hstrays => hstrays.1 r hr hmain, fun _ => hshows.1 r hr⟩
    | none =>
      have hnone : ∀ r ∈ all, r.mainValue ≠ text := by simpa using hfind
      have hheader : name ∈ (CsvRecord.single mainField text).header ↔ name = mainField :=
        List.mem_singleton
      rw [Option.getD_none, hheader]
      exact ⟨fun heq hstrays => hstrays.2 heq, fun hnot => by_contra fun hne => hnot ⟨hnone, hne⟩⟩
  | _ => exact hshows.elim

/-- The domain of the records of a column draws from the file, whose records have one header. -/
theorem records_of_buildCsv {c : Column} {assets : AssetSource} {mainField : String}
    {all : List CsvRecord} {pick : PickList CsvRecord}
    (h : buildCsv c assets = .ok (.csv mainField all pick)) :
    (∃ header, ∀ r ∈ all, r.header = header) ∧ ∀ e ∈ pick.entries, e.1 ∈ all := by
  unfold buildCsv at h
  split at h
  · cases h
  · next source _ =>
    split at h
    · next separator _ =>
      cases h
      refine ⟨Dictionary.header_records assets source.path separator source.mainField, ?_⟩
      intro e he
      exact Dictionary.matching_subset _ _ (PickList.mem_of_mem_uniform he)
    · cases h

/-- Only columns of records have a domain of records. -/
theorem buildCsv_of_build {c : Column} {assets : AssetSource} {mainField : String}
    {all : List CsvRecord} {pick : PickList CsvRecord}
    (h : build c assets = .ok (.csv mainField all pick)) :
    buildCsv c assets = .ok (.csv mainField all pick) := by
  unfold build at h
  cases hkind : c.kind <;> simp only [hkind] at h
  case csv => exact h
  case uuid => cases h
  all_goals
    simp only [buildInteger, buildFloat, buildDate, buildBirthdate, buildPattern, patternOf,
      buildCountry, bind, Except.bind] at h
    repeat' split at h
    all_goals cases h

end Domain

end SynthTable
