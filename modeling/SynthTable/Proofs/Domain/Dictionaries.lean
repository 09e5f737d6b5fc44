import SynthTable.Domain.Draw
import SynthTable.Proofs.Domain.Listed
import SynthTable.Proofs.Draw.Capacity
import SynthTable.Proofs.Table.Fields
import SynthTable.Proofs.Text.Parts

/-!
# Entries of dictionaries

A dictionary gives the entries that its lines hold, or one that stands in where no line holds any
(`Dictionary.mem_entriesOf_iff`); for the file of a user it is the same with its records
(`Dictionary.mem_records_iff`). Filters keep the entries that meet them, or all where none does
(`Dictionary.mem_ofCountries_iff`, `Dictionary.mem_matching_iff`). So there is always an entry to
draw, and a column without derivation never draws nothing: its value is an entry that meets the
filters if any entry does (`Field.chosen_of_build`).
-/

namespace SynthTable

namespace Dictionary

variable {α : Type} {standIn e : α} {table : AssetTable} {entries : List α}
  {filters : List String}

/-! ## What is loaded -/

/-- One of the entries that are read, or the one that stands in if none is. -/
def Loaded (read : α → Prop) (standIn e : α) : Prop := read e ∨ (∀ e', ¬ read e') ∧ e = standIn

/-- The entries that the lines of a table hold. -/
def HeldBy (readEntry : List String → Option α) (table : AssetTable) (e : α) : Prop :=
  ∃ line ∈ table.records, readEntry line = some e

/-- The records of the file of a user that can be read and has a field of the name that stands for a
record. -/
inductive RecordOf (source : AssetSource) (path : String) (separator : UInt8) (mainField : String) :
    CsvRecord → Prop where
  | intro {table index fields} : source.table path separator = .ok table →
      table.header.findIdx? (· = mainField) = some index → fields ∈ table.records →
      RecordOf source path separator mainField ⟨table.header, fields, index⟩

theorem loaded_nil : Loaded (· ∈ ([] : List α)) standIn e ↔ e = standIn := by simp [Loaded]

theorem loaded_cons {first : α} : Loaded (· ∈ first :: entries) standIn e ↔ e ∈ first :: entries :=
  or_iff_left fun h => h.1 first List.mem_cons_self

theorem mem_entriesOf_iff {readEntry : List String → Option α} :
    e ∈ entriesOf readEntry standIn table ↔ Loaded (HeldBy readEntry table) standIn e := by
  have hread : HeldBy readEntry table = (· ∈ table.records.filterMap readEntry) :=
    funext fun _ => propext List.mem_filterMap.symm
  rw [hread, entriesOf]
  cases table.records.filterMap readEntry with
  | nil => exact List.mem_singleton.trans loaded_nil.symm
  | cons => exact loaded_cons.symm

theorem entriesOf_ne_nil (readEntry : List String → Option α) (standIn : α) (table : AssetTable) :
    entriesOf readEntry standIn table ≠ [] := by
  rw [entriesOf]
  cases table.records.filterMap readEntry <;> simp

theorem mem_records_iff {source : AssetSource} {path mainField : String} {separator : UInt8}
    {r : CsvRecord} : r ∈ records source path separator mainField ↔
      Loaded (RecordOf source path separator mainField) (.single mainField "") r := by
  unfold records
  cases htable : source.table path separator with
  | error fault =>
    have hnone : ∀ r', ¬ RecordOf source path separator mainField r' := by
      rintro _ ⟨h, -, -⟩
      exact nomatch htable.symm.trans h
    simp [Loaded, hnone]
  | ok table =>
    cases hindex : table.header.findIdx? (· = mainField) with
    | none =>
      have hnone : ∀ r', ¬ RecordOf source path separator mainField r' := by
        rintro _ ⟨h, h', -⟩
        cases htable.symm.trans h
        exact nomatch hindex.symm.trans h'
      simp [Loaded, hindex, hnone]
    | some index =>
      have hread : RecordOf source path separator mainField =
          (· ∈ table.records.map fun fields => ⟨table.header, fields, index⟩) := by
        funext r'
        rw [eq_iff_iff, List.mem_map]
        constructor
        · rintro ⟨h, h', hfields⟩
          cases htable.symm.trans h
          cases hindex.symm.trans h'
          exact ⟨_, hfields, rfl⟩
        · rintro ⟨fields, hfields, rfl⟩
          exact .intro htable hindex hfields
      simp only [hread, hindex]
      cases table.records.map fun fields => CsvRecord.mk table.header fields index with
      | nil => exact List.mem_singleton.trans loaded_nil.symm
      | cons => exact loaded_cons.symm

theorem records_ne_nil (source : AssetSource) (path : String) (separator : UInt8)
    (mainField : String) : records source path separator mainField ≠ [] := by
  unfold records
  dsimp only
  split
  · exact List.cons_ne_nil _ _
  · split
    · exact List.cons_ne_nil _ _
    · split
      · exact List.cons_ne_nil _ _
      · assumption

/-! ## What the filters keep -/

theorem mem_keptOrAll_iff {keep : α → Bool} : e ∈ keptOrAll keep entries ↔
    e ∈ entries ∧ ((∃ e' ∈ entries, keep e' = true) → keep e = true) := by
  unfold keptOrAll
  split
  · next hnone =>
    have hnone' : ¬ ∃ e' ∈ entries, keep e' = true := by simpa using hnone
    simp [hnone']
  · next hsome =>
    obtain ⟨e', he'⟩ := List.exists_mem_of_ne_nil _ hsome
    rw [List.mem_filter] at he' ⊢
    exact and_congr_right fun _ => ⟨fun hkeep _ => hkeep, fun h => h ⟨e', he'⟩⟩

theorem keptOrAll_ne_nil (keep : α → Bool) (h : entries ≠ []) : keptOrAll keep entries ≠ [] := by
  unfold keptOrAll
  split
  · exact h
  · assumption

/-- Some filter is the country, up to the case of the letters A to Z and blanks around the
filter. -/
def InCountries (filters : List String) (country : String) : Prop :=
  ∃ filter ∈ filters,
    (Text.trim filter.toList).map Text.asciiLower = country.toList.map Text.asciiLower

/-- The record meets each filter that is a condition `name=value`: its field of the name is the
value, both without the blanks around them. -/
def MeetsConditions (filters : List String) (r : CsvRecord) : Prop :=
  ∀ filter ∈ filters, ∀ name value, filter.toList = name ++ '=' :: value → '=' ∉ name →
    r.get? (String.ofList (Text.trim name)) = some (String.ofList (Text.trim value))

theorem any_namesCountry_iff {country : String} :
    filters.any (namesCountry country) = true ↔ InCountries filters country := by
  simp [InCountries, namesCountry, Text.equalIgnoringAsciiCase]

/-- Filters by country keep the entries of the countries that they name, or all if they name the
country of none. -/
theorem mem_ofCountries_iff {country : α → String} : e ∈ ofCountries country filters entries ↔
    e ∈ entries ∧ ((∃ e' ∈ entries, InCountries filters (country e')) →
      InCountries filters (country e)) := by
  simp only [← any_namesCountry_iff]
  unfold ofCountries
  split
  · next hempty =>
    rw [List.isEmpty_iff] at hempty
    simp [hempty]
  · exact mem_keptOrAll_iff

theorem ofCountries_ne_nil (country : α → String) (filters : List String) (h : entries ≠ []) :
    ofCountries country filters entries ≠ [] := by
  unfold ofCountries
  split
  · exact h
  · exact keptOrAll_ne_nil _ h

theorem meetsConditions_iff {r : CsvRecord} : MeetsConditions filters r ↔
    ∀ c ∈ conditions filters, r.get? c.1 = some c.2 := by
  constructor
  · intro h c hc
    obtain ⟨filter, hfilter, hcut⟩ := List.mem_filterMap.1 hc
    obtain ⟨⟨name, value⟩, hparts, rfl⟩ := Option.map_eq_some_iff.1 hcut
    obtain ⟨hwhole, hname⟩ := Text.cutFirst?_eq_some_iff.1 hparts
    exact h filter hfilter name value hwhole hname
  · intro h filter hfilter name value hwhole hname
    refine h (_, _) (List.mem_filterMap.2 ⟨filter, hfilter, ?_⟩)
    rw [Text.cutFirst?_eq_some_iff.2 ⟨hwhole, hname⟩]
    rfl

/-- Conditions keep the records that meet them all, or all records if none does. -/
theorem mem_matching_iff {r : CsvRecord} {all : List CsvRecord} : r ∈ matching filters all ↔
    r ∈ all ∧ ((∃ r' ∈ all, MeetsConditions filters r') → MeetsConditions filters r) := by
  simp only [meetsConditions_iff]
  unfold matching
  dsimp only
  split
  · next hempty =>
    rw [List.isEmpty_iff] at hempty
    simp [hempty]
  · rw [mem_keptOrAll_iff]
    simp

theorem matching_ne_nil (filters : List String) {all : List CsvRecord} (h : all ≠ []) :
    matching filters all ≠ [] := by
  unfold matching
  dsimp only
  split
  · exact h
  · exact keptOrAll_ne_nil _ h

/-! ## Chosen entries -/

/-- One of the entries loaded, which meets the filters if any of them does. -/
def Chosen {α : Type} (loaded meets : α → Prop) (e : α) : Prop :=
  loaded e ∧ ((∃ e', loaded e' ∧ meets e') → meets e)

/-- A city of the dictionary that the filters choose. -/
def ChosenCity (table : AssetTable) (filters : List String) : City → Prop :=
  Chosen (Loaded (HeldBy city? table) .standIn) fun city => InCountries filters city.country

/-- A first name of the dictionary that the filters choose. -/
def ChosenName (table : AssetTable) (filters : List String) : PersonName → Prop :=
  Chosen (Loaded (HeldBy personName? table) .standIn) fun name => InCountries filters name.country

/-- A record of the file of a user that the filters choose. -/
def ChosenRecord (assets : AssetSource) (source : CsvSource) (separator : UInt8)
    (filters : List String) : CsvRecord → Prop :=
  Chosen (Loaded (RecordOf assets source.path separator source.mainField)
    (.single source.mainField "")) (MeetsConditions filters)

theorem mem_ofCountries_entriesOf_iff {readEntry : List String → Option α} {country : α → String} :
    e ∈ ofCountries country filters (entriesOf readEntry standIn table) ↔
      Chosen (Loaded (HeldBy readEntry table) standIn)
        (fun e => InCountries filters (country e)) e := by
  simp only [mem_ofCountries_iff, mem_entriesOf_iff, Chosen]

theorem mem_matching_records_iff {assets : AssetSource} {source : CsvSource} {separator : UInt8}
    {r : CsvRecord} :
    r ∈ matching filters (records assets source.path separator source.mainField) ↔
      ChosenRecord assets source separator filters r := by
  simp only [mem_matching_iff, mem_records_iff, ChosenRecord, Chosen]

end Dictionary

/-! ## What is drawn -/

namespace Domain

open Dictionary

variable {c : Column} {assets : AssetSource} {domain : Domain} {column : String}
  {σ : Type} [RandomSource σ]

theorem drawn_drawEntry_fst {α : Type} {toValue : α → Value} {entries : PickList α} {w : World σ}
    {a : α} (h : (entries.draw w.source).1 = some a) :
    (drawn (drawEntry toValue entries) w).1 = .ok (toValue a) := by
  rcases hdraw : entries.draw w.source with ⟨a?, s⟩
  obtain rfl : a? = some a := by rw [← h, hdraw]
  simp only [drawn, World.draw, drawEntry, hdraw]

theorem exists_table_of_ofAsset {α : Type} {x : Except AssetError AssetTable}
    {f : AssetTable → α} {a : α} (h : ofAsset (x.map f) = .ok a) :
    ∃ table, x = .ok table ∧ f table = a := by
  cases x with
  | error fault => cases h
  | ok table => exact ⟨table, rfl, Except.ok.inj h⟩

theorem generate_city (hbuild : build c assets = .ok domain) (hkind : c.kind = .city)
    (w : World σ) : ∃ table city, assets.dictionary citiesPath = .ok table ∧
      ChosenCity table c.filters city ∧ (generate column domain w).1 = .ok (.city city) := by
  rw [build, hkind] at hbuild
  obtain ⟨all, hall, hbuild⟩ := exists_ok_of_bind hbuild
  obtain ⟨table, htable, rfl⟩ := exists_table_of_ofAsset hall
  cases hbuild
  obtain ⟨city, hcity, hdraw⟩ := PickList.exists_draw_byMagnitude City.population
    (ofCountries_ne_nil City.country c.filters (entriesOf_ne_nil city? .standIn table)) w.source
  exact ⟨table, city, htable, mem_ofCountries_entriesOf_iff.1 hcity, drawn_drawEntry_fst hdraw⟩

theorem generate_name (hbuild : build c assets = .ok domain) (hkind : c.kind = .name)
    (w : World σ) : ∃ table name, assets.dictionary namesPath = .ok table ∧
      ChosenName table c.filters name ∧ (generate column domain w).1 = .ok (.name name) := by
  rw [build, hkind] at hbuild
  obtain ⟨all, hall, hbuild⟩ := exists_ok_of_bind hbuild
  obtain ⟨table, htable, rfl⟩ := exists_table_of_ofAsset hall
  cases hbuild
  obtain ⟨name, hname, hdraw⟩ := PickList.exists_draw_uniform
    (ofCountries_ne_nil PersonName.country c.filters (entriesOf_ne_nil personName? .standIn table))
    w.source
  exact ⟨table, name, htable, mem_ofCountries_entriesOf_iff.1 hname, drawn_drawEntry_fst hdraw⟩

/-- Where no country is listed, the countries of the chosen cities are drawn. -/
theorem generate_country (hbuild : build c assets = .ok domain) (hkind : c.kind = .country)
    (hnone : c.DrawsNone) (w : World σ) :
    ∃ table city, assets.dictionary citiesPath = .ok table ∧ ChosenCity table c.filters city ∧
      (generate column domain w).1 = .ok (.text city.country) := by
  rw [build, hkind] at hbuild
  obtain ⟨values, hvalues, hbuild⟩ := exists_ok_of_bind hbuild
  rw [if_pos (isEmpty_listed_of_drawsNone hvalues hnone)] at hbuild
  obtain ⟨all, hall, hbuild⟩ := exists_ok_of_bind hbuild
  obtain ⟨table, htable, rfl⟩ := exists_table_of_ofAsset hall
  cases hbuild
  have hkept := ofCountries_ne_nil City.country c.filters (entriesOf_ne_nil city? .standIn table)
  obtain ⟨some', hsome⟩ := List.exists_mem_of_ne_nil _ hkept
  obtain ⟨country, hcountry, hdraw⟩ := PickList.exists_draw_uniform
    (List.ne_nil_of_mem (Names.mem_ofList.2 (List.mem_map_of_mem hsome))) w.source
  obtain ⟨city, hcity, rfl⟩ := List.mem_map.1 (Names.mem_ofList.1 hcountry)
  exact ⟨table, city, htable, mem_ofCountries_entriesOf_iff.1 hcity, drawn_drawEntry_fst hdraw⟩

theorem generate_csv (hbuild : build c assets = .ok domain) (hkind : c.kind = .csv)
    (w : World σ) : ∃ source separator record, c.source? = some source ∧
      Text.stringBytes source.separator = [separator] ∧
      ChosenRecord assets source separator c.filters record ∧
      (generate column domain w).1 = .ok (.record record) := by
  rw [build, hkind] at hbuild
  dsimp only [buildCsv] at hbuild
  split at hbuild
  · cases hbuild
  · next source hsource =>
    split at hbuild
    · next separator hseparator =>
      cases hbuild
      obtain ⟨record, hrecord, hdraw⟩ := PickList.exists_draw_uniform
        (matching_ne_nil c.filters (records_ne_nil assets source.path separator source.mainField))
        w.source
      exact ⟨source, separator, record, hsource, hseparator, mem_matching_records_iff.1 hrecord,
        drawn_drawEntry_fst hdraw⟩
    · cases hbuild

end Domain

namespace Field

open Dictionary

variable {c : Column} {assets : AssetSource} {f : Field}

/-- A built column without derivation never draws nothing from a dictionary, whatever the
dictionary, the filters and the words are: a city, a first name or a record that the filters choose,
or the country of such a city where no country is listed. -/
theorem chosen_of_build (hbuild : build c assets = .ok f) (hdrawn : c.derivation? = none)
    {σ : Type} [RandomSource σ] (row : Row) (w : World σ) :
    (c.kind = .city → ∃ table city, assets.dictionary citiesPath = .ok table ∧
      ChosenCity table c.filters city ∧ (f.valueFor row w).1 = .ok (.ok (.city city))) ∧
    (c.kind = .name → ∃ table name, assets.dictionary namesPath = .ok table ∧
      ChosenName table c.filters name ∧ (f.valueFor row w).1 = .ok (.ok (.name name))) ∧
    (c.kind = .csv → ∃ source separator record, c.source? = some source ∧
      Text.stringBytes source.separator = [separator] ∧
      ChosenRecord assets source separator c.filters record ∧
      (f.valueFor row w).1 = .ok (.ok (.record record))) ∧
    (c.kind = .country → c.DrawsNone → ∃ table city, assets.dictionary citiesPath = .ok table ∧
      ChosenCity table c.filters city ∧ (f.valueFor row w).1 = .ok (.ok (.text city.country))) := by
  obtain ⟨domain, hdomain, rfl⟩ := (build_eq_ok_iff_of_drawn hdrawn).1 hbuild
  refine ⟨fun hkind => ?_, fun hkind => ?_, fun hkind => ?_, fun hkind hnone => ?_⟩
  · obtain ⟨table, city, htable, hcity, hvalue⟩ := Domain.generate_city hdomain hkind w
    exact ⟨table, city, htable, hcity, valueFor_fst_of_drawn rfl hvalue⟩
  · obtain ⟨table, name, htable, hname, hvalue⟩ := Domain.generate_name hdomain hkind w
    exact ⟨table, name, htable, hname, valueFor_fst_of_drawn rfl hvalue⟩
  · obtain ⟨source, separator, record, hsource, hseparator, hrecord, hvalue⟩ :=
      Domain.generate_csv hdomain hkind w
    exact ⟨source, separator, record, hsource, hseparator, hrecord,
      valueFor_fst_of_drawn rfl hvalue⟩
  · obtain ⟨table, city, htable, hcity, hvalue⟩ := Domain.generate_country hdomain hkind hnone w
    exact ⟨table, city, htable, hcity, valueFor_fst_of_drawn rfl hvalue⟩

/-- Cities of one country, named in small letters with blanks around it. -/
def frenchCities : Column := { Column.plain "c" .city with filters := [" france "] }

/-- A dictionary of two cities and a line of another form. -/
def twoCities : AssetSource :=
  ⟨"", fun _ => .bytes (Text.stringBytes "Rome;42;12;Italy;2800\nnone\nLyon;46;5;France;500\n"),
    fun _ => .missing⟩

theorem chosen_frenchCities : frenchCities.derivation? = none ∧
    ∃ f, build frenchCities twoCities = .ok f ∧
      ∀ {σ : Type} [RandomSource σ] (row : Row) (w : World σ),
        (f.valueFor row w).1 = .ok (.ok (.city ⟨"Lyon", "46", "5", "France", 500⟩)) := by
  have hsome : (Domain.build frenchCities twoCities).toOption.isSome = true := by decide +kernel
  obtain ⟨domain, hdomain⟩ := Option.isSome_iff_exists.1 hsome
  have hbuild := (build_eq_ok_iff_of_drawn (c := frenchCities) rfl).2
    ⟨domain, eq_ok_of_toOption hdomain, rfl⟩
  refine ⟨rfl, _, hbuild, fun row w => ?_⟩
  obtain ⟨table, city, htable, ⟨hloaded, hmeets⟩, hvalue⟩ :=
    (chosen_of_build hbuild rfl row w).1 rfl
  have hread : twoCities.dictionary citiesPath = .ok ⟨[], [["Rome", "42", "12", "Italy", "2800"],
      ["none"], ["Lyon", "46", "5", "France", "500"]], false⟩ := by decide +kernel
  cases hread.symm.trans htable
  have hheld : HeldBy city? ⟨[], [["Rome", "42", "12", "Italy", "2800"], ["none"],
      ["Lyon", "46", "5", "France", "500"]], false⟩ ⟨"Lyon", "46", "5", "France", 500⟩ :=
    ⟨["Lyon", "46", "5", "France", "500"], by simp, by decide +kernel⟩
  obtain ⟨filter, hfilter, hcountry⟩ :=
    hmeets ⟨_, .inl hheld, " france ", List.mem_cons_self, by decide⟩
  obtain rfl := List.mem_singleton.1 hfilter
  rcases hloaded with ⟨line, hline, hcity⟩ | ⟨hnone, -⟩
  · simp only [List.mem_cons, List.not_mem_nil, or_false] at hline
    rcases hline with rfl | rfl | rfl
    · cases hcity.symm.trans (show _ = some ⟨"Rome", "42", "12", "Italy", 2800⟩ by decide +kernel)
      exact absurd hcountry (by decide)
    · cases hcity
    · cases hcity.symm.trans (show _ = some ⟨"Lyon", "46", "5", "France", 500⟩ by decide +kernel)
      exact hvalue
  · exact absurd hheld (hnone _)

end Field

end SynthTable
