import SynthTable.Assets.Source
import SynthTable.Number.Decimal
import SynthTable.Text.Case
import SynthTable.Text.Split
import SynthTable.Value.Record

/-!
# Dictionaries

Cities, first names and dialing codes from dictionaries, and records from the files of users. Lines
of another form are passed over; where nothing is left, one entry stands in. Filters keep entries of
some countries, or records with certain fields; filters that nothing matches keep everything.
-/

namespace SynthTable

namespace Dictionary

/-- The paths of the dictionaries under the root. -/
def citiesPath : String := "dictionaries/cities.csv"

/-- The path of the first names. -/
def namesPath : String := "dictionaries/names.csv"

/-- The path of the dialing codes. -/
def dialCodesPath : String := "dictionaries/phone_prefixes.csv"

/-- A flag is set by the word `true` in any case. -/
def flag (text : String) : Bool :=
  Text.equalIgnoringAsciiCase text.toList ['t', 'r', 'u', 'e']

/-- A city of five fields. -/
def city? : List String → Option City
  | [name, latitude, longitude, country, population] =>
    (Numeral.uint64? population.toList).map fun n => ⟨name, latitude, longitude, country, n⟩
  | _ => none

/-- A first name of five fields. -/
def personName? : List String → Option PersonName
  | [firstName, country, male, female, unisex] =>
    some ⟨firstName, country, flag male, flag female, flag unisex⟩
  | _ => none

/-- A dialing code of two fields. -/
def dialCode? : List String → Option DialCode
  | [indicator, country] => some ⟨indicator, country⟩
  | _ => none

/-- The entries of a table, or the one that stands in. -/
def entriesOf {α : Type} (readEntry : List String → Option α) (standIn : α) (table : AssetTable) :
    List α :=
  match table.records.filterMap readEntry with
  | [] => [standIn]
  | entries => entries

/-- The cities. -/
def cities (source : AssetSource) : Except AssetError (List City) :=
  (source.dictionary citiesPath).map (entriesOf city? .standIn)

/-- The first names. -/
def personNames (source : AssetSource) : Except AssetError (List PersonName) :=
  (source.dictionary namesPath).map (entriesOf personName? .standIn)

/-- The dialing codes. -/
def dialCodes (source : AssetSource) : Except AssetError (List DialCode) :=
  (source.dictionary dialCodesPath).map (entriesOf dialCode? .standIn)

/-- The entries kept by `keep`, or all if it keeps none. -/
def keptOrAll {α : Type} (keep : α → Bool) (entries : List α) : List α :=
  match entries.filter keep with
  | [] => entries
  | kept => kept

/-- Whether a filter names a country. -/
def namesCountry (country filter : String) : Bool :=
  Text.equalIgnoringAsciiCase (Text.trim filter.toList) country.toList

/-- The entries of the countries that the filters name. -/
def ofCountries {α : Type} (country : α → String) (filters : List String) (entries : List α) :
    List α :=
  if filters.isEmpty then entries
  else keptOrAll (fun e => filters.any (namesCountry (country e))) entries

/-- The conditions `field=value` among the filters. -/
def conditions (filters : List String) : List (String × String) :=
  filters.filterMap fun filter =>
    (Text.cutFirst? '=' filter.toList).map fun (name, value) =>
      (String.ofList (Text.trim name), String.ofList (Text.trim value))

/-- The records that meet all conditions among the filters. -/
def matching (filters : List String) (records : List CsvRecord) : List CsvRecord :=
  let conditions := conditions filters
  if conditions.isEmpty then records
  else keptOrAll (fun r => conditions.all fun (name, value) => r.get? name = some value) records

/-- The records of a file of a user; one empty record stands in if the file cannot be read, has no
records, or has no field of the name that stands for a record. -/
def records (source : AssetSource) (path : String) (separator : UInt8) (mainField : String) :
    List CsvRecord :=
  let standIn := [CsvRecord.single mainField ""]
  match source.table path separator with
  | .error _ => standIn
  | .ok table =>
    match table.header.findIdx? (· = mainField) with
    | none => standIn
    | some index =>
      match table.records.map fun fields => ⟨table.header, fields, index⟩ with
      | [] => standIn
      | records => records

end Dictionary

end SynthTable
