import SynthTable.Schema.Bound
import SynthTable.Schema.Derivation
import SynthTable.Schema.Kind

/-!
# Schemas

A schema declares the columns of a table in the order in which the cells of a row are generated.
-/

namespace SynthTable

/-- A file whose records are the values of a column. -/
structure CsvSource where
  path : String
  /-- The text between the fields of a record. -/
  separator : String
  /-- The field that stands for the record in texts. -/
  mainField : String
  deriving DecidableEq

/-- The declaration of a column. -/
structure Column where
  name : String
  kind : ColumnKind
  /-- Ghost columns are generated and may be read, but are not written out. -/
  ghost : Bool
  /-- Values to draw from, with their weights. -/
  values : NameMap Int64
  min? : Option Bound
  max? : Option Bound
  /-- Length of random texts and byte strings. -/
  length? : Option Int64
  /-- Countries, or conditions on the fields of records. -/
  filters : List String
  /-- Pattern of random texts. -/
  pattern? : Option String
  /-- Format of dates written as texts. -/
  format? : Option String
  /-- Dates are the present time. -/
  useNow : Bool
  source? : Option CsvSource
  derivation? : Option Derivation

namespace Column

/-- A column with nothing but a name and a kind. -/
def plain (name : String) (kind : ColumnKind) : Column :=
  ⟨name, kind, false, [], none, none, none, [], none, none, false, none, none⟩

/-- A column is computed if it has a derivation. -/
def isComputed (c : Column) : Bool := c.derivation?.isSome

/-- The column names that a column reads. -/
def references (c : Column) : Names :=
  match c.derivation? with
  | some d => d.references
  | none => []

end Column

/-- A declared table. -/
structure Schema where
  version : String
  title? : Option String
  columns : List Column

namespace Schema

/-- The version of schemas that name none. -/
def defaultVersion : String := "0.1"

/-- The first column of a name. -/
def column? (s : Schema) (name : String) : Option Column := s.columns.find? (·.name = name)

/-- The place of the first column of a name. -/
def position? (s : Schema) (name : String) : Option Nat :=
  s.columns.findIdx? (·.name = name)

end Schema

end SynthTable
