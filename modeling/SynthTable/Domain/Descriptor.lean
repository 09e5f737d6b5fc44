import SynthTable.Domain.Basic
import SynthTable.Json.Basic

/-!
# Descriptions of domains

What a report says about a column: its kind, how many values are listed, its bounds and the sizes of
its dictionary.
-/

namespace SynthTable

/-- The description of a column. -/
structure Descriptor where
  column : String
  kind : String
  ghost : Bool
  derivation? : Option String
  /-- The number of listed values. -/
  values : Nat
  totalWeight : Nat
  min? : Option String
  max? : Option String
  length? : Option Nat
  format? : Option String
  dictionaryEntries? : Option Nat
  filteredEntries? : Option Nat
  deriving DecidableEq, Repr

namespace Descriptor

/-- A description without details. -/
def plain (column kind : String) (ghost : Bool) (derivation? : Option String) : Descriptor :=
  ⟨column, kind, ghost, derivation?, 0, 0, none, none, none, none, none, none⟩

/-- The description with the number and the weight of the listed values. -/
def withValues {α : Type} (d : Descriptor) (values : PickList α) : Descriptor :=
  { d with values := values.distinct, totalWeight := values.length }

/-- The description with the details of a domain. -/
def withDomain (d : Descriptor) : Domain → Descriptor
  | .text values length _ => { d.withValues values with length? := some length }
  | .pattern source p => { d with format? := some source, length? := some p.slots.length }
  | .integer values min max =>
    { d.withValues values with
      min? := some (toString min.toInt), max? := some (toString max.toInt) }
  | .float values min max =>
    { d.withValues values with min? := some min.toText, max? := some max.toText }
  | .counter start => { d with min? := some (toString start.toInt) }
  | .boolean values => d.withValues values
  | .bytes values length => { d.withValues values with length? := some length }
  | .hash values length => { d.withValues values with length? := some length }
  | .uuid => d
  | .ip values => d.withValues values
  | .timestamp values => d.withValues values
  | .date values min max _ format? =>
    { d.withValues values with
      min? := (DateTime.ofEpochSeconds? min.toInt).map (·.toText)
      max? := (DateTime.ofEpochSeconds? max.toInt).map (·.toText)
      format? := format?.map (·.1) }
  | .birthdate values min max =>
    { d.withValues values with
      min? := (Date.ofDayNumber? min.toInt).map (·.toText)
      max? := (Date.ofDayNumber? max.toInt).map (·.toText) }
  | .name all pick =>
    { d with dictionaryEntries? := some all.length, filteredEntries? := some pick.distinct }
  | .city all pick =>
    { d with
      dictionaryEntries? := some all.length
      filteredEntries? := some pick.distinct
      totalWeight := pick.length }
  | .country pick listed =>
    if listed then d.withValues pick else { d with dictionaryEntries? := some pick.distinct }
  | .email values names =>
    { d.withValues values with dictionaryEntries? := some names.distinct }
  | .phone values codes =>
    { d.withValues values with filteredEntries? := some codes.distinct }
  | .csv _ all pick =>
    { d with dictionaryEntries? := some all.length, filteredEntries? := some pick.distinct }

/-- The description as a JSON object. -/
def toJson (d : Descriptor) : Json :=
  .object (
    [("column", .string d.column), ("kind", .string d.kind), ("ghost", .bool d.ghost)] ++
    Json.optionalMember "derivation" .string d.derivation? ++
    [("values", .ofNat d.values), ("total_weight", .ofNat d.totalWeight)] ++
    Json.optionalMember "min" .string d.min? ++
    Json.optionalMember "max" .string d.max? ++
    Json.optionalMember "length" .ofNat d.length? ++
    Json.optionalMember "format" .string d.format? ++
    Json.optionalMember "dictionary_entries" .ofNat d.dictionaryEntries? ++
    Json.optionalMember "filtered_entries" .ofNat d.filteredEntries?)

end Descriptor

end SynthTable
