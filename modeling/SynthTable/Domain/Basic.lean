import SynthTable.Calendar.Format
import SynthTable.Draw.Pattern
import SynthTable.Draw.PickList
import SynthTable.Schema.Kind
import SynthTable.Value.Record

/-!
# Domains

The domain of a column holds what its values are drawn from: listed values with their weights, and
what applies where none are listed.
-/

namespace SynthTable

/-- What the values of a column are drawn from. -/
inductive Domain where
  /-- Texts of a length over an alphabet. -/
  | text (values : PickList String) (length : Nat) (alphabet : List Char)
  /-- Texts of a pattern. -/
  | pattern (source : String) (pattern : Pattern)
  /-- Integers between two bounds. -/
  | integer (values : PickList Int64) (min max : Int64)
  /-- Doubles between two bounds. -/
  | float (values : PickList Double) (min max : Double)
  /-- The numbers after the first one, each once. -/
  | counter (start : Int64)
  | boolean (values : PickList Bool)
  /-- Bytes of a length. -/
  | bytes (values : PickList (List UInt8)) (length : Nat)
  /-- Digests of texts of a length. -/
  | hash (values : PickList String) (length : Nat)
  | uuid
  | ip (values : PickList String)
  /-- Milliseconds of the present time. -/
  | timestamp (values : PickList Int64)
  /-- Times between two seconds, or the present one; as texts if there is a format. -/
  | date (values : PickList DateTime) (min max : Int64) (useNow : Bool)
      (format? : Option (String × DateFormat))
  /-- Dates between two days. -/
  | birthdate (values : PickList Date) (min max : Int64)
  | name (all : List PersonName) (pick : PickList PersonName)
  | city (all : List City) (pick : PickList City)
  | country (pick : PickList String) (listed : Bool)
  | email (values : PickList String) (names : PickList PersonName)
  | phone (values : PickList String) (codes : PickList DialCode)
  | csv (mainField : String) (all : List CsvRecord) (pick : PickList CsvRecord)

namespace Domain

/-- The small letters. -/
def smallLetters : List Char := "abcdefghijklmnopqrstuvwxyz".toList

/-- The letters. -/
def letters : List Char := smallLetters ++ "ABCDEFGHIJKLMNOPQRSTUVWXYZ".toList

/-- The letters and digits. -/
def alphanumeric : List Char := letters ++ "0123456789".toList

/-- Kinds whose empty texts are values; an empty text of another kind is no value. -/
def keepsEmptyText : ColumnKind → Bool
  | .string | .stringAz | .stringRegex | .ip | .dateAsString | .country | .email | .phone => true
  | _ => false

end Domain

end SynthTable
