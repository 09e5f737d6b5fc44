import SynthTable.Calendar.Format
import SynthTable.Json.Writer
import SynthTable.Number.Decimal
import SynthTable.Text.Blank
import SynthTable.Text.Hex
import SynthTable.Value.Record
import SynthTable.Value.Uuid

/-!
# Values

The values of cells: nothing, scalars, dates and records with attributes. Every value has a text,
and a form in JSON documents.
-/

namespace SynthTable

/-- The value of a cell. -/
inductive Value where
  | null
  | bool (b : Bool)
  | int (n : Int64)
  | float (x : Double)
  | text (s : String)
  | bytes (b : List UInt8)
  | uuid (u : Uuid)
  | date (d : Date)
  | timestamp (t : DateTime)
  | city (c : City)
  | name (n : PersonName)
  | record (r : CsvRecord)
  deriving DecidableEq, Inhabited

namespace Value

/-- Whether there is no value. -/
def isNull : Value → Bool
  | .null => true
  | _ => false

/-- The text of a value. -/
def toText : Value → String
  | .null => ""
  | .bool b => toString b
  | .int n => toString n.toInt
  | .float x => x.toText
  | .text s => s
  | .bytes b => String.ofList (Text.hexOfBytes b)
  | .uuid u => u.toText
  | .date d => d.toText
  | .timestamp t => t.toText
  | .city c => c.name
  | .name n => n.firstName
  | .record r => r.mainValue

/-- The text of values that are texts or records. -/
def string? : Value → Option String
  | .text s => some s
  | .city c => some c.name
  | .name n => some n.firstName
  | .record r => some r.mainValue
  | _ => none

/-- The number of values that are numbers or texts of one. -/
def double? : Value → Option Double
  | .int n => some (.ofInt n.toInt)
  | .float x => some x
  | .text s => Numeral.double? (Text.trim s.toList)
  | _ => none

/-- The integer of values that are whole numbers or texts of an integer. -/
def int64? : Value → Option Int64
  | .int n => some n
  | .float x => if x.isWhole then some x.toInt64 else none
  | .text s => Numeral.int64? (Text.trim s.toList)
  | _ => none

/-- The attribute of a name. -/
def attribute? (v : Value) (name : String) : Option String :=
  match v with
  | .city c => c.attribute? name
  | .name n => n.attribute? name
  | .record r => r.get? name
  | _ => none

/-- The value in a JSON document; all but nothing, truth values and numbers as texts. -/
def toJson : Value → Json
  | .null => .null
  | .bool b => .bool b
  | .int n => .integer n.toInt
  | .float x => if x.isFinite then .float x else .null
  | v => .string v.toText

end Value

end SynthTable
