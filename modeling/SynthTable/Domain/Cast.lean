import SynthTable.Digest.Sha256
import SynthTable.Domain.Build
import SynthTable.Row.CellError
import SynthTable.Value.Basic

/-!
# Casting texts

The text of a computation is read as a value of the column. Dictionary entries are looked up among
all entries, those that the filters left out included; an unknown name is an entry of its own.
-/

namespace SynthTable.Domain

/-- An integer; a whole number in another notation will do below 9 · 10^18. -/
def readInteger? (text : String) : Option Int64 :=
  let cs := Text.trim text.toList
  match Numeral.int64? cs with
  | some n => some n
  | none =>
    match Numeral.double? cs with
    | some x =>
      if x.isWhole && x.sizeBelow 9000000000000000000 then some x.toInt64 else none
    | none => none

/-- Milliseconds, or a time. -/
def readMilliseconds? (text : String) : Option Int64 :=
  match readInteger? text with
  | some n => some n
  | none => (DateTime.ofText? text).map fun t => .ofInt t.epochMilliseconds

/-- A value if there is one, else an error. -/
def castTo {α : Type} (kind : String) (toValue : α → Value) (text : String) :
    Option α → Except CellError Value
  | some a => .ok (toValue a)
  | none => .error (.cast text kind)

/-- The city of a name in any case, else a city of that name alone. -/
def cityNamed (all : List City) (text : String) : City :=
  let name := Text.trim text.toList
  (all.find? fun c => Text.equalIgnoringAsciiCase c.name.toList name).getD
    (.named (String.ofList name))

/-- The first name in any case, else that name alone. -/
def personNamed (all : List PersonName) (text : String) : PersonName :=
  let name := Text.trim text.toList
  (all.find? fun n => Text.equalIgnoringAsciiCase n.firstName.toList name).getD
    (.named (String.ofList name))

/-- The first record that a text stands for, else a record of that text alone. -/
def recordFor (mainField : String) (all : List CsvRecord) (text : String) : CsvRecord :=
  (all.find? (·.mainValue = text)).getD (.single mainField text)

/-- A text as a value of the domain. -/
def cast (domain : Domain) (text : String) : Except CellError Value :=
  match domain with
  | .text .. | .pattern .. | .ip .. | .country .. | .email .. | .phone .. => .ok (.text text)
  | .integer .. | .counter .. => castTo "integer" .int text (readInteger? text)
  | .float .. => castTo "float" .float text (Numeral.double? (Text.trim text.toList))
  | .boolean .. => castTo "boolean" .bool text (readBool? text)
  | .bytes .. => .ok (.bytes (Text.stringBytes text))
  | .hash .. => .ok (.text (Digest.sha256Hex text))
  | .uuid => castTo "uuid" .uuid text (Uuid.ofText? text)
  | .timestamp .. => castTo "timestamp" .int text (readMilliseconds? text)
  | .date _ _ _ _ (some _) => .ok (.text text)
  | .date _ _ _ _ none => castTo "date" .timestamp text (DateTime.ofText? text)
  | .birthdate .. => castTo "birthdate" .date text (dateOf? text)
  | .name all _ => .ok (.name (personNamed all text))
  | .city all _ => .ok (.city (cityNamed all text))
  | .csv mainField all _ => .ok (.record (recordFor mainField all text))

end SynthTable.Domain
