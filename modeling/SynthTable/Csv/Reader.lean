import SynthTable.Text.Blank
import SynthTable.Text.Utf8

/-!
# Reading separated records

Bytes are cut into records at line ends and into fields at separators. A field that begins with a
quote reaches to its closing quote, a doubled quote standing for one; text after the closing quote
belongs to the field. Blank lines are skipped. Each field must be UTF-8.
-/

namespace SynthTable.Csv

/-- Where the reading of a record began. -/
structure Place where
  /-- The number of records before it. -/
  record : Nat
  /-- The line, from 1 on. -/
  line : Nat
  /-- The number of bytes before it. -/
  byte : Nat
  deriving DecidableEq, Repr

/-- A record in bytes. -/
structure RawRecord where
  place : Place
  fields : List (List UInt8)
  deriving DecidableEq, Repr

/-- What the next byte belongs to. -/
inductive Mode where
  /-- No field of the record has begun. -/
  | recordStart
  | fieldStart
  | plain
  | quoted
  /-- After a quote inside a quoted field. -/
  | afterQuote
  deriving DecidableEq, Repr

/-- The state of the cut: the fields and bytes of the record so far, both in reverse. -/
structure Cut where
  mode : Mode
  place : Place
  fields : List (List UInt8)
  current : List UInt8
  line : Nat
  byte : Nat

namespace Cut

/-- The state before the first byte; `skipped` bytes have been passed over. -/
def initial (skipped : Nat) : Cut := ⟨.recordStart, ⟨0, 1, 0⟩, [], [], 1, skipped⟩

/-- The record that ends here. -/
def record (c : Cut) : RawRecord := ⟨c.place, (c.current.reverse :: c.fields).reverse⟩

/-- The state after a byte that adds nothing. -/
def skip (c : Cut) (b : UInt8) : Cut :=
  { c with line := if b = 10 then c.line + 1 else c.line, byte := c.byte + 1 }

/-- The state after a byte of a field. -/
def push (c : Cut) (mode : Mode) (b : UInt8) : Cut :=
  { c.skip b with mode, current := b :: c.current }

/-- The state after a separator. -/
def nextField (c : Cut) (b : UInt8) : Cut :=
  { c.skip b with mode := .fieldStart, fields := c.current.reverse :: c.fields, current := [] }

/-- The state after the end of a record. -/
def nextRecord (c : Cut) (b : UInt8) : Cut :=
  let c := c.skip b
  ⟨.recordStart, ⟨c.place.record + 1, c.line, c.byte⟩, [], [], c.line, c.byte⟩

end Cut

/-- Line feeds and carriage returns end records. -/
def isLineEnd (b : UInt8) : Bool := b == 10 || b == 13

/-- A byte outside quotes. -/
def stepPlain (separator : UInt8) (c : Cut) (b : UInt8) : Cut × List RawRecord :=
  if b = separator then (c.nextField b, [])
  else if isLineEnd b then (c.nextRecord b, [c.record])
  else (c.push .plain b, [])

/-- A byte at the start of a field. -/
def stepFieldStart (separator : UInt8) (c : Cut) (b : UInt8) : Cut × List RawRecord :=
  if b = 34 then ({ c.skip b with mode := .quoted }, []) else stepPlain separator c b

/-- The state after a byte, and the record that the byte ends, if it does. -/
def step (separator : UInt8) (c : Cut) (b : UInt8) : Cut × List RawRecord :=
  match c.mode with
  | .recordStart => if isLineEnd b then (c.skip b, []) else stepFieldStart separator c b
  | .fieldStart => stepFieldStart separator c b
  | .plain => stepPlain separator c b
  | .quoted =>
    if b = 34 then ({ c.skip b with mode := .afterQuote }, []) else (c.push .quoted b, [])
  | .afterQuote => if b = 34 then (c.push .quoted b, []) else stepPlain separator c b

/-- The records from a state on. -/
def cutFrom (separator : UInt8) (c : Cut) : List UInt8 → List RawRecord
  | [] => if c.mode = .recordStart then [] else [c.record]
  | b :: rest =>
    let (c, done) := step separator c b
    done ++ cutFrom separator c rest

/-- The records of some bytes; a byte order mark in front of them is passed over. -/
def cut (separator : UInt8) (bytes : List UInt8) : List RawRecord :=
  match bytes with
  | 0xEF :: 0xBB :: 0xBF :: rest => cutFrom separator (.initial 3) rest
  | bytes => cutFrom separator (.initial 0) bytes

/-- A field that is no UTF-8. -/
structure EncodingError where
  place : Place
  field : Nat
  /-- The place in the field. -/
  index : Nat
  deriving DecidableEq, Repr

/-- The text of an error. -/
def EncodingError.message (e : EncodingError) : String :=
  "CSV parse error: record " ++ toString e.place.record ++ " (line " ++ toString e.place.line ++
    ", field: " ++ toString e.field ++ ", byte: " ++ toString e.place.byte ++
    "): invalid utf-8: invalid UTF-8 in field " ++ toString e.field ++ " near byte index " ++
    toString e.index

/-- The blanks that are taken off before decoding. -/
def isPlainBlank (b : UInt8) : Bool := b == 32 || b == 9 || b == 10 || b == 12 || b == 13

/-- Bytes without the plain blanks at their ends. -/
def trimBytes (bytes : List UInt8) : List UInt8 :=
  ((bytes.dropWhile isPlainBlank).reverse.dropWhile isPlainBlank).reverse

/-- The texts of the fields from the one at `index` on, without the blanks around them. -/
def decodeFields (place : Place) (index : Nat) :
    List (List UInt8) → Except EncodingError (List String)
  | [] => .ok []
  | field :: rest =>
    match Text.decodeUtf8 field with
    | .error position => .error ⟨place, index, position⟩
    | .ok cs =>
      match decodeFields place (index + 1) rest with
      | .error e => .error e
      | .ok texts => .ok (String.ofList (Text.trim cs) :: texts)

/-- The texts of a record. -/
def RawRecord.decode (r : RawRecord) : Except EncodingError (List String) :=
  decodeFields r.place 0 r.fields

/-- The record without the plain blanks around its fields. -/
def RawRecord.trimmed (r : RawRecord) : RawRecord := { r with fields := r.fields.map trimBytes }

end SynthTable.Csv
