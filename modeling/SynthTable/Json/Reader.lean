import SynthTable.Json.Basic
import SynthTable.Number.Decimal
import SynthTable.Text.Hex

/-!
# Reading JSON

A document is one value with blanks around it. Each reader takes the text from its first character
on and gives the value with the text that follows; it fails where the grammar fails. A number with a
fraction, an exponent or too many digits is read as a double from the leading digits that fit into
64 bits, scaled once by a power of ten.
-/

namespace SynthTable.Json

/-- The blanks of JSON. -/
def isSpace (c : Char) : Bool := c == ' ' || c == '\n' || c == '\t' || c == '\r'

/-- The text without the blanks at its start. -/
def skipSpace (cs : List Char) : List Char := cs.dropWhile isSpace

/-- Digits as far as their value fits into 64 bits: the value, how many digits were left over, and
the rest after all digits. -/
def readSignificand (value : Nat) : List Char → Nat × Nat × List Char
  | [] => (value, 0, [])
  | c :: rest =>
    if Numeral.isDigit c then
      let next := 10 * value + Numeral.digitValue c
      if next < UInt64.size then readSignificand next rest
      else
        let tail := rest.dropWhile Numeral.isDigit
        (value, 1 + (rest.length - tail.length), tail)
    else (value, 0, c :: rest)

/-- `10 ^ n` as a double. -/
def powerOfTen (n : Nat) : Double := .ofDecimal false 1 n

/-- A significand scaled by a power of ten, by one multiplication or division where the power is a
double. Nothing where the result lies outside the doubles. -/
def scale? : (fuel : Nat) → Double → Int → Option Double
  | 0, f, _ => some f
  | fuel + 1, f, e =>
    if e.natAbs ≤ 308 then
      if 0 ≤ e then
        let g := f.mul (powerOfTen e.natAbs)
        if g.isFinite then some g else none
      else some (f.div (powerOfTen e.natAbs))
    else if f.equal (.zero false) then some f
    else if 0 ≤ e then none
    else scale? fuel (f.div (powerOfTen 308)) (e + 308)

/-- A double from its sign, the leading digits and the power of ten; infinite where it lies outside
the doubles. -/
def doubleOf (negative : Bool) (significand : Nat) (exponent : Int) : Json :=
  match scale? 4 (.ofNat significand) exponent with
  | some f => .float (if negative then f.neg else f)
  | none => .float (.infinite negative)

/-- The exponent after its letter: a sign and at least one digit. -/
def readExponent? (cs : List Char) : Option (Int × List Char) :=
  let (negative, cs) := Numeral.sign cs
  let digits := cs.takeWhile Numeral.isDigit
  if digits.isEmpty then none
  else
    let n : Int := Numeral.value digits
    some (if negative then -n else n, cs.dropWhile Numeral.isDigit)

/-- The exponent of a number, if one follows, and the number. -/
def readScaled? (negative : Bool) (significand : Nat) (exponent : Int) :
    List Char → Option (Json × List Char)
  | c :: rest =>
    if c = 'e' ∨ c = 'E' then do
      let (e, rest) ← readExponent? rest
      some (doubleOf negative significand (exponent + e), rest)
    else some (doubleOf negative significand exponent, c :: rest)
  | [] => some (doubleOf negative significand exponent, [])

/-- The digits after the point, at least one. -/
def readFraction? (negative : Bool) (significand : Nat) (dropped : Nat) (cs : List Char) :
    Option (Json × List Char) :=
  let digits := cs.takeWhile Numeral.isDigit
  let rest := cs.dropWhile Numeral.isDigit
  if digits.isEmpty then none
  else
    let (value, left, _) := readSignificand significand digits
    readScaled? negative value ((dropped : Int) - ((digits.length - left : Nat) : Int)) rest

/-- A whole number without sign: an integer if it fits, else a double. Minus zero is a double. -/
def wholeNumber (negative : Bool) (value : Nat) : Json :=
  if negative then
    if value = 0 ∨ Nat.pow 2 63 < value then .float (Double.neg (.ofNat value)) else .integer (-value)
  else .integer value

/-- A number without its sign. -/
def readUnsigned? (negative : Bool) (cs : List Char) : Option (Json × List Char) :=
  let leadingZero : Bool :=
    match cs with
    | '0' :: c :: _ => Numeral.isDigit c
    | _ => false
  match cs with
  | [] => none
  | c :: _ =>
    if !Numeral.isDigit c || leadingZero then none
    else
      let (value, dropped, rest) := readSignificand 0 cs
      match rest with
      | '.' :: rest => readFraction? negative value dropped rest
      | 'e' :: _ => readScaled? negative value dropped rest
      | 'E' :: _ => readScaled? negative value dropped rest
      | _ =>
        if 0 < dropped then some (doubleOf negative value dropped, rest)
        else some (wholeNumber negative value, rest)

/-- A number. -/
def readNumber? : List Char → Option (Json × List Char)
  | '-' :: rest => readUnsigned? true rest
  | cs => readUnsigned? false cs

/-- Four hexadecimal digits. -/
def readHex4? : List Char → Option (Nat × List Char)
  | a :: b :: c :: d :: rest => do
    let a ← Text.hexValue? a
    let b ← Text.hexValue? b
    let c ← Text.hexValue? c
    let d ← Text.hexValue? d
    some (4096 * a + 256 * b + 16 * c + d, rest)
  | _ => none

/-- The character of an escape with a code, after its `u`: a code outside the surrogates, or a
high surrogate with the escape of a low one after it. Other surrogates have none. -/
def readCode? (cs : List Char) : Option (Option Char × List Char) := do
  let (n, rest) ← readHex4? cs
  if n < 0xD800 ∨ 0xE000 ≤ n then some (some (Char.ofNat n), rest)
  else if 0xDC00 ≤ n then some (none, rest)
  else
    match rest with
    | '\\' :: 'u' :: more => do
      let (low, more) ← readHex4? more
      if 0xDC00 ≤ low ∧ low < 0xE000 then
        some (some (Char.ofNat (0x10000 + 0x400 * (n - 0xD800) + (low - 0xDC00))), more)
      else some (none, rest)
    | rest => some (none, rest)

/-- The character of an escape, after its backslash. -/
def readEscape? : List Char → Option (Option Char × List Char)
  | '"' :: rest => some (some '"', rest)
  | '\\' :: rest => some (some '\\', rest)
  | '/' :: rest => some (some '/', rest)
  | 'b' :: rest => some (some '\x08', rest)
  | 'f' :: rest => some (some '\x0c', rest)
  | 'n' :: rest => some (some '\n', rest)
  | 'r' :: rest => some (some '\r', rest)
  | 't' :: rest => some (some '\t', rest)
  | 'u' :: rest => readCode? rest
  | _ => none

/-- A list with one element more, if both are there. -/
def consIfBoth {α : Type} (a? : Option α) (list? : Option (List α)) : Option (List α) := do
  some ((← a?) :: (← list?))

/-- The characters of a string up to its closing quote; none if a surrogate stands alone. -/
def readChars? : (fuel : Nat) → List Char → Option (Option (List Char) × List Char)
  | 0, _ => none
  | _ + 1, [] => none
  | fuel + 1, c :: rest =>
    if c = '"' then some (some [], rest)
    else if c = '\\' then do
      let (d?, rest) ← readEscape? rest
      let (cs?, rest) ← readChars? fuel rest
      some (consIfBoth d? cs?, rest)
    else if c.toNat < 0x20 then none
    else do
      let (cs?, rest) ← readChars? fuel rest
      some (consIfBoth (some c) cs?, rest)

/-- A string after its opening quote; no text if a surrogate stands alone. -/
def readString? (fuel : Nat) (cs : List Char) : Option (Option String × List Char) := do
  let (text?, rest) ← readChars? fuel cs
  some (text?.map String.ofList, rest)

/-- What follows `word`. -/
def readWord? (word : List Char) (value : Json) (cs : List Char) : Option (Json × List Char) :=
  if word.isPrefixOf cs then some (value, cs.drop word.length) else none

mutual

/-- A value from its first character on; `fuel` bounds the length of the text. -/
def readValue? : (fuel : Nat) → List Char → Option (Json × List Char)
  | 0, _ => none
  | fuel + 1, cs =>
    match cs with
    | [] => none
    | '"' :: rest => do
      let (s?, rest) ← readString? fuel rest
      some ((s?.map .string).getD .unpaired, rest)
    | '[' :: rest =>
      match skipSpace rest with
      | ']' :: rest => some (.array [], rest)
      | rest => do
        let (items, rest) ← readItems? fuel rest
        some (.array items, rest)
    | '{' :: rest =>
      match skipSpace rest with
      | '}' :: rest => some (.object [], rest)
      | rest => do
        let (members?, rest) ← readMembers? fuel rest
        some ((members?.map .object).getD .unpaired, rest)
    | 't' :: _ => readWord? ['t', 'r', 'u', 'e'] (.bool true) cs
    | 'f' :: _ => readWord? ['f', 'a', 'l', 's', 'e'] (.bool false) cs
    | 'n' :: _ => readWord? ['n', 'u', 'l', 'l'] .null cs
    | _ => readNumber? cs

/-- The items of an array, at least one, up to its closing bracket. -/
def readItems? : (fuel : Nat) → List Char → Option (List Json × List Char)
  | 0, _ => none
  | fuel + 1, cs => do
    let (v, rest) ← readValue? fuel cs
    match skipSpace rest with
    | ',' :: rest => do
      let (vs, rest) ← readItems? fuel (skipSpace rest)
      some (v :: vs, rest)
    | ']' :: rest => some ([v], rest)
    | _ => none

/-- The members of an object, at least one, up to its closing brace; none if a surrogate stands
alone in a name. -/
def readMembers? : (fuel : Nat) → List Char → Option (Option (List (String × Json)) × List Char)
  | 0, _ => none
  | fuel + 1, cs =>
    match cs with
    | '"' :: rest => do
      let (name?, rest) ← readString? fuel rest
      match skipSpace rest with
      | ':' :: rest => do
        let (v, rest) ← readValue? fuel (skipSpace rest)
        match skipSpace rest with
        | ',' :: rest => do
          let (members?, rest) ← readMembers? fuel (skipSpace rest)
          some (consIfBoth (name?.map (·, v)) members?, rest)
        | '}' :: rest => some (name?.map fun name => [(name, v)], rest)
        | _ => none
      | _ => none
    | _ => none

end

/-- The value of a document. -/
def read? (cs : List Char) : Option Json := do
  let (v, rest) ← readValue? (cs.length + 1) (skipSpace cs)
  if (skipSpace rest).isEmpty then some v else none

/-- The value of a document. -/
def ofText? (s : String) : Option Json := read? s.toList

end SynthTable.Json
