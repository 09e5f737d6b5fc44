import SynthTable.Assets.Dictionary
import SynthTable.Calendar.Reader
import SynthTable.Domain.Basic
import SynthTable.Domain.World
import SynthTable.Schema.Basic
import SynthTable.Text.Utf8

/-!
# Building domains

A domain is built from the declaration of a column and the dictionaries. Listed values must be
values of the kind, and the lower bound must not be above the upper one. A pattern with more slots
than there is room for is no error of its column but a crash.
-/

namespace SynthTable

/-- Why no domain can be built. -/
inductive DomainError where
  | badValue (text what : String)
  | notInteger (label : String) (bound : Bound)
  | notFinite (label : String) (bound : Bound)
  | notDate (label : String) (bound : Bound)
  | integersCross (min max : Int64)
  | doublesCross (min max : Double)
  | secondsCross (min max : Int64)
  | daysCross (min max : Int64)
  | badFormat (text : String)
  | noPattern
  /-- There is no room for the slots of the pattern. -/
  | noRoom
  | noSource
  | badSeparator (text : String)
  | asset (error : AssetError)
  deriving DecidableEq

/-- The text of an error. -/
def DomainError.message : DomainError → String
  | .badValue text what => "value '" ++ text ++ "' is not " ++ what
  | .notInteger label bound => label ++ " " ++ bound.shown ++ " is not an integer"
  | .notFinite label bound => label ++ " " ++ bound.shown ++ " is not a finite number"
  | .notDate label bound => label ++ " " ++ bound.shown ++ " is not a date"
  | .integersCross min max =>
    "min " ++ toString min.toInt ++ " is greater than max " ++ toString max.toInt
  | .doublesCross min max => "min " ++ min.toText ++ " is greater than max " ++ max.toText
  | .secondsCross min max =>
    "min " ++ toString min.toInt ++ " is after max " ++ toString max.toInt
  | .daysCross min max =>
    "min day " ++ toString min.toInt ++ " is after max day " ++ toString max.toInt
  | .badFormat text => "invalid date format '" ++ text ++ "'"
  | .noPattern => "string_regex column requires a regex pattern"
  | .noRoom => "capacity overflow"
  | .noSource => "csv column requires a source"
  | .badSeparator text => "separator '" ++ text ++ "' must be a single byte"
  | .asset error => "asset error: " ++ error.message

/-- The crash that stands behind an error. -/
def DomainError.crash? : DomainError → Option Crash
  | .noRoom => some ⟨some DomainError.noRoom.message⟩
  | _ => none

namespace Domain

/-- The length of random texts where none is declared. -/
def defaultLength : Nat := 20

/-- The declared length if it is at least one, else the default. -/
def lengthOf (c : Column) : Nat :=
  match c.length? with
  | some n => if 1 ≤ n then n.toInt.toNat else defaultLength
  | none => defaultLength

/-- The listed values, read one by one. -/
def readValues {α : Type} (what : String) (read : String → Option α) :
    NameMap Int64 → Except DomainError (List (α × Int64))
  | [] => .ok []
  | (raw, weight) :: rest =>
    match read raw with
    | none => .error (.badValue raw what)
    | some value =>
      match readValues what read rest with
      | .error e => .error e
      | .ok values => .ok ((value, weight) :: values)

/-- The listed values of a column as a pick list. -/
def listed {α : Type} (c : Column) (what : String) (read : String → Option α) :
    Except DomainError (PickList α) :=
  (readValues what read c.values).map .ofWeights

/-- The listed values of a column as texts. -/
def listedTexts (c : Column) : Except DomainError (PickList String) :=
  listed c "text" some

/-- A bound as an integer. -/
def intBound (label : String) (default : Int64) :
    Option Bound → Except DomainError Int64
  | none => .ok default
  | some b =>
    match b.int64? with
    | some n => .ok n
    | none => .error (.notInteger label b)

/-- A bound as a finite double. -/
def doubleBound (label : String) (default : Double) :
    Option Bound → Except DomainError Double
  | none => .ok default
  | some b =>
    match b.double?.filter (·.isFinite) with
    | some x => .ok x
    | none => .error (.notFinite label b)

/-- A bound that texts give as a date. -/
def dateBound (label : String) (default : Int64) (read : String → Option Int) :
    Option Bound → Except DomainError Int64
  | none => .ok default
  | some b =>
    let value? :=
      match b with
      | .text s => (read s).map Int64.ofInt
      | b => b.int64?
    match value? with
    | some n => .ok n
    | none => .error (.notDate label b)

/-- The second that a text names. -/
def secondOf? (text : String) : Option Int := (DateTime.ofText? text).map (·.epochSeconds)

/-- The date that a text names, or that of the time it names. -/
def dateOf? (text : String) : Option Date :=
  match Date.ofText? text with
  | some d => some d
  | none => (DateTime.ofText? text).map (·.date)

/-- The day that a text names. -/
def dayOf? (text : String) : Option Int := (dateOf? text).map (·.dayNumber)

/-- A truth value in any case, with blanks around it. -/
def readBool? (text : String) : Option Bool :=
  let cs := Text.trim text.toList
  if Text.equalIgnoringAsciiCase cs ['t', 'r', 'u', 'e'] then some true
  else if Text.equalIgnoringAsciiCase cs ['f', 'a', 'l', 's', 'e'] then some false
  else none

/-- A number of an address: up to 255, without zeros in front. -/
def octet? (cs : List Char) : Option Nat :=
  if cs.isEmpty || !cs.all Numeral.isDigit || (1 < cs.length && cs.head? == some '0') then none
  else if Numeral.value cs < 256 then some (Numeral.value cs)
  else none

/-- Whether a text is an address of four numbers, without blanks. -/
def isAddress (cs : List Char) : Bool :=
  let parts := Text.splitOn '.' cs
  parts.length == 4 && parts.all fun p => (octet? p).isSome

/-- An address with blanks around it. -/
def readAddress? (text : String) : Option String :=
  let cs := Text.trim text.toList
  if isAddress cs then some (String.ofList cs) else none

/-- An integer between two bounds. -/
def buildInteger (c : Column) (least greatest : Int64) : Except DomainError Domain := do
  let values ← listed c "an integer" fun s => Numeral.int64? (Text.trim s.toList)
  let min ← intBound "min" least c.min?
  let max ← intBound "max" greatest c.max?
  if max < min then .error (.integersCross min max) else .ok (.integer values min max)

/-- A double between two bounds. -/
def buildFloat (c : Column) : Except DomainError Domain := do
  let values ← listed c "a number" fun s =>
    (Numeral.double? (Text.trim s.toList)).filter (·.isFinite)
  let min ← doubleBound "min" (.ofNat 0) c.min?
  let max ← doubleBound "max" (.ofNat 1) c.max?
  if max.less min then .error (.doublesCross min max) else .ok (.float values min max)

/-- The format of dates where none is declared. -/
def defaultDateFormat : String := "%Y-%m-%dT%H:%M:%SZ"

/-- The last second of the year 9999. -/
def lastSecond : Int64 := 253402300799

/-- A time between two seconds. -/
def buildDate (c : Column) (asText : Bool) : Except DomainError Domain := do
  let values ← listed c "a date-time" DateTime.ofText?
  let min ← dateBound "min" 0 secondOf? c.min?
  let max ← dateBound "max" lastSecond secondOf? c.max?
  if max < min then .error (.secondsCross min max)
  else if asText then
    let text := c.format?.getD defaultDateFormat
    match DateFormat.ofText? text with
    | some format => .ok (.date values min max c.useNow (some (text, format)))
    | none => .error (.badFormat text)
  else .ok (.date values min max c.useNow none)

/-- 1 January 1920. -/
def firstBirthday : Int64 := -18263

/-- 1 January 2024. -/
def lastBirthday : Int64 := 19723

/-- A day between the first and the last date. -/
def clampDay (n : Int64) : Int64 :=
  .ofInt (max Date.first.dayNumber (min n.toInt Date.last.dayNumber))

/-- A date between two days. -/
def buildBirthdate (c : Column) : Except DomainError Domain := do
  let values ← listed c "a date" Date.ofText?
  let min ← dateBound "min" firstBirthday dayOf? c.min?
  let max ← dateBound "max" lastBirthday dayOf? c.max?
  if max < min then .error (.daysCross min max)
  else .ok (.birthdate values (clampDay min) (clampDay max))

/-- The pattern of a text. -/
def patternOf (source : String) : Except DomainError Domain :=
  match Pattern.ofText? source with
  | some p => .ok (.pattern source p)
  | none => .error .noRoom

/-- A pattern; computed columns need none. -/
def buildPattern (c : Column) : Except DomainError Domain :=
  match c.pattern?, c.derivation? with
  | some source, _ => patternOf source
  | none, some _ => patternOf ""
  | none, none => .error .noPattern

/-- An error in reading a dictionary as an error of the domain. -/
def ofAsset {α : Type} : Except AssetError α → Except DomainError α
  | .ok a => .ok a
  | .error e => .error (.asset e)

/-- The countries of cities, each once, in order. -/
def countriesOf (cities : List City) : List String := Names.ofList (cities.map (·.country))

/-- Countries: the listed values, else those of the cities. -/
def buildCountry (c : Column) (assets : AssetSource) : Except DomainError Domain := do
  let values ← listed c "a country" some
  if values.isEmpty then
    let cities ← ofAsset (Dictionary.cities assets)
    let kept := Dictionary.ofCountries City.country c.filters cities
    .ok (.country (.uniform (countriesOf kept)) false)
  else .ok (.country values true)

/-- Records of a file. -/
def buildCsv (c : Column) (assets : AssetSource) : Except DomainError Domain :=
  match c.source? with
  | none => .error .noSource
  | some source =>
    match Text.stringBytes source.separator with
    | [separator] =>
      let all := Dictionary.records assets source.path separator source.mainField
      .ok (.csv source.mainField all (.uniform (Dictionary.matching c.filters all)))
    | _ => .error (.badSeparator source.separator)

/-- The domain of a column. -/
def build (c : Column) (assets : AssetSource) : Except DomainError Domain :=
  match c.kind with
  | .string => do .ok (.text (← listedTexts c) (lengthOf c) alphanumeric)
  | .stringAz => do .ok (.text (← listedTexts c) (lengthOf c) letters)
  | .stringRegex => buildPattern c
  | .integer => buildInteger c (-2147483648) 2147483647
  | .long => buildInteger c Int64.minValue (Int64.maxValue - 1)
  | .float => buildFloat c
  | .incrementInteger => do .ok (.counter (← intBound "min" 0 c.min?))
  | .incrementLong => do .ok (.counter (← intBound "min" 0 c.min?))
  | .boolean => do .ok (.boolean (← listed c "a boolean" readBool?))
  | .bytes => do
    .ok (.bytes (← listed c "bytes" fun s => some (Text.stringBytes s)) (lengthOf c))
  | .hash => do .ok (.hash (← listedTexts c) (lengthOf c))
  | .uuid => .ok .uuid
  | .ip => do .ok (.ip (← listed c "an IPv4 address" readAddress?))
  | .timestamp => do
    .ok (.timestamp (← listed c "epoch milliseconds" fun s =>
      Numeral.int64? (Text.trim s.toList)))
  | .date => buildDate c false
  | .dateAsString => buildDate c true
  | .birthdate => buildBirthdate c
  | .name => do
    let all ← ofAsset (Dictionary.personNames assets)
    .ok (.name all (.uniform (Dictionary.ofCountries PersonName.country c.filters all)))
  | .city => do
    let all ← ofAsset (Dictionary.cities assets)
    let kept := Dictionary.ofCountries City.country c.filters all
    .ok (.city all (.byMagnitude City.population kept))
  | .country => buildCountry c assets
  | .email => do
    let values ← listed c "an email" some
    let names ← ofAsset (Dictionary.personNames assets)
    .ok (.email values (.uniform (Dictionary.ofCountries PersonName.country c.filters names)))
  | .phone => do
    let values ← listed c "a phone number" some
    let codes ← ofAsset (Dictionary.dialCodes assets)
    .ok (.phone values (.uniform (Dictionary.ofCountries DialCode.country c.filters codes)))
  | .csv => buildCsv c assets

/-- What is worth a warning about a domain: groups of a pattern that are left out. -/
def warnings : Domain → List String
  | .pattern _ p => p.malformed.map fun g =>
    "regex group '" ++ String.ofList g.text ++ "' ignored: " ++ g.fault.message
  | _ => []

end Domain

end SynthTable
