import SynthTable.Digest.Sha256
import SynthTable.Domain.Basic
import SynthTable.Domain.World
import SynthTable.Text.Case
import SynthTable.Text.Utf8
import SynthTable.Value.Basic

/-!
# Drawing values

A value of a domain is a listed value if there are any, else a random one.
-/

namespace SynthTable.Domain

variable {σ : Type} [RandomSource σ]

/-- Characters drawn one by one from an alphabet. -/
def drawChars (alphabet : List Char) : (count : Nat) → σ → List Char × σ
  | 0, s => ([], s)
  | count + 1, s =>
    let (c, s) := Random.element alphabet ' ' s
    let (cs, s) := drawChars alphabet count s
    (c :: cs, s)

/-- A text drawn from an alphabet. -/
def drawText (alphabet : List Char) (length : Nat) (s : σ) : String × σ :=
  let (cs, s) := drawChars alphabet length s
  (String.ofList cs, s)

/-- A listed value, or what `otherwise` draws. -/
def listedOr {α : Type} (values : PickList α) (otherwise : σ → α × σ) (s : σ) : α × σ :=
  match values.draw s with
  | (some a, s) => (a, s)
  | (none, s) => otherwise s

/-- A drawn entry as a value, or no value if there are no entries. -/
def drawEntry {α : Type} (toValue : α → Value) (entries : PickList α) (s : σ) : Value × σ :=
  match entries.draw s with
  | (some a, s) => (toValue a, s)
  | (none, s) => (.null, s)

/-- A double between two bounds; where their distance is no double, the bounds are weighed. -/
def drawDouble (min max : Double) (s : σ) : Double × σ :=
  if min.equal max then (min, s)
  else if (max.sub min).isFinite then Random.doubleBetween min max s
  else
    let (t, s) := Random.fraction s
    let one := Double.ofNat 1
    (((min.mul (one.sub t)).add (max.mul t)).clamp min max, s)

/-- An identifier from sixteen random bytes. -/
def drawUuid (s : σ) : Value × σ :=
  let (bs, s) := RandomSource.nextBytes 16 s
  match Uuid.ofBytes? bs with
  | some u => (.uuid (.ofRandomBytes u.bytes), s)
  | none => (.null, s)

/-- An address of four random bytes. -/
def drawAddress (s : σ) : String × σ :=
  let (bs, s) := RandomSource.nextBytes 4 s
  (".".intercalate (bs.map fun b => toString b.toNat), s)

/-- A first name in small letters; empty if there are none. -/
def drawFirstName (names : PickList PersonName) (s : σ) : String × σ :=
  match names.draw s with
  | (some n, s) => (String.ofList (Text.lower n.firstName.toList), s)
  | (none, s) => ("", s)

/-- The hosts of addresses. -/
def mailHosts : List String := ["example.com", "example.org", "example.net", "mail.test"]

/-- A mail address: a character or a first name with a point, then a first name, then a host. -/
def drawEmail (names : PickList PersonName) (s : σ) : String × σ :=
  let (short, s) := Random.coin s
  let (lead, s) :=
    if short then drawText alphanumeric 1 s
    else
      let (n, s) := drawFirstName names s
      (n ++ ".", s)
  let (first, s) := drawFirstName names s
  let (host, s) := Random.element mailHosts "" s
  (lead ++ first ++ "@" ++ host, s)

/-- Decimal digits. -/
def drawDigits : (count : Nat) → σ → List Char × σ
  | 0, s => ([], s)
  | count + 1, s =>
    let (d, s) := Random.below32 10 s
    let (ds, s) := drawDigits count s
    (Char.ofNat (48 + d) :: ds, s)

/-- The number of digits of a telephone number with its dialing code. -/
def phoneLength : Nat := 11

/-- A telephone number: a dialing code and as many digits as are missing. -/
def drawPhone (codes : PickList DialCode) (s : σ) : String × σ :=
  let (code, s) := codes.draw s
  let indicator := (code.map (·.indicator)).getD ""
  let (digits, s) := drawDigits (phoneLength - (Text.stringBytes indicator).length) s
  ("+" ++ indicator ++ " " ++ String.ofList digits, s)

/-- A time as a value: written by the format if there is one. A format that names the zone makes
the run end. -/
def timeValue (format? : Option (String × DateFormat)) (t : DateTime) : Except Crash Value :=
  match format? with
  | none => .ok (.timestamp t)
  | some (_, format) =>
    match format.write? t with
    | some cs => .ok (.text (String.ofList cs))
    | none => .error ⟨some "a Display implementation returned an error unexpectedly: Error"⟩

/-- A time of a date domain. -/
def drawTime (values : PickList DateTime) (min max : Int64)
    (format? : Option (String × DateFormat)) (s : σ) : Except Crash Value × σ :=
  match values.draw s with
  | (some t, s) => (timeValue format? t, s)
  | (none, s) =>
    let (second, s) := Random.int64Between min max s
    match DateTime.ofEpochSeconds? second.toInt with
    | some t => (timeValue format? t, s)
    | none => (.ok .null, s)

/-- A day between two as a value. -/
def drawDay (min max : Int64) (s : σ) : Value × σ :=
  let (day, s) := Random.int64Between min max s
  match Date.ofDayNumber? day.toInt with
  | some d => (.date d, s)
  | none => (.null, s)

/-- A value without a crash. -/
def drawn (f : σ → Value × σ) (w : World σ) : Except Crash Value × World σ :=
  let (v, w) := w.draw f
  (.ok v, w)

/-- The result of a draw as a value. -/
def asValue {α : Type} (toValue : α → Value) (f : σ → α × σ) (s : σ) : Value × σ :=
  let (a, s) := f s
  (toValue a, s)

/-- A value of the domain of a column. -/
def generate (column : String) (domain : Domain) (w : World σ) : Except Crash Value × World σ :=
  match domain with
  | .text values length alphabet =>
    drawn (asValue .text (listedOr values (drawText alphabet length))) w
  | .pattern _ p => drawn (asValue .text p.render) w
  | .integer values min max =>
    drawn (asValue .int (listedOr values (Random.int64Between min max))) w
  | .float values min max => drawn (asValue .float (listedOr values (drawDouble min max))) w
  | .counter start =>
    let (n, w) := w.take (Shared.count column start)
    (.ok (.int n), w)
  | .boolean values => drawn (asValue .bool (listedOr values Random.coin)) w
  | .bytes values length =>
    drawn (asValue .bytes (listedOr values (RandomSource.nextBytes length))) w
  | .hash values length =>
    drawn (asValue (fun s => .text (Digest.sha256Hex s))
      (listedOr values (drawText alphanumeric length))) w
  | .uuid => drawn drawUuid w
  | .ip values => drawn (asValue .text (listedOr values drawAddress)) w
  | .timestamp values =>
    match w.draw values.draw with
    | (some n, w) => (.ok (.int n), w)
    | (none, w) =>
      let (t, w) := w.take Shared.now
      (.ok (.int (.ofInt t.epochMilliseconds)), w)
  | .date values min max useNow format? =>
    if useNow then
      let (t, w) := w.take Shared.now
      (timeValue format? t, w)
    else w.draw (drawTime values min max format?)
  | .birthdate values min max =>
    drawn (fun s =>
      match values.draw s with
      | (some d, s) => (.date d, s)
      | (none, s) => drawDay min max s) w
  | .name _ pick => drawn (drawEntry .name pick) w
  | .city _ pick => drawn (drawEntry .city pick) w
  | .country pick _ => drawn (drawEntry .text pick) w
  | .email values names => drawn (asValue .text (listedOr values (drawEmail names))) w
  | .phone values codes => drawn (asValue .text (listedOr values (drawPhone codes))) w
  | .csv _ _ pick => drawn (drawEntry .record pick) w

end SynthTable.Domain
