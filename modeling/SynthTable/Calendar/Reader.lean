import SynthTable.Calendar.DateTime
import SynthTable.Number.Decimal
import SynthTable.Text.Blank
import SynthTable.Text.Split

/-!
# Reading dates

A date is read as year, month and day with dashes or as day, month and year with slashes; a time in
one of several layouts, of which one has an offset from universal time. Blanks before a number are
skipped in all layouts but that one.
-/

namespace SynthTable

namespace DateReader

/-- One piece of a layout. -/
inductive Piece where
  | year
  | month
  | day
  | hour
  | minute
  | second
  | literal (c : Char)
  | blanks

/-- The numbers read so far. -/
structure Parts where
  year : Int
  month : Nat
  day : Nat
  hour : Nat
  minute : Nat
  second : Nat

/-- Nothing read yet. -/
def Parts.none : Parts := ⟨0, 0, 0, 0, 0, 0⟩

/-- Up to `width` digits, at least one, and the text after them. -/
def number? (width : Nat) (cs : List Char) : Option (Nat × List Char) :=
  let digits := (cs.take width).takeWhile Numeral.isDigit
  if digits.isEmpty then none else some (Numeral.value digits, cs.drop digits.length)

/-- All digits, at least one, and the text after them. -/
def longNumber? (cs : List Char) : Option (Nat × List Char) := number? cs.length cs

/-- A year: up to four digits, or a sign and any number of them. -/
def year? (cs : List Char) : Option (Int × List Char) :=
  match cs with
  | '-' :: rest => (longNumber? rest).map fun (n, rest) => (-(n : Int), rest)
  | '+' :: rest => (longNumber? rest).map fun (n, rest) => ((n : Int), rest)
  | _ => (number? 4 cs).map fun (n, rest) => ((n : Int), rest)

/-- One piece of a text. -/
def piece? (piece : Piece) (parts : Parts) (cs : List Char) : Option (Parts × List Char) :=
  let two := number? 2 (Text.trimStart cs)
  match piece with
  | .year => (year? (Text.trimStart cs)).map fun (n, rest) => ({ parts with year := n }, rest)
  | .month => two.map fun (n, rest) => ({ parts with month := n }, rest)
  | .day => two.map fun (n, rest) => ({ parts with day := n }, rest)
  | .hour => two.map fun (n, rest) => ({ parts with hour := n }, rest)
  | .minute => two.map fun (n, rest) => ({ parts with minute := n }, rest)
  | .second => two.map fun (n, rest) => ({ parts with second := n }, rest)
  | .literal c => (Text.dropLead? [c] cs).map fun rest => (parts, rest)
  | .blanks => some (parts, Text.trimStart cs)

/-- A whole text in a layout. -/
def pieces? : List Piece → Parts → List Char → Option Parts
  | [], parts, cs => if cs.isEmpty then some parts else none
  | piece :: layout, parts, cs => do
    let (parts, rest) ← piece? piece parts cs
    pieces? layout parts rest

/-- Year, month and day with dashes. -/
def dashes : List Piece := [.year, .literal '-', .month, .literal '-', .day]

/-- Day, month and year with slashes. -/
def slashes : List Piece := [.day, .literal '/', .month, .literal '/', .year]

/-- Hour, minute and second with colons. -/
def clock : List Piece := [.hour, .literal ':', .minute, .literal ':', .second]

/-- The layouts of times without offset. -/
def timeLayouts : List (List Piece) :=
  [dashes ++ .literal 'T' :: clock, dashes ++ .blanks :: clock,
    dashes ++ .literal 'T' :: clock ++ [.literal 'Z']]

/-- The date of the numbers read. -/
def Parts.date? (p : Parts) : Option Date := Date.ofParts? p.year p.month p.day

/-- The time of the numbers read. -/
def Parts.dateTime? (p : Parts) : Option DateTime := do
  DateTime.ofParts? (← p.date?) p.hour p.minute p.second 0

/-- Exactly `width` digits and the text after them. -/
def exactNumber? (width : Nat) (cs : List Char) : Option (Nat × List Char) :=
  let digits := cs.take width
  if digits.length = width ∧ digits.all Numeral.isDigit then
    some (Numeral.value digits, cs.drop width)
  else none

/-- The fraction of a second in nanoseconds: a point and digits, of which nine count. -/
def nanosecond? (cs : List Char) : Option (Nat × List Char) :=
  match cs with
  | '.' :: rest =>
    let digits := rest.takeWhile Numeral.isDigit
    let used := digits.take 9
    if digits.isEmpty then none
    else some (Numeral.value used * Nat.pow 10 (9 - used.length), rest.dropWhile Numeral.isDigit)
  | _ => some (0, cs)

/-- The offset from universal time in minutes: the letter of universal time, or a sign, two digits
of hours, a colon and two of minutes. The minus sign of typography will do. -/
def offset? (cs : List Char) : Option (Int × List Char) := do
  let signed (negative : Bool) (rest : List Char) : Option (Int × List Char) := do
    let (hours, rest) ← exactNumber? 2 rest
    let rest ← Text.dropLead? [':'] rest
    let (minutes, rest) ← exactNumber? 2 rest
    if minutes < 60 ∧ hours < 24 then
      let total : Int := (60 * hours + minutes : Nat)
      some (if negative then -total else total, rest)
    else none
  match cs with
  | 'Z' :: rest => some (0, rest)
  | 'z' :: rest => some (0, rest)
  | '+' :: rest => signed false rest
  | '-' :: rest => signed true rest
  | '−' :: rest => signed true rest
  | _ => none

/-- A time with an offset, as universal time. -/
def offsetDateTime? (cs : List Char) : Option DateTime := do
  let (year, rest) ← exactNumber? 4 cs
  let rest ← Text.dropLead? ['-'] rest
  let (month, rest) ← exactNumber? 2 rest
  let rest ← Text.dropLead? ['-'] rest
  let (day, rest) ← exactNumber? 2 rest
  let rest ←
    match rest with
    | c :: rest => if c = 'T' ∨ c = 't' ∨ c = ' ' then some rest else none
    | [] => none
  let (hour, rest) ← exactNumber? 2 rest
  let rest ← Text.dropLead? [':'] rest
  let (minute, rest) ← exactNumber? 2 rest
  let rest ← Text.dropLead? [':'] rest
  let (second, rest) ← exactNumber? 2 rest
  let (nanosecond, rest) ← nanosecond? rest
  let (offset, rest) ← offset? rest
  guard rest.isEmpty
  let date ← Date.ofParts? year month day
  let local? ← DateTime.ofParts? date hour minute second nanosecond
  local?.minutesEarlier? offset

end DateReader

/-- The date that a text names. -/
def Date.ofText? (text : String) : Option Date :=
  let cs := Text.trim text.toList
  [DateReader.dashes, DateReader.slashes].findSome? fun layout => do
    (← DateReader.pieces? layout .none cs).date?

/-- The time that a text names; of a date alone its start. -/
def DateTime.ofText? (text : String) : Option DateTime :=
  let cs := Text.trim text.toList
  let layouts := DateReader.timeLayouts.findSome? fun layout => do
    (← DateReader.pieces? layout .none cs).dateTime?
  layouts <|> DateReader.offsetDateTime? cs <|> (Date.ofText? text).map DateTime.midnight

end SynthTable
