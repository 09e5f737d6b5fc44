import SynthTable.Calendar.DateTime
import SynthTable.Text.Blank

/-!
# Formats of dates

A format is a text in which `%` and a letter stand for a part of the time. A dash, a zero or an
underscore before the letter changes how a number is filled up. A time here has no zone, so parts
that name the zone are accepted in a format but cannot be written.
-/

namespace SynthTable

/-- How a number is filled up to its width. -/
inductive Filling where
  | nothing
  | zeros
  | blanks
  deriving DecidableEq, Repr

/-- Parts of a time that are numbers. -/
inductive NumberPart where
  | year
  | century
  | yearOfCentury
  | weekYear
  | weekYearOfCentury
  | quarter
  | month
  | day
  | weekFromSunday
  | weekFromMonday
  | numberedWeek
  | weekdayFromSunday
  | weekdayFromMonday
  | dayOfYear
  | hour
  | hourOfHalf
  | minute
  | second
  | nanosecond
  | epochSeconds
  deriving DecidableEq, Repr

/-- One piece of a format. -/
inductive FormatItem where
  | literal (c : Char)
  | number (part : NumberPart) (filling : Filling)
  | shortMonth
  | longMonth
  | shortWeekday
  | longWeekday
  | lowerHalf
  | upperHalf
  /-- A point and as many groups of three digits of the second as needed, or nothing. -/
  | fraction
  /-- So many digits of the fraction of the second. -/
  | fractionDigits (count : Nat) (point : Bool)
  /-- A part that names the zone. -/
  | zone
  deriving DecidableEq, Repr

/-- A format. -/
abbrev DateFormat := List FormatItem

namespace DateFormat

/-- A number of fixed width. -/
def zeros (part : NumberPart) : FormatItem := .number part .zeros

/-- Hours, minutes and seconds with colons. -/
def clock : DateFormat :=
  [zeros .hour, .literal ':', zeros .minute, .literal ':', zeros .second]

/-- Month, day and year of the century with slashes. -/
def slashes : DateFormat :=
  [zeros .month, .literal '/', zeros .day, .literal '/', zeros .yearOfCentury]

/-- The number that a letter stands for, with its usual filling. -/
def numberOf? : Char → Option (NumberPart × Filling)
  | 'C' => some (.century, .zeros)
  | 'G' => some (.weekYear, .zeros)
  | 'H' => some (.hour, .zeros)
  | 'I' => some (.hourOfHalf, .zeros)
  | 'M' => some (.minute, .zeros)
  | 'S' => some (.second, .zeros)
  | 'U' => some (.weekFromSunday, .zeros)
  | 'V' => some (.numberedWeek, .zeros)
  | 'W' => some (.weekFromMonday, .zeros)
  | 'Y' => some (.year, .zeros)
  | 'd' => some (.day, .zeros)
  | 'e' => some (.day, .blanks)
  | 'f' => some (.nanosecond, .zeros)
  | 'g' => some (.weekYearOfCentury, .zeros)
  | 'j' => some (.dayOfYear, .zeros)
  | 'k' => some (.hour, .blanks)
  | 'l' => some (.hourOfHalf, .blanks)
  | 'm' => some (.month, .zeros)
  | 'q' => some (.quarter, .nothing)
  | 's' => some (.epochSeconds, .nothing)
  | 'u' => some (.weekdayFromMonday, .nothing)
  | 'w' => some (.weekdayFromSunday, .nothing)
  | 'y' => some (.yearOfCentury, .zeros)
  | _ => none

/-- The pieces that a letter stands for. -/
def itemsOf? (c : Char) : Option DateFormat :=
  match numberOf? c with
  | some (part, filling) => some [.number part filling]
  | none =>
    match c with
    | 'A' => some [.longWeekday]
    | 'B' => some [.longMonth]
    | 'D' => some slashes
    | 'F' => some [zeros .year, .literal '-', zeros .month, .literal '-', zeros .day]
    | 'P' => some [.lowerHalf]
    | 'R' => some [zeros .hour, .literal ':', zeros .minute]
    | 'T' => some clock
    | 'X' => some clock
    | 'Z' => some [.zone]
    | 'a' => some [.shortWeekday]
    | 'b' => some [.shortMonth]
    | 'c' => some ([.shortWeekday, .literal ' ', .shortMonth, .literal ' ', .number .day .blanks,
        .literal ' '] ++ clock ++ [.literal ' ', zeros .year])
    | 'h' => some [.shortMonth]
    | 'n' => some [.literal '\n']
    | 'p' => some [.upperHalf]
    | 'r' => some [zeros .hourOfHalf, .literal ':', zeros .minute, .literal ':', zeros .second,
        .literal ' ', .upperHalf]
    | 't' => some [.literal '\t']
    | 'v' => some [.number .day .blanks, .literal '-', .shortMonth, .literal '-', zeros .year]
    | 'x' => some slashes
    | 'z' => some [.zone]
    | '+' => some [.zone]
    | '%' => some [.literal '%']
    | _ => none

/-- The number that a letter stands for, with another filling. -/
def refilled? (filling : Filling) (c : Char) : Option DateFormat :=
  (numberOf? c).map fun (part, _) => [.number part filling]

/-- The number of digits that a character of a fraction asks for. -/
def fractionWidth? : Char → Option Nat
  | '3' => some 3
  | '6' => some 6
  | '9' => some 9
  | _ => none

/-- The pieces of a text from its start on; nothing if a percent sign stands before something
unknown. -/
def ofChars? : List Char → Option DateFormat
  | [] => some []
  | '%' :: ':' :: ':' :: ':' :: 'z' :: rest => (ofChars? rest).map (.zone :: ·)
  | '%' :: ':' :: ':' :: 'z' :: rest => (ofChars? rest).map (.zone :: ·)
  | '%' :: ':' :: 'z' :: rest => (ofChars? rest).map (.zone :: ·)
  | '%' :: '#' :: 'z' :: rest => (ofChars? rest).map (.zone :: ·)
  | '%' :: '.' :: 'f' :: rest => (ofChars? rest).map (.fraction :: ·)
  | '%' :: '.' :: d :: 'f' :: rest => do
    let width ← fractionWidth? d
    (ofChars? rest).map (.fractionDigits width true :: ·)
  | '%' :: '-' :: c :: rest => do
    let items ← refilled? .nothing c
    (ofChars? rest).map (items ++ ·)
  | '%' :: '0' :: c :: rest => do
    let items ← refilled? .zeros c
    (ofChars? rest).map (items ++ ·)
  | '%' :: '_' :: c :: rest => do
    let items ← refilled? .blanks c
    (ofChars? rest).map (items ++ ·)
  | '%' :: '3' :: 'f' :: rest => (ofChars? rest).map (.fractionDigits 3 false :: ·)
  | '%' :: '6' :: 'f' :: rest => (ofChars? rest).map (.fractionDigits 6 false :: ·)
  | '%' :: '9' :: 'f' :: rest => (ofChars? rest).map (.fractionDigits 9 false :: ·)
  | '%' :: c :: rest => do
    let items ← itemsOf? c
    (ofChars? rest).map (items ++ ·)
  | ['%'] => none
  | c :: rest => (ofChars? rest).map (.literal c :: ·)

/-- The format of a text. -/
def ofText? (text : String) : Option DateFormat := ofChars? text.toList

/-- The names of the months. -/
def monthNames : List String :=
  ["January", "February", "March", "April", "May", "June", "July", "August", "September",
    "October", "November", "December"]

/-- The names of the days from Monday on. -/
def weekdayNames : List String :=
  ["Monday", "Tuesday", "Wednesday", "Thursday", "Friday", "Saturday", "Sunday"]

/-- Fills a text up at its start. -/
def padded (width : Nat) (c : Char) (text : List Char) : List Char :=
  List.replicate (width - text.length) c ++ text

/-- A number of two digits; of larger ones the tens are written as the character that many places
after the digit zero. -/
def twoDigits (filling : Filling) (n : Nat) : List Char :=
  let ones := Char.ofNat (48 + n % 10)
  match n / 10, filling with
  | 0, .nothing => [ones]
  | 0, .blanks => [' ', ones]
  | tens, _ => [Char.ofNat (48 + tens), ones]

/-- A number filled up to a width; a sign counts, and zeros come after it. -/
def filled (width : Nat) (filling : Filling) (plus : Bool) (n : Int) : List Char :=
  let sign := if n < 0 then ['-'] else if plus then ['+'] else []
  let digits := Nat.toDigits 10 n.natAbs
  match filling with
  | .nothing => sign ++ digits
  | .zeros => sign ++ padded (width - sign.length) '0' digits
  | .blanks => padded width ' ' (sign ++ digits)

/-- A year: four places, or a sign and at least four for years of more digits or before the year
zero. -/
def yearText (filling : Filling) (year : Int) : List Char :=
  if 0 ≤ year ∧ year < 10000 then filled 4 filling false year else filled 5 filling true year

/-- The hour on a clock of twelve. -/
def hourOfHalf (hour : Nat) : Nat := if hour % 12 = 0 then 12 else hour % 12

/-- The text of a number of a time. -/
def numberText (t : DateTime) (filling : Filling) : NumberPart → List Char
  | .year => yearText filling t.date.year
  | .century => twoDigits filling ((t.date.year / 100 % 256).toNat)
  | .yearOfCentury => twoDigits filling (t.date.year % 100).toNat
  | .weekYear => yearText filling t.date.numberedWeek.1
  | .weekYearOfCentury => twoDigits filling (t.date.numberedWeek.1 % 100).toNat
  | .quarter => Nat.toDigits 10 ((t.date.month - 1) / 3 + 1)
  | .month => twoDigits filling t.date.month
  | .day => twoDigits filling t.date.day
  | .weekFromSunday => twoDigits filling t.date.weekFromSunday
  | .weekFromMonday => twoDigits filling t.date.weekFromMonday
  | .numberedWeek => twoDigits filling t.date.numberedWeek.2
  | .weekdayFromSunday => Nat.toDigits 10 t.date.weekdayFromSunday
  | .weekdayFromMonday => Nat.toDigits 10 (t.date.weekdayFromMonday + 1)
  | .dayOfYear => filled 3 filling false (t.date.placeInYear + 1 : Nat)
  | .hour => twoDigits filling t.hour
  | .hourOfHalf => twoDigits filling (hourOfHalf t.hour)
  | .minute => twoDigits filling t.minute
  | .second => twoDigits filling t.second
  | .nanosecond => filled 9 filling false t.nanosecond
  | .epochSeconds => filled 9 filling false t.epochSeconds

/-- So many digits of a fraction of a second in nanoseconds. -/
def fractionText (count nanosecond : Nat) : List Char :=
  padded count '0' (Nat.toDigits 10 (nanosecond / Nat.pow 10 (9 - count)))

/-- The text of one piece for a time. -/
def itemText? (t : DateTime) : FormatItem → Option (List Char)
  | .literal c => some [c]
  | .number part filling => some (numberText t filling part)
  | .shortMonth => some ((monthNames.getD (t.date.month - 1) "").toList.take 3)
  | .longMonth => some (monthNames.getD (t.date.month - 1) "").toList
  | .shortWeekday => some ((weekdayNames.getD t.date.weekdayFromMonday "").toList.take 3)
  | .longWeekday => some (weekdayNames.getD t.date.weekdayFromMonday "").toList
  | .lowerHalf => some (if t.hour < 12 then ['a', 'm'] else ['p', 'm'])
  | .upperHalf => some (if t.hour < 12 then ['A', 'M'] else ['P', 'M'])
  | .fraction =>
    some (
      if t.nanosecond = 0 then []
      else if t.nanosecond % 1000000 = 0 then '.' :: fractionText 3 t.nanosecond
      else if t.nanosecond % 1000 = 0 then '.' :: fractionText 6 t.nanosecond
      else '.' :: fractionText 9 t.nanosecond)
  | .fractionDigits count point =>
    some ((if point then ['.'] else []) ++ fractionText count t.nanosecond)
  | .zone => none

/-- The text of a time; nothing if the format names the zone. -/
def write? (format : DateFormat) (t : DateTime) : Option (List Char) :=
  (format.mapM (itemText? t)).map List.flatten

end DateFormat

/-- A date as year, month and day. -/
def Date.toText (d : Date) : String :=
  String.ofList (DateFormat.yearText .zeros d.year ++ '-' :: DateFormat.twoDigits .zeros d.month ++
    '-' :: DateFormat.twoDigits .zeros d.day)

namespace DateTime

/-- A time of day to the second. -/
def clockText (t : DateTime) : List Char :=
  DateFormat.twoDigits .zeros t.hour ++ ':' :: DateFormat.twoDigits .zeros t.minute ++
    ':' :: DateFormat.twoDigits .zeros t.second

/-- A time to the second. -/
def toText (t : DateTime) : String :=
  t.date.toText ++ String.ofList ('T' :: t.clockText)

/-- A time with the fraction of its second, if there is one. -/
def toPreciseText (t : DateTime) : String :=
  t.toText ++ String.ofList ((DateFormat.itemText? t .fraction).getD [])

end DateTime

end SynthTable
