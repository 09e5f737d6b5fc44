import SynthTable.Calendar.Date

/-!
# Times of a date

A date with a time of day to the nanosecond. Second 60 is the leap second; it is counted with second
59, and the nanoseconds after it reach past one second.
-/

namespace SynthTable

/-- A date and a time of day. -/
structure DateTime where
  date : Date
  hour : Nat
  minute : Nat
  second : Nat
  nanosecond : Nat
  isTime : hour < 24 ∧ minute < 60 ∧ second ≤ 60 ∧ nanosecond < 1000000000
  deriving DecidableEq

namespace DateTime

/-- The time of a date and four numbers. -/
def ofParts? (date : Date) (hour minute second nanosecond : Nat) : Option DateTime :=
  if h : hour < 24 ∧ minute < 60 ∧ second ≤ 60 ∧ nanosecond < 1000000000 then
    some ⟨date, hour, minute, second, nanosecond, h⟩
  else none

/-- The start of a date. -/
def midnight (date : Date) : DateTime := ⟨date, 0, 0, 0, 0, by decide⟩

/-- Seconds since the start of 1 January 1970. -/
def epochSeconds (t : DateTime) : Int :=
  86400 * t.date.dayNumber + 3600 * t.hour + 60 * t.minute + min t.second 59

/-- Nanoseconds since the second counted last. -/
def nanosecondsPast (t : DateTime) : Nat :=
  if t.second = 60 then 1000000000 + t.nanosecond else t.nanosecond

/-- Milliseconds since the start of 1 January 1970. -/
def epochMilliseconds (t : DateTime) : Int :=
  1000 * t.epochSeconds + (t.nanosecondsPast / 1000000 : Nat)

/-- The time of a second since the start of 1 January 1970. -/
def ofEpochSeconds? (n : Int) : Option DateTime := do
  let date ← Date.ofDayNumber? (n / 86400)
  let rest := (n % 86400).toNat
  ofParts? date (rest / 3600) (rest / 60 % 60) (rest % 60) 0

/-- The time some minutes earlier on the clock. -/
def minutesEarlier? (t : DateTime) (minutes : Int) : Option DateTime := do
  let total := 1440 * t.date.dayNumber + 60 * t.hour + t.minute - minutes
  let date ← Date.ofDayNumber? (total / 1440)
  let rest := (total % 1440).toNat
  ofParts? date (rest / 60) (rest % 60) t.second t.nanosecond

end DateTime

end SynthTable
