/-!
# Dates

Dates of the Gregorian calendar, extended to all years between two fixed ones. Each date has a day
number, counted from 1 January 1970, and a place in its year, its week and its numbered week.
-/

namespace SynthTable

namespace Calendar

/-- The first year with dates. -/
def firstYear : Int := -262143

/-- The last year with dates. -/
def lastYear : Int := 262142

/-- Leap years are the multiples of four, without the centuries that no multiple of 400 are. -/
def isLeapYear (year : Int) : Bool := year % 4 == 0 && (year % 100 != 0 || year % 400 == 0)

/-- The lengths of the months of a year. -/
def monthLengths (year : Int) : List Nat :=
  [31, if isLeapYear year then 29 else 28, 31, 30, 31, 30, 31, 31, 30, 31, 30, 31]

/-- The length of a month; none for numbers that are no months. -/
def monthLength (year : Int) (month : Nat) : Nat :=
  match month with
  | 0 => 0
  | m + 1 => (monthLengths year).getD m 0

/-- The number of days before a year, counted from 1 January of the year 1. -/
def daysBeforeYear (year : Int) : Int :=
  365 * (year - 1) + (year - 1) / 4 - (year - 1) / 100 + (year - 1) / 400

/-- The day number of 1 January of the year 1, counted from 1 January 1970. -/
def originDay : Int := -719162

/-- The month and the day of a place in the year, given the lengths of the months from `month`
on. -/
def monthAndDay (month : Nat) : List Nat → Nat → Nat × Nat
  | [], place => (month, place + 1)
  | length :: rest, place =>
    if place < length then (month, place + 1) else monthAndDay (month + 1) rest (place - length)

/-- The year of a day counted from 1 January of the year 1, and the place of the day in it. -/
def yearAndPlace (day : Int) : Int × Nat :=
  let cycles := day / 146097
  let day := (day % 146097).toNat
  let centuries := min (day / 36524) 3
  let day := day - 36524 * centuries
  let fours := day / 1461
  let day := day - 1461 * fours
  let years := min (day / 365) 3
  (400 * cycles + 100 * centuries + 4 * fours + years + 1, day - 365 * years)

/-- Whether year, month and day make a date. -/
def IsDate (year : Int) (month day : Nat) : Prop :=
  firstYear ≤ year ∧ year ≤ lastYear ∧ 1 ≤ day ∧ day ≤ monthLength year month

instance (year : Int) (month day : Nat) : Decidable (IsDate year month day) :=
  inferInstanceAs (Decidable (_ ∧ _ ∧ _ ∧ _))

end Calendar

open Calendar

/-- A date. -/
structure Date where
  year : Int
  month : Nat
  day : Nat
  isDate : IsDate year month day
  deriving DecidableEq

namespace Date

/-- The date of a year, a month and a day. -/
def ofParts? (year : Int) (month day : Nat) : Option Date :=
  if h : IsDate year month day then some ⟨year, month, day, h⟩ else none

/-- 1 January 1970. -/
def epoch : Date := ⟨1970, 1, 1, by decide⟩

instance : Inhabited Date := ⟨epoch⟩

/-- The place of a date in its year, from 0 on. -/
def placeInYear (d : Date) : Nat :=
  ((monthLengths d.year).take (d.month - 1)).foldr (· + ·) 0 + (d.day - 1)

/-- The number of days from 1 January 1970 to a date. -/
def dayNumber (d : Date) : Int := originDay + daysBeforeYear d.year + d.placeInYear

/-- The date of a day number. -/
def ofDayNumber? (n : Int) : Option Date :=
  let (year, place) := yearAndPlace (n - originDay)
  let (month, day) := monthAndDay 1 (monthLengths year) place
  ofParts? year month day

/-- The first date. -/
def first : Date := ⟨firstYear, 1, 1, by decide⟩

/-- The last date. -/
def last : Date := ⟨lastYear, 12, 31, by decide⟩

/-- The number of days from the last Monday to a date. -/
def weekdayFromMonday (d : Date) : Nat := ((d.dayNumber + 3) % 7).toNat

/-- The number of days from the last Sunday to a date. -/
def weekdayFromSunday (d : Date) : Nat := ((d.dayNumber + 4) % 7).toNat

/-- The number of weeks of the year that began on a Monday up to a date. -/
def weekFromMonday (d : Date) : Nat := (d.placeInYear + 7 - d.weekdayFromMonday) / 7

/-- The number of weeks of the year that began on a Sunday up to a date. -/
def weekFromSunday (d : Date) : Nat := (d.placeInYear + 7 - d.weekdayFromSunday) / 7

/-- The year and the number of the week of a date; a week belongs to the year of its Thursday. -/
def numberedWeek (d : Date) : Int × Nat :=
  let thursday := d.dayNumber - d.weekdayFromMonday + 3
  let (year, place) := yearAndPlace (thursday - originDay)
  (year, place / 7 + 1)

end Date

end SynthTable
