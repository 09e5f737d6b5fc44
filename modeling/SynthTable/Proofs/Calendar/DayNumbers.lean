import Mathlib.Algebra.GroupWithZero.Nat
import Mathlib.Data.Prod.Lex
import SynthTable.Calendar.DateTime

/-!
# Day numbers follow the calendar

Day numbers count the dates: a later date by year, month and day has a greater number
(`Date.dayNumber_le_dayNumber`), and each number from that of the first date to that of the last is
the number of one date (`Date.ofDayNumber?_eq_some_iff`). For this the lengths of the months are
summed up in a year, and the lengths of the years between years. Whole seconds count the times of
the dates in the same way (`DateTime.ofEpochSeconds?_eq_some_iff`).
-/

namespace SynthTable

namespace Calendar

/-! ## Places in a list of lengths -/

/-- The place of a day, counted from 0, in the stretches of some lengths before and in its own. -/
theorem place_lt {lengths : List Nat} {index day : Nat} (hday : 1 ≤ day)
    (hlength : day ≤ lengths.getD index 0) :
    (lengths.take index).sum + (day - 1) < (lengths.take (index + 1)).sum := by
  have hindex : index < lengths.length := by
    by_contra hge
    simp [List.getD_eq_getElem?_getD, hge] at hlength
    omega
  simp only [List.getD_eq_getElem?_getD, List.getElem?_eq_getElem hindex, Option.getD_some]
    at hlength
  rw [List.take_succ_eq_append_getElem hindex, List.sum_append, List.sum_singleton]
  omega

theorem sum_take_le (lengths : List Nat) {index later : Nat} (h : index ≤ later) :
    (lengths.take index).sum ≤ (lengths.take later).sum := by
  obtain ⟨more, rfl⟩ := Nat.exists_eq_add_of_le h
  rw [List.take_add, List.sum_append]
  omega

theorem sum_take_le_sum (lengths : List Nat) (index : Nat) :
    (lengths.take index).sum ≤ lengths.sum := by
  conv_rhs => rw [← List.take_append_drop index lengths]
  rw [List.sum_append]
  omega

/-- Each place is the place of a day of one of the stretches. -/
theorem exists_of_monthAndDay {lengths : List Nat} {place : Nat} (h : place < lengths.sum)
    (month : Nat) : ∃ index day, monthAndDay month lengths place = (month + index, day) ∧
      1 ≤ day ∧ day ≤ lengths.getD index 0 ∧ (lengths.take index).sum + (day - 1) = place := by
  induction lengths generalizing place month with
  | nil => cases h
  | cons length rest ih =>
    rw [monthAndDay]
    by_cases hfirst : place < length
    · rw [if_pos hfirst]
      exact ⟨0, place + 1, rfl, by omega, hfirst, by simp⟩
    · rw [if_neg hfirst]
      rw [List.sum_cons] at h
      have hrest : place - length < rest.sum := by omega
      obtain ⟨index, day, heq, hday, hlength, hplace⟩ := ih hrest (month + 1)
      refine ⟨index + 1, day, ?_, hday, hlength, ?_⟩
      · rw [heq]
        congr 1
        omega
      · rw [List.take_succ_cons, List.sum_cons]
        omega

/-! ## Years -/

/-- The number of days of a year. -/
def yearLength (year : Int) : Nat := if isLeapYear year then 366 else 365

theorem isLeapYear_iff {year : Int} :
    isLeapYear year = true ↔ year % 4 = 0 ∧ (year % 100 ≠ 0 ∨ year % 400 = 0) := by
  simp [isLeapYear]

theorem sum_monthLengths (year : Int) : (monthLengths year).sum = yearLength year := by
  by_cases h : isLeapYear year = true <;> simp [monthLengths, yearLength, h]

theorem daysBeforeYear_add_one (year : Int) :
    daysBeforeYear (year + 1) = daysBeforeYear year + yearLength year := by
  rw [daysBeforeYear, daysBeforeYear, yearLength]
  by_cases h : isLeapYear year = true
  · rw [if_pos h]
    rw [isLeapYear_iff] at h
    omega
  · rw [if_neg h]
    rw [isLeapYear_iff] at h
    omega

theorem daysBeforeYear_mono {year later : Int} (h : year ≤ later) :
    daysBeforeYear year ≤ daysBeforeYear later := by
  obtain ⟨years, rfl⟩ := Int.exists_add_of_le h
  induction years with
  | zero => simp
  | succ years ih =>
    have hlast := daysBeforeYear_add_one (year + years)
    have hprefix := ih (by omega)
    rw [Int.natCast_succ, ← Int.add_assoc]
    omega

/-- The days before a year by its digits: cycles of 400 years, centuries, fours and single years. -/
theorem daysBeforeYear_digits {cycles : Int} {centuries fours years : Nat}
    (hcenturies : centuries ≤ 3) (hfours : fours ≤ 24) (hyears : years ≤ 3) :
    daysBeforeYear (400 * cycles + 100 * centuries + 4 * fours + years + 1) =
      146097 * cycles + 36524 * centuries + 1461 * fours + 365 * years := by
  rw [daysBeforeYear]
  omega

/-- The last year of four is a leap year, but the last of a century only in the last century. -/
theorem isLeapYear_digits {cycles : Int} {centuries fours years : Nat}
    (hcenturies : centuries ≤ 3) (hfours : fours ≤ 24) (hyears : years ≤ 3) :
    isLeapYear (400 * cycles + 100 * centuries + 4 * fours + years + 1) = true ↔
      years = 3 ∧ (fours ≠ 24 ∨ centuries = 3) := by
  rw [isLeapYear_iff]
  omega

/-- A day lies in its year at its place. -/
theorem yearAndPlace_spec (day : Int) :
    daysBeforeYear (yearAndPlace day).1 + (yearAndPlace day).2 = day ∧
      (yearAndPlace day).2 < yearLength (yearAndPlace day).1 := by
  simp only [yearAndPlace]
  generalize hcycles : day / 146097 = cycles
  generalize hrest : (day % 146097).toNat = rest
  generalize hcenturies : min (rest / 36524) 3 = centuries
  generalize hrest' : rest - 36524 * centuries = rest'
  generalize hfours : rest' / 1461 = fours
  generalize hrest'' : rest' - 1461 * fours = rest''
  generalize hyears : min (rest'' / 365) 3 = years
  have hday : 146097 * cycles + rest = day := by omega
  have hdigits :
      rest = 36524 * centuries + 1461 * fours + 365 * years + (rest'' - 365 * years) := by
    omega
  have hbounds : centuries ≤ 3 ∧ fours ≤ 24 ∧ years ≤ 3 := by omega
  obtain ⟨hcenturies, hfours, hyears⟩ := hbounds
  refine ⟨?_, ?_⟩
  · rw [daysBeforeYear_digits hcenturies hfours hyears]
    omega
  · have hfour : rest'' ≤ 1460 := by omega
    rw [yearLength]
    split
    · omega
    · next hleap =>
      rw [isLeapYear_digits hcenturies hfours hyears] at hleap
      omega

end Calendar

open Calendar

namespace Date

variable {d e : Date} {n : Int}

/-! ## Dates in order -/

/-- Year, month and day; dates are compared by the first that differs. -/
def parts (d : Date) : Lex (Int × Lex (Nat × Nat)) := toLex (d.year, toLex (d.month, d.day))

theorem parts_lt_iff : d.parts < e.parts ↔ d.year < e.year ∨
    d.year = e.year ∧ (d.month < e.month ∨ d.month = e.month ∧ d.day < e.day) := by
  simp only [parts, Prod.Lex.toLex_lt_toLex]

theorem parts_injective : Function.Injective parts := by
  rintro ⟨year, month, day, h⟩ ⟨year', month', day', h'⟩ heq
  simpa [parts] using heq

/-- The index of the month, and the day in it. -/
theorem exists_index (d : Date) : ∃ index, d.month = index + 1 ∧ 1 ≤ d.day ∧
    d.day ≤ (monthLengths d.year).getD index 0 := by
  obtain ⟨-, -, hday, hlength⟩ := d.isDate
  cases hmonth : d.month with
  | zero =>
    rw [hmonth, monthLength] at hlength
    omega
  | succ index =>
    rw [hmonth, monthLength] at hlength
    exact ⟨index, rfl, hday, hlength⟩

theorem placeInYear_eq {index : Nat} (h : d.month = index + 1) :
    d.placeInYear = ((monthLengths d.year).take index).sum + (d.day - 1) := by
  rw [placeInYear, h]
  rfl

theorem placeInYear_lt (d : Date) : d.placeInYear < yearLength d.year := by
  obtain ⟨index, hmonth, hday, hlength⟩ := d.exists_index
  rw [placeInYear_eq hmonth, ← sum_monthLengths]
  exact Nat.lt_of_lt_of_le (place_lt hday hlength) (sum_take_le_sum _ _)

/-- In a year, later dates have greater places. -/
theorem placeInYear_lt_placeInYear (hyear : d.year = e.year)
    (h : d.month < e.month ∨ d.month = e.month ∧ d.day < e.day) :
    d.placeInYear < e.placeInYear := by
  obtain ⟨index, hmonth, hday, hlength⟩ := d.exists_index
  obtain ⟨index', hmonth', hday', -⟩ := e.exists_index
  rw [placeInYear_eq hmonth, placeInYear_eq hmonth', hyear]
  rw [hyear] at hlength
  rcases h with h | ⟨h, hlater⟩
  · have hplace := place_lt hday hlength
    have hnext : index + 1 ≤ index' := by omega
    have hmonths := sum_take_le (monthLengths e.year) hnext
    omega
  · obtain rfl : index = index' := by omega
    omega

/-- Later dates have greater numbers. -/
theorem dayNumber_lt_of_parts_lt (h : d.parts < e.parts) : d.dayNumber < e.dayNumber := by
  rw [dayNumber, dayNumber]
  rcases parts_lt_iff.1 h with hyear | ⟨hyear, hlater⟩
  · have hplace := d.placeInYear_lt
    have hnext := daysBeforeYear_add_one d.year
    have hyears := daysBeforeYear_mono (Int.add_one_le_of_lt hyear)
    omega
  · have hplace := placeInYear_lt_placeInYear hyear hlater
    rw [hyear]
    omega

theorem dayNumber_le_dayNumber : d.dayNumber ≤ e.dayNumber ↔ d.parts ≤ e.parts := by
  constructor
  · intro h
    by_contra hlater
    have hless := dayNumber_lt_of_parts_lt (not_le.1 hlater)
    omega
  · intro h
    rcases lt_or_eq_of_le h with hless | heq
    · exact Int.le_of_lt (dayNumber_lt_of_parts_lt hless)
    · rw [parts_injective heq]

theorem dayNumber_injective : Function.Injective dayNumber := by
  intro d e h
  have hle := dayNumber_le_dayNumber.1 h.le
  have hge := dayNumber_le_dayNumber.1 h.ge
  exact parts_injective (le_antisymm hle hge)

theorem first_le_dayNumber (d : Date) : first.dayNumber ≤ d.dayNumber := by
  have hyear := daysBeforeYear_mono d.isDate.1
  have hfirst : first.dayNumber = originDay + daysBeforeYear firstYear := by rfl
  rw [hfirst, dayNumber]
  omega

theorem dayNumber_le_last (d : Date) : d.dayNumber ≤ last.dayNumber := by
  have hplace := d.placeInYear_lt
  have hnext := daysBeforeYear_add_one d.year
  have hyear := daysBeforeYear_mono (Int.add_le_add_right d.isDate.2.1 1)
  have hlast : last.dayNumber + 1 = originDay + daysBeforeYear (lastYear + 1) := by rfl
  rw [dayNumber]
  omega

/-! ## The date of a number -/

/-- The number says year, month and day. -/
theorem exists_of_ofDayNumber? (n : Int) : ∃ year index day,
    ofDayNumber? n = ofParts? year (index + 1) day ∧ 1 ≤ day ∧
      day ≤ (monthLengths year).getD index 0 ∧
      originDay + daysBeforeYear year + (((monthLengths year).take index).sum + (day - 1) : Nat) =
        n := by
  obtain ⟨hday, hplace⟩ := yearAndPlace_spec (n - originDay)
  rw [← sum_monthLengths] at hplace
  obtain ⟨index, day, hmonth, hfirst, hlength, hsum⟩ := exists_of_monthAndDay hplace 1
  refine ⟨_, index, day, ?_, hfirst, hlength, ?_⟩
  · simp only [ofDayNumber?, hmonth, Nat.add_comm]
  · rw [hsum]
    omega

theorem dayNumber_of_ofDayNumber? (h : ofDayNumber? n = some d) : d.dayNumber = n := by
  obtain ⟨year, index, day, heq, -, -, hnumber⟩ := exists_of_ofDayNumber? n
  rw [heq, ofParts?] at h
  split at h
  · cases h
    rw [dayNumber, placeInYear_eq rfl]
    exact hnumber
  · cases h

theorem exists_ofDayNumber?_eq_some (hfirst : first.dayNumber ≤ n) (hlast : n ≤ last.dayNumber) :
    ∃ d, ofDayNumber? n = some d := by
  obtain ⟨year, index, day, heq, hday, hlength, hnumber⟩ := exists_of_ofDayNumber? n
  have hplace := Nat.lt_of_lt_of_le (place_lt hday hlength) (sum_take_le_sum _ _)
  rw [sum_monthLengths] at hplace
  have hnext := daysBeforeYear_add_one year
  have hfrom : firstYear ≤ year := by
    by_contra hless
    have hyears := daysBeforeYear_mono (Int.add_one_le_of_lt (Int.not_le.1 hless))
    have hstart : first.dayNumber = originDay + daysBeforeYear firstYear := by rfl
    omega
  have hto : year ≤ lastYear := by
    by_contra hgreater
    have hyears := daysBeforeYear_mono (Int.add_one_le_of_lt (Int.not_le.1 hgreater))
    have hend : last.dayNumber + 1 = originDay + daysBeforeYear (lastYear + 1) := by rfl
    omega
  have hdate : IsDate year (index + 1) day := ⟨hfrom, hto, hday, hlength⟩
  exact ⟨⟨year, index + 1, day, hdate⟩, heq.trans (dif_pos hdate)⟩

/-- A number is that of one date at most. -/
theorem ofDayNumber?_eq_some_iff : ofDayNumber? n = some d ↔ d.dayNumber = n := by
  constructor
  · exact dayNumber_of_ofDayNumber?
  · rintro rfl
    obtain ⟨e, he⟩ := exists_ofDayNumber?_eq_some d.first_le_dayNumber d.dayNumber_le_last
    rw [he, dayNumber_injective (dayNumber_of_ofDayNumber? he)]

end Date

namespace DateTime

variable {s t : DateTime} {n : Int}

/-! ## Whole seconds -/

/-- Date, hour, minute and second; times are compared by the first part that differs. -/
def parts (t : DateTime) : Lex (Lex (Int × Lex (Nat × Nat)) × Lex (Nat × Lex (Nat × Nat))) :=
  toLex (t.date.parts, toLex (t.hour, toLex (t.minute, t.second)))

/-- A whole second that is no leap second. -/
def IsEpochSecond (t : DateTime) : Prop := t.second ≤ 59 ∧ t.nanosecond = 0

instance (t : DateTime) : Decidable t.IsEpochSecond := inferInstanceAs (Decidable (_ ∧ _))

theorem parts_lt_iff : s.parts < t.parts ↔ s.date.parts < t.date.parts ∨ s.date = t.date ∧
    (s.hour < t.hour ∨ s.hour = t.hour ∧
      (s.minute < t.minute ∨ s.minute = t.minute ∧ s.second < t.second)) := by
  simp only [parts, Prod.Lex.toLex_lt_toLex, Date.parts_injective.eq_iff]

theorem eq_of_parts_eq (hs : s.IsEpochSecond) (ht : t.IsEpochSecond) (h : s.parts = t.parts) :
    s = t := by
  rcases s with ⟨date, hour, minute, second, nanosecond, hclock⟩
  rcases t with ⟨date', hour', minute', second', nanosecond', hclock'⟩
  obtain ⟨-, hnano⟩ := hs
  obtain ⟨-, hnano'⟩ := ht
  dsimp only at hnano hnano'
  subst hnano hnano'
  simpa [parts, Date.parts_injective.eq_iff] using h

theorem epochSeconds_lt_of_parts_lt (hs : s.IsEpochSecond) (ht : t.IsEpochSecond)
    (h : s.parts < t.parts) : s.epochSeconds < t.epochSeconds := by
  obtain ⟨hhour, hminute, -, -⟩ := s.isTime
  obtain ⟨hhour', hminute', -, -⟩ := t.isTime
  obtain ⟨hsecond, -⟩ := hs
  obtain ⟨hsecond', -⟩ := ht
  rw [epochSeconds, epochSeconds]
  rcases parts_lt_iff.1 h with hdate | ⟨hdate, hlater⟩
  · have hday := Date.dayNumber_lt_of_parts_lt hdate
    omega
  · rw [hdate]
    omega

theorem epochSeconds_le_epochSeconds (hs : s.IsEpochSecond) (ht : t.IsEpochSecond) :
    s.epochSeconds ≤ t.epochSeconds ↔ s.parts ≤ t.parts := by
  constructor
  · intro h
    by_contra hlater
    have hless := epochSeconds_lt_of_parts_lt ht hs (not_le.1 hlater)
    omega
  · intro h
    rcases lt_or_eq_of_le h with hless | heq
    · exact Int.le_of_lt (epochSeconds_lt_of_parts_lt hs ht hless)
    · rw [eq_of_parts_eq hs ht heq]

/-- A number is that of one whole second at most. -/
theorem ofEpochSeconds?_eq_some_iff :
    ofEpochSeconds? n = some t ↔ t.IsEpochSecond ∧ t.epochSeconds = n := by
  constructor
  · intro h
    obtain ⟨date, hdate, h⟩ := Option.bind_eq_some_iff.1 h
    rw [Date.ofDayNumber?_eq_some_iff] at hdate
    rw [ofParts?] at h
    split at h
    · cases h
      refine ⟨⟨by dsimp only; omega, rfl⟩, ?_⟩
      rw [epochSeconds]
      dsimp only
      omega
    · cases h
  · rintro ⟨⟨hsecond, hnano⟩, rfl⟩
    obtain ⟨hhour, hminute, -, -⟩ := t.isTime
    have hday : t.epochSeconds / 86400 = t.date.dayNumber := by
      rw [epochSeconds]
      omega
    have hclock : (t.epochSeconds % 86400).toNat = 3600 * t.hour + 60 * t.minute + t.second := by
      rw [epochSeconds]
      omega
    have hparts : (3600 * t.hour + 60 * t.minute + t.second) / 3600 = t.hour ∧
        (3600 * t.hour + 60 * t.minute + t.second) / 60 % 60 = t.minute ∧
        (3600 * t.hour + 60 * t.minute + t.second) % 60 = t.second := by
      omega
    obtain ⟨hours, minutes, seconds⟩ := hparts
    rw [ofEpochSeconds?, hday, Date.ofDayNumber?_eq_some_iff.2 rfl, Option.bind_eq_bind,
      Option.bind_some]
    dsimp only
    rw [hclock, hours, minutes, seconds, ← hnano]
    exact dif_pos t.isTime

/-- Each number between those of two times is the number of a whole second. -/
theorem exists_ofEpochSeconds?_eq_some (hs : s.epochSeconds ≤ n) (ht : n ≤ t.epochSeconds) :
    ∃ r, ofEpochSeconds? n = some r := by
  obtain ⟨hhour, hminute, -, -⟩ := t.isTime
  have hfirst := s.date.first_le_dayNumber
  have hlast := t.date.dayNumber_le_last
  rw [epochSeconds] at hs ht
  obtain ⟨date, hdate⟩ := Date.exists_ofDayNumber?_eq_some (n := n / 86400) (by omega) (by omega)
  have hclock : (n % 86400).toNat / 3600 < 24 ∧ (n % 86400).toNat / 60 % 60 < 60 ∧
      (n % 86400).toNat % 60 ≤ 60 ∧ 0 < 1000000000 := by
    omega
  rw [ofEpochSeconds?, hdate]
  exact ⟨_, dif_pos hclock⟩

end DateTime

end SynthTable
