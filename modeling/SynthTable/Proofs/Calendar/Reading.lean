import SynthTable.Calendar.Format
import SynthTable.Calendar.Reader
import SynthTable.Proofs.Number.Digits
import SynthTable.Proofs.Text.Parts

/-!
# Written dates are read back

The text of a date is read as it in the first layout, whatever its year is: four digits are read as
far as they go, and a sign announces any number of digits (`year?_yearText`). What follows the date
is left, so a time is read by the same pieces (`pieces?_dashes`, `pieces?_clock`). So a date and a
time to the second are read from their texts (`Date.ofText?_toText`, `DateTime.ofText?_toText`).
-/

namespace SynthTable

open Numeral DateFormat DateReader

variable {digits rest : List Char} {width n : Nat}

/-! ## Numbers in front of a text -/

namespace DateReader

/-- A run of digits is a number where it fills its width or another character follows. -/
theorem number?_append (hne : digits ≠ []) (hdigits : ∀ c ∈ digits, isDigit c = true)
    (hwidth : digits.length ≤ width)
    (hrest : digits.length = width ∨ ∀ c ∈ rest.head?, isDigit c = false) :
    number? width (digits ++ rest) = some (value digits, rest) := by
  have hstop : ∀ c ∈ (rest.take (width - digits.length)).head?, isDigit c = false := by
    intro c hc
    rcases hrest with hfull | hrest
    · simp [hfull] at hc
    · rw [List.head?_take] at hc
      split at hc
      · cases hc
      · exact hrest c hc
  obtain ⟨htake, -⟩ := Text.takeWhile_run hdigits hstop
  rw [number?, List.take_append, List.take_of_length_le hwidth, htake]
  simp [hne]

theorem longNumber?_append (hne : digits ≠ []) (hdigits : ∀ c ∈ digits, isDigit c = true)
    (hrest : ∀ c ∈ rest.head?, isDigit c = false) :
    longNumber? (digits ++ rest) = some (value digits, rest) := by
  refine number?_append hne hdigits ?_ (.inr hrest)
  rw [List.length_append]
  omega

end DateReader

namespace DateFormat

theorem twoDigits_zeros (n : Nat) :
    twoDigits .zeros n = [Char.ofNat (48 + n / 10), Char.ofNat (48 + n % 10)] := by
  unfold twoDigits
  cases n / 10 <;> rfl

theorem digits_twoDigits (h : n < 100) : (twoDigits .zeros n).length = 2 ∧
    (∀ c ∈ twoDigits .zeros n, isDigit c = true) ∧ value (twoDigits .zeros n) = n := by
  have hdigit : ∀ d < 10, isDigit (.ofNat (48 + d)) = true ∧ digitValue (.ofNat (48 + d)) = d := by
    decide
  obtain ⟨htens, htensValue⟩ := hdigit (n / 10) (by omega)
  obtain ⟨hones, honesValue⟩ := hdigit (n % 10) (by omega)
  rw [twoDigits_zeros]
  refine ⟨rfl, by simp [htens, hones], ?_⟩
  simp only [value, List.foldl_cons, List.foldl_nil, htensValue, honesValue]
  omega

theorem isDigit_of_mem_padded {c : Char} (h : c ∈ padded width '0' (Nat.toDigits 10 n)) :
    isDigit c = true := by
  rw [padded, List.mem_append] at h
  rcases h with hzero | hdigit
  · rw [List.eq_of_mem_replicate hzero]
    decide
  · exact isDigit_of_mem_toDigits hdigit

theorem padded_ne_nil (width n : Nat) : padded width '0' (Nat.toDigits 10 n) ≠ [] := by
  simp [padded, Nat.toDigits_ne_nil]

theorem value_padded (width n : Nat) : value (padded width '0' (Nat.toDigits 10 n)) = n := by
  rw [padded, value_zeros, value_toDigits]

/-- A year is four digits, or a sign and digits. -/
theorem yearText_cases (year : Int) :
    (∃ m : Nat, year = m ∧ m < 10000 ∧ yearText .zeros year = padded 4 '0' (Nat.toDigits 10 m)) ∨
    (∃ m : Nat, year = m ∧ yearText .zeros year = '+' :: padded 4 '0' (Nat.toDigits 10 m)) ∨
    ∃ m : Nat, year = -m ∧ yearText .zeros year = '-' :: padded 4 '0' (Nat.toDigits 10 m) := by
  rw [yearText]
  by_cases hneg : year < 0
  · refine .inr (.inr ⟨year.natAbs, by omega, ?_⟩)
    rw [if_neg (by omega)]
    simp [filled, hneg]
  · by_cases hshort : year < 10000
    · refine .inl ⟨year.natAbs, by omega, by omega, ?_⟩
      rw [if_pos ⟨by omega, hshort⟩]
      simp [filled, hneg]
    · refine .inr (.inl ⟨year.natAbs, by omega, ?_⟩)
      rw [if_neg (by omega)]
      simp [filled, hneg]

end DateFormat

/-! ## Texts without blanks -/

theorem tight_twoDigits (h : n < 100) : Text.IsTight (twoDigits .zeros n) := by
  obtain ⟨hlength, hdigits, -⟩ := digits_twoDigits h
  refine tight_of_digits ?_ hdigits
  intro hnil
  rw [hnil] at hlength
  cases hlength

theorem tight_yearText (year : Int) : Text.IsTight (yearText .zeros year) := by
  have hpadded (m : Nat) : Text.IsTight (padded 4 '0' (Nat.toDigits 10 m)) :=
    tight_of_digits (padded_ne_nil 4 m) fun c => isDigit_of_mem_padded
  have hsign {c : Char} (hc : Text.isBlank c = false) : Text.IsTight [c] :=
    ⟨List.cons_ne_nil _ _, by simpa using hc, by simpa using hc⟩
  rcases yearText_cases year with ⟨m, -, -, htext⟩ | ⟨m, -, htext⟩ | ⟨m, -, htext⟩
  · rw [htext]
    exact hpadded m
  · rw [htext]
    exact (hsign (by decide)).join (hpadded m) []
  · rw [htext]
    exact (hsign (by decide)).join (hpadded m) []

/-- Blanks before a text without them are none. -/
theorem trimStart_append {cs : List Char} (h : Text.IsTight cs) :
    Text.trimStart (cs ++ rest) = cs ++ rest := by
  obtain ⟨c, more, rfl⟩ := List.exists_cons_of_ne_nil h.ne_nil
  exact Text.dropWhile_eq_self h.head

/-! ## Pieces of a layout -/

namespace DateReader

theorem number?_twoDigits (h : n < 100) (rest : List Char) :
    number? 2 (Text.trimStart (twoDigits .zeros n ++ rest)) = some (n, rest) := by
  obtain ⟨hlength, hdigits, hvalue⟩ := digits_twoDigits h
  rw [trimStart_append (tight_twoDigits h),
    number?_append (tight_twoDigits h).ne_nil hdigits hlength.le (.inl hlength), hvalue]

/-- A year is read up to the next character that is no digit. -/
theorem year?_yearText (year : Int) (hrest : ∀ c ∈ rest.head?, isDigit c = false) :
    year? (Text.trimStart (yearText .zeros year ++ rest)) = some (year, rest) := by
  have hlong (m : Nat) :
      longNumber? (padded 4 '0' (Nat.toDigits 10 m) ++ rest) = some (m, rest) := by
    rw [longNumber?_append (padded_ne_nil 4 m) (fun c => isDigit_of_mem_padded) hrest, value_padded]
  rw [trimStart_append (tight_yearText year)]
  rcases yearText_cases year with ⟨m, rfl, hshort, htext⟩ | ⟨m, rfl, htext⟩ | ⟨m, rfl, htext⟩
  · have hlength : (padded 4 '0' (Nat.toDigits 10 m)).length ≤ 4 := by
      have hdigits := (Nat.length_toDigits_le_iff (n := m) (k := 4) (b := 10) (by decide)
        (by decide)).2 hshort
      rw [padded, List.length_append, List.length_replicate]
      omega
    have hread := number?_append (padded_ne_nil 4 m) (fun c => isDigit_of_mem_padded) hlength
      (.inr hrest)
    rw [value_padded] at hread
    obtain ⟨c, more, hcons⟩ := List.exists_cons_of_ne_nil (padded_ne_nil 4 m)
    have hc : isDigit c = true := isDigit_of_mem_padded (hcons ▸ List.mem_cons_self)
    obtain ⟨hminus, hplus⟩ := ne_sign_of_isDigit hc
    rw [htext]
    rw [hcons] at hread ⊢
    unfold year?
    split
    · next heq => exact absurd (List.cons.inj heq).1 hminus
    · next heq => exact absurd (List.cons.inj heq).1 hplus
    · rw [hread]
      rfl
  · rw [htext, List.cons_append, year?, hlong]
    rfl
  · rw [htext, List.cons_append, year?, hlong]
    rfl

end DateReader

namespace Date

/-- Month and day are numbers of two digits. -/
theorem month_day_lt (d : Date) : d.month < 100 ∧ d.day < 100 := by
  obtain ⟨-, -, hday, hlength⟩ := d.isDate
  have hall : ∀ length ∈ Calendar.monthLengths d.year, length ≤ 31 := by
    by_cases h : Calendar.isLeapYear d.year = true <;> simp [Calendar.monthLengths, h]
  cases hmonth : d.month with
  | zero =>
    rw [hmonth, Calendar.monthLength] at hlength
    omega
  | succ index =>
    rw [hmonth, Calendar.monthLength] at hlength
    by_cases hindex : index < (Calendar.monthLengths d.year).length
    · rw [List.getD_eq_getElem?_getD, List.getElem?_eq_getElem hindex, Option.getD_some] at hlength
      have hlong := hall _ (List.getElem_mem hindex)
      have htwelve : (Calendar.monthLengths d.year).length = 12 := rfl
      omega
    · rw [List.getD_eq_getElem?_getD, List.getElem?_eq_none (by omega), Option.getD_none] at hlength
      omega

end Date

namespace DateReader

variable {layout : List Piece} {parts : Parts}

/-- The pieces of a date take its text. -/
theorem pieces?_dashes (d : Date) :
    pieces? (dashes ++ layout) parts (d.toText.toList ++ rest) =
      pieces? layout { parts with year := d.year, month := d.month, day := d.day } rest := by
  obtain ⟨hmonth, hday⟩ := d.month_day_lt
  have hstop (more : List Char) : ∀ c ∈ ('-' :: more).head?, isDigit c = false := by
    simp
    decide
  simp only [Date.toText, String.toList_ofList, dashes, List.cons_append, List.nil_append,
    List.append_assoc, pieces?, piece?, year?_yearText d.year (hstop _), number?_twoDigits hmonth,
    number?_twoDigits hday, Text.dropLead?, Option.bind_eq_bind, Option.map_some, Option.bind_some,
    if_true]

/-- The pieces of a clock take the text of a time of day. -/
theorem pieces?_clock (t : DateTime) :
    pieces? (DateReader.clock ++ layout) parts (t.clockText ++ rest) =
      pieces? layout
        { parts with hour := t.hour, minute := t.minute, second := t.second } rest := by
  obtain ⟨hhour, hminute, hsecond, -⟩ := t.isTime
  have hhour' : t.hour < 100 := by omega
  have hminute' : t.minute < 100 := by omega
  have hsecond' : t.second < 100 := by omega
  simp only [DateTime.clockText, clock, List.cons_append, List.nil_append, List.append_assoc,
    pieces?, piece?, number?_twoDigits hhour', number?_twoDigits hminute',
    number?_twoDigits hsecond', Text.dropLead?, Option.bind_eq_bind, Option.map_some,
    Option.bind_some, if_true]

end DateReader

/-! ## Dates and times -/

theorem Date.tight_toText (d : Date) : Text.IsTight d.toText.toList := by
  obtain ⟨hmonth, hday⟩ := d.month_day_lt
  have htight := (tight_yearText d.year).join (tight_twoDigits hday)
    ('-' :: twoDigits .zeros d.month ++ ['-'])
  simpa [Date.toText] using htight

/-- The text of a date is read as it. -/
theorem Date.ofText?_toText (d : Date) : Date.ofText? d.toText = some d := by
  have hread : pieces? dashes .none d.toText.toList =
      some { Parts.none with year := d.year, month := d.month, day := d.day } := by
    have hpieces : pieces? (dashes ++ []) .none (d.toText.toList ++ []) = _ := pieces?_dashes d
    rwa [List.append_nil, List.append_nil, pieces?] at hpieces
  have hdate : Parts.date? { Parts.none with year := d.year, month := d.month, day := d.day } =
      some d := dif_pos d.isDate
  rw [Date.ofText?, Text.trim_of_tight d.tight_toText]
  simp only [List.findSome?_cons, hread, Option.bind_eq_bind, Option.bind_some, hdate]

namespace DateTime

theorem tight_toText (t : DateTime) : Text.IsTight t.toText.toList := by
  obtain ⟨hhour, hminute, hsecond, -⟩ := t.isTime
  have htight := t.date.tight_toText.join (tight_twoDigits (n := t.second) (by omega))
    ('T' :: twoDigits .zeros t.hour ++ ':' :: twoDigits .zeros t.minute ++ [':'])
  simpa [DateTime.toText, clockText] using htight

/-- The text of a whole second, a leap second included, is read as it. -/
theorem ofText?_toText {t : DateTime} (h : t.nanosecond = 0) :
    DateTime.ofText? t.toText = some t := by
  have hread : pieces? (dashes ++ .literal 'T' :: DateReader.clock) .none t.toText.toList =
      some ⟨t.date.year, t.date.month, t.date.day, t.hour, t.minute, t.second⟩ := by
    have hclock : pieces? (DateReader.clock ++ [])
        ⟨t.date.year, t.date.month, t.date.day, 0, 0, 0⟩ (t.clockText ++ []) = _ := pieces?_clock t
    rw [List.append_nil, List.append_nil] at hclock
    rw [toText, String.toList_append, String.toList_ofList, pieces?_dashes]
    simp only [pieces?, piece?, Text.dropLead?, if_true, Option.map_some, Option.bind_eq_bind,
      Option.bind_some]
    exact hclock
  have htime : Parts.dateTime? ⟨t.date.year, t.date.month, t.date.day, t.hour, t.minute, t.second⟩ =
      some t := by
    have hdate : Parts.date? ⟨t.date.year, t.date.month, t.date.day, t.hour, t.minute, t.second⟩ =
        some t.date := dif_pos t.date.isDate
    rw [Parts.dateTime?, hdate, Option.bind_eq_bind, Option.bind_some]
    dsimp only
    rw [← h]
    exact dif_pos t.isTime
  rw [ofText?, Text.trim_of_tight t.tight_toText]
  simp only [timeLayouts, List.findSome?_cons, hread, Option.bind_eq_bind, Option.bind_some, htime]
  rfl

end DateTime

end SynthTable
