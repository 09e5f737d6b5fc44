import SynthTable.Proofs.Domain.Periods

/-!
# Draws beyond the calendar

Times are drawn as seconds and birthdays as days, and the calendar has only some of the numbers
that bounds may name. A column of birthdays moves its bounds into the calendar, so each draw is a
date. A column of times takes its bounds as they are, so a draw leaves the cell empty where the
second is that of no time: it never does so just if both bounds lie in the calendar
(`Domain.neverEmpty_iff_of_build`). The same far bounds make birthdays but empty cells among times
(`Domain.not_neverEmpty_farTimes`).
-/

namespace SynthTable

namespace DateTime

/-- The first moment of the calendar. -/
def first : DateTime := .midnight .first

/-- The last moment of the calendar. -/
def last : DateTime := ⟨.last, 23, 59, 59, 999999999, by decide⟩

theorem first_le_epochSeconds (t : DateTime) : first.epochSeconds ≤ t.epochSeconds := by
  have hday := t.date.first_le_dayNumber
  simp only [epochSeconds, first, midnight]
  omega

theorem epochSeconds_le_last (t : DateTime) : t.epochSeconds ≤ last.epochSeconds := by
  have hday := t.date.dayNumber_le_last
  obtain ⟨hhour, hminute, -, -⟩ := t.isTime
  simp only [epochSeconds, last]
  omega

/-- The seconds with a time are those of the calendar. -/
theorem isSome_ofEpochSeconds?_iff {n : Int} :
    (ofEpochSeconds? n).isSome ↔ first.epochSeconds ≤ n ∧ n ≤ last.epochSeconds := by
  rw [Option.isSome_iff_exists]
  constructor
  · rintro ⟨t, ht⟩
    obtain ⟨-, rfl⟩ := ofEpochSeconds?_eq_some_iff.1 ht
    exact ⟨t.first_le_epochSeconds, t.epochSeconds_le_last⟩
  · rintro ⟨hfirst, hlast⟩
    exact exists_ofEpochSeconds?_eq_some hfirst hlast

end DateTime

namespace Domain

variable {c : Column} {assets : AssetSource} {domain : Domain} {low high : Int64}

/-- Whatever is generated is a value; a crash generates nothing. -/
def NeverEmpty (domain : Domain) : Prop :=
  ∀ (column : String) {σ : Type} [RandomSource σ] (w : World σ) (v : Value),
    (generate column domain w).1 = .ok v → v ≠ .null

/-! ## Times -/

section

variable {values : PickList DateTime} {format? : Option (String × DateFormat)}

theorem ne_null_of_timeValue {t : DateTime} {v : Value} (h : timeValue format? t = .ok v) :
    v ≠ .null := by
  rintro rfl
  unfold timeValue at h
  split at h
  · cases h
  · split at h <;> cases h

/-- What is drawn between two seconds is the value of a time between them, or nothing. -/
theorem time_or_null_of_generate (hle : low ≤ high) (hempty : values.isEmpty = true)
    {column : String} {σ : Type} [RandomSource σ] {w : World σ} {v : Value}
    (h : (generate column (.date values low high false format?) w).1 = .ok v) :
    v = .null ∨ ∃ t : DateTime, low.toInt ≤ t.epochSeconds ∧ t.epochSeconds ≤ high.toInt ∧
      timeValue format? t = .ok v := by
  rw [generate_date_fst_of_isEmpty hempty] at h
  obtain ⟨hlow, hhigh⟩ := Random.int64Between_mem hle w.source
  rw [Int64.le_iff_toInt_le] at hlow hhigh
  split at h
  · next t ht =>
    obtain ⟨-, hnumber⟩ := DateTime.ofEpochSeconds?_eq_some_iff.1 ht
    exact .inr ⟨t, by omega, by omega, h⟩
  · cases h
    exact .inl rfl

/-- Each second between the bounds is drawn for some words, also one without a time. -/
theorem NeverEmpty.isSome_between (h : NeverEmpty (.date values low high false format?))
    (hempty : values.isEmpty = true) {n : Int64} (hlow : low ≤ n) (hhigh : n ≤ high) :
    (DateTime.ofEpochSeconds? n.toInt).isSome := by
  obtain ⟨words, hwords⟩ := Random.exists_words_int64Between hlow hhigh
  by_contra hnone
  rw [Bool.not_eq_true, Option.isSome_eq_false_iff, Option.isNone_iff_eq_none] at hnone
  refine h "" ⟨Random.WordCycle.ofList words, ⟨[], fun _ => .first, 0⟩⟩ .null ?_ rfl
  rw [generate_date_fst_of_isEmpty hempty]
  simp only [hwords, hnone]

theorem neverEmpty_date_iff (hle : low ≤ high) (hempty : values.isEmpty = true) :
    NeverEmpty (.date values low high false format?) ↔
      DateTime.first.epochSeconds ≤ low.toInt ∧ high.toInt ≤ DateTime.last.epochSeconds := by
  constructor
  · intro h
    have hlow := h.isSome_between hempty (Int64.le_refl low) hle
    have hhigh := h.isSome_between hempty hle (Int64.le_refl high)
    exact ⟨(DateTime.isSome_ofEpochSeconds?_iff.1 hlow).1,
      (DateTime.isSome_ofEpochSeconds?_iff.1 hhigh).2⟩
  · rintro ⟨hfirst, hlast⟩ column σ _ w v hv
    rw [generate_date_fst_of_isEmpty hempty] at hv
    obtain ⟨hlow, hhigh⟩ := Random.int64Between_mem hle w.source
    rw [Int64.le_iff_toInt_le] at hlow hhigh
    obtain ⟨t, ht⟩ := Option.isSome_iff_exists.1
      (DateTime.isSome_ofEpochSeconds?_iff.2 ⟨Int.le_trans hfirst hlow, Int.le_trans hhigh hlast⟩)
    simp only [ht] at hv
    exact ne_null_of_timeValue hv

end

/-! ## Birthdays -/

theorem exists_of_buildBirthdate (h : buildBirthdate c = .ok domain) :
    ∃ values low high, listed c "a date" Date.ofText? = .ok values ∧ low ≤ high ∧
      domain = .birthdate values (clampDay low) (clampDay high) := by
  obtain ⟨values, hvalues, h⟩ := exists_ok_of_bind h
  obtain ⟨low, -, h⟩ := exists_ok_of_bind h
  obtain ⟨high, -, h⟩ := exists_ok_of_bind h
  split at h
  · cases h
  · next hcross =>
    cases h
    exact ⟨values, low, high, hvalues, Int64.not_lt.1 hcross, rfl⟩

theorem toInt_clampDay (n : Int64) :
    (clampDay n).toInt = max Date.first.dayNumber (min n.toInt Date.last.dayNumber) := by
  have hfirst := dayNumber_bounds Date.first
  have hlast := dayNumber_bounds Date.last
  exact Int64.toInt_ofInt_of_le (by omega) (by omega)

theorem clampDay_mono (h : low ≤ high) : clampDay low ≤ clampDay high := by
  rw [Int64.le_iff_toInt_le] at h ⊢
  rw [toInt_clampDay, toInt_clampDay]
  omega

/-- Between two days that were moved into the calendar there are only dates. -/
theorem exists_date_of_generate {values : PickList Date} (hle : low ≤ high) (column : String)
    {σ : Type} [RandomSource σ] (w : World σ) :
    ∃ d, (generate column (.birthdate values (clampDay low) (clampDay high)) w).1 =
      .ok (.date d) := by
  rcases hdraw : values.draw w.source with ⟨_ | d, s⟩
  · have hends := Random.int64Between_mem (clampDay_mono hle) s
    rw [Int64.le_iff_toInt_le, Int64.le_iff_toInt_le, toInt_clampDay, toInt_clampDay] at hends
    have horder := Date.last.first_le_dayNumber
    obtain ⟨d, hd⟩ := Date.exists_ofDayNumber?_eq_some
      (n := (Random.int64Between (clampDay low) (clampDay high) s).1.toInt) (by omega) (by omega)
    refine ⟨d, ?_⟩
    simp only [generate, drawn, World.draw, hdraw]
    rw [drawDay_fst rfl hd]
  · exact ⟨d, by simp only [generate, drawn, World.draw, hdraw]⟩

/-! ## Built columns -/

/-- A built column of times, as values or as texts, that draws no listed value and does not use the
present time gives times between its bounds or nothing, and it always gives a time just if both
bounds lie in the calendar. A built column of birthdays always gives a date. -/
theorem neverEmpty_iff_of_build (hnone : c.DrawsNone) (hbuild : build c assets = .ok domain) :
    (c.kind = .date ∨ c.kind = .dateAsString → c.useNow = false →
      ∃ low high format?, dateBound "min" 0 secondOf? c.min? = .ok low ∧
        dateBound "max" lastSecond secondOf? c.max? = .ok high ∧
        (∃ values, domain = .date values low high false format?) ∧
        (∀ (column : String) {σ : Type} [RandomSource σ] (w : World σ) (v : Value),
          (generate column domain w).1 = .ok v → v = .null ∨ ∃ t : DateTime,
            low.toInt ≤ t.epochSeconds ∧ t.epochSeconds ≤ high.toInt ∧
              timeValue format? t = .ok v) ∧
        (NeverEmpty domain ↔
          DateTime.first.epochSeconds ≤ low.toInt ∧ high.toInt ≤ DateTime.last.epochSeconds)) ∧
    (c.kind = .birthdate → ∀ (column : String) {σ : Type} [RandomSource σ] (w : World σ),
      ∃ d, (generate column domain w).1 = .ok (.date d)) := by
  constructor
  · intro hkind hpast
    obtain ⟨asText, hdate⟩ : ∃ asText, buildDate c asText = .ok domain := by
      rcases hkind with hkind | hkind <;> rw [build, hkind] at hbuild <;> exact ⟨_, hbuild⟩
    obtain ⟨values, low, high, format?, hvalues, hlow, hhigh, hle, -, -, rfl⟩ :=
      exists_of_buildDate hdate
    have hempty := isEmpty_listed_of_drawsNone hvalues hnone
    rw [hpast]
    refine ⟨low, high, format?, hlow, hhigh, ⟨values, rfl⟩, ?_, neverEmpty_date_iff hle hempty⟩
    intro column σ _ w v hv
    exact time_or_null_of_generate hle hempty hv
  · intro hkind column σ _ w
    rw [build, hkind] at hbuild
    obtain ⟨values, low, high, -, hle, rfl⟩ := exists_of_buildBirthdate hbuild
    exact exists_date_of_generate hle column w

/-- Times from the first to the last second of the calendar. -/
def allTimes : Column :=
  { Column.plain "at" .date with
    values := [("2000-01-01", 0)]
    min? := some (.integer (.ofInt DateTime.first.epochSeconds))
    max? := some (.integer (.ofInt DateTime.last.epochSeconds)) }

/-- Their domain. -/
def allTimesDomain : Domain :=
  .date ⟨[]⟩ (.ofInt DateTime.first.epochSeconds) (.ofInt DateTime.last.epochSeconds) false none

theorem neverEmpty_allTimes : allTimes.DrawsNone ∧ allTimes.kind = .date ∧
    allTimes.useNow = false ∧
    ∀ assets, build allTimes assets = .ok allTimesDomain ∧ NeverEmpty allTimesDomain := by
  have hnone : allTimes.DrawsNone := by decide
  refine ⟨hnone, rfl, rfl, fun assets => ?_⟩
  have hbuild : build allTimes assets = .ok allTimesDomain := by rfl
  obtain ⟨htimes, -⟩ := neverEmpty_iff_of_build hnone hbuild
  obtain ⟨low, high, format?, hlow, hhigh, -, -, hnever⟩ := htimes (.inl rfl) rfl
  refine ⟨hbuild, hnever.2 ?_⟩
  cases hlow
  cases hhigh
  rw [toInt_ofInt_epochSeconds, toInt_ofInt_epochSeconds]
  exact ⟨Int.le_refl _, Int.le_refl _⟩

/-- Bounds far beyond the calendar, as seconds and as days. -/
def farBounds (kind : ColumnKind) : Column :=
  { Column.plain "at" kind with
    min? := some (.integer (-1000000000000000))
    max? := some (.integer 1000000000000000) }

/-- With such bounds columns of times and of birthdays are built. The birthdays are always dates,
but for some words there is no time. -/
theorem not_neverEmpty_farTimes :
    (∀ kind, (farBounds kind).DrawsNone ∧ (farBounds kind).useNow = false) ∧
      ∀ assets, (∃ domain, build (farBounds .birthdate) assets = .ok domain ∧ NeverEmpty domain) ∧
        ∃ domain, build (farBounds .date) assets = .ok domain ∧ ¬ NeverEmpty domain := by
  refine ⟨fun kind => ⟨by rintro _ ⟨⟩, rfl⟩, fun assets => ⟨?_, ?_⟩⟩
  · refine ⟨.birthdate ⟨[]⟩ (clampDay (-1000000000000000)) (clampDay 1000000000000000), rfl, ?_⟩
    intro column σ _ w v hv
    have hle : (-1000000000000000 : Int64) ≤ 1000000000000000 := by decide
    obtain ⟨d, hd⟩ := exists_date_of_generate hle column w
    rw [hd] at hv
    cases hv
    exact nofun
  · refine ⟨.date ⟨[]⟩ (-1000000000000000) 1000000000000000 false none, rfl, ?_⟩
    rw [neverEmpty_date_iff (by decide) rfl]
    decide +kernel

end Domain

end SynthTable
