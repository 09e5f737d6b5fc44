import SynthTable.Proofs.Calendar.Zones
import SynthTable.Proofs.Domain.Periods

/-!
# Dates as texts

A column of dates as texts is built for every format that can be read, also for one that names the
zone (`Domain.not_neverCrashes_offsets`). Such a format is written for no time, and the attempt is
no error of a cell but ends the run. So apart from columns with formats that do not name the zone,
only those never crash for which no time can come up (`Domain.neverCrashes_iff_of_build`).
-/

namespace SynthTable.Domain

variable {c : Column} {assets : AssetSource} {domain : Domain} {values : PickList DateTime}
  {low high : Int64} {useNow : Bool} {format? : Option (String × DateFormat)}

/-- Generating gives a value, whatever the words are and what rows share. -/
def NeverCrashes (domain : Domain) : Prop :=
  ∀ (column : String) {σ : Type} [RandomSource σ] (w : World σ),
    ∃ v, (generate column domain w).1 = .ok v

/-- No whole second between two is that of a time. -/
def NoTimeBetween (low high : Int64) : Prop :=
  ∀ t : DateTime, t.IsEpochSecond → ¬ (low.toInt ≤ t.epochSeconds ∧ t.epochSeconds ≤ high.toInt)

/-! ## One time -/

/-- A time is written as a value unless its format names the zone. -/
theorem exists_timeValue_iff {text : String} {format : DateFormat}
    (h : DateFormat.ofText? text = some format) (t : DateTime) :
    (∃ v, timeValue (some (text, format)) t = .ok v) ↔ ¬ DateFormat.NamesZone text.toList := by
  rw [← DateFormat.zone_mem_iff_namesZone h, ← DateFormat.isSome_write?_iff t, timeValue]
  cases format.write? t <;> simp

/-! ## Every state -/

theorem neverCrashes_of_timeValue (h : ∀ t, ∃ v, timeValue format? t = .ok v) :
    NeverCrashes (.date values low high useNow format?) := by
  intro column σ _ w
  rw [generate_date_fst]
  split
  · exact h _
  · rcases drawTime_fst_cases values low high format? w.source with ⟨t, ht⟩ | hnull
    · rw [ht]
      exact h t
    · exact ⟨.null, hnull⟩

/-- Where every second between the bounds is that of no time, no time has to be written. -/
theorem neverCrashes_of_noTimeBetween (hle : low ≤ high) (hempty : values.isEmpty = true)
    (h : NoTimeBetween low high) : NeverCrashes (.date values low high false format?) := by
  intro column σ _ w
  rw [generate_date_fst_of_isEmpty hempty]
  obtain ⟨hlow, hhigh⟩ := Random.int64Between_mem hle w.source
  rw [Int64.le_iff_toInt_le] at hlow hhigh
  split
  · next t ht =>
    obtain ⟨hsecond, hnumber⟩ := DateTime.ofEpochSeconds?_eq_some_iff.1 ht
    exact absurd (by omega) (h t hsecond)
  · exact ⟨.null, rfl⟩

/-- What rows share where the clock stands still at a time. -/
def stoppedAt (t : DateTime) : Shared := ⟨[], fun _ => t, 0⟩

theorem NeverCrashes.timeValue_now (h : NeverCrashes (.date values low high true format?))
    (t : DateTime) : ∃ v, timeValue format? t = .ok v :=
  h "" ⟨Random.WordCycle.ofList [], stoppedAt t⟩

theorem NeverCrashes.timeValue_listed (h : NeverCrashes (.date values low high false format?))
    (hends : ∀ e ∈ values.entries, 0 < e.2 ∧ e.2 ≤ PickList.longest)
    (hne : values.isEmpty = false) : ∃ t v, timeValue format? t = .ok v := by
  have hsome := PickList.isSome_draw hends hne (Random.WordCycle.ofList [])
  obtain ⟨t, ht⟩ := Option.isSome_iff_exists.1 hsome
  obtain ⟨v, hv⟩ := h "" ⟨Random.WordCycle.ofList [], stoppedAt t⟩
  rw [generate_date_fst, if_neg Bool.false_ne_true, drawTime_fst_of_draw ht] at hv
  exact ⟨t, v, hv⟩

/-- Each time between the bounds is drawn for some words. -/
theorem NeverCrashes.timeValue_between (h : NeverCrashes (.date values low high false format?))
    (hempty : values.isEmpty = true) {t : DateTime} (ht : t.IsEpochSecond)
    (hlow : low.toInt ≤ t.epochSeconds) (hhigh : t.epochSeconds ≤ high.toInt) :
    ∃ v, timeValue format? t = .ok v := by
  rw [← toInt_ofInt_epochSeconds, ← Int64.le_iff_toInt_le] at hlow hhigh
  obtain ⟨words, hwords⟩ := Random.exists_words_int64Between hlow hhigh
  have htime := DateTime.ofEpochSeconds?_eq_some_iff.2 ⟨ht, rfl⟩
  obtain ⟨v, hv⟩ := h "" ⟨Random.WordCycle.ofList words, stoppedAt t⟩
  rw [generate_date_fst_of_isEmpty hempty] at hv
  simp only [hwords, toInt_ofInt_epochSeconds, htime] at hv
  exact ⟨v, hv⟩

/-- Where either every time is a value or none is, dates never crash just if every time is a value
or none comes up: not the present one, no listed one and none between the bounds. -/
theorem neverCrashes_date_iff (hle : low ≤ high)
    (hends : ∀ e ∈ values.entries, 0 < e.2 ∧ e.2 ≤ PickList.longest) {writes : Prop}
    (hwrites : ∀ t, (∃ v, timeValue format? t = .ok v) ↔ writes) :
    NeverCrashes (.date values low high useNow format?) ↔
      writes ∨ useNow = false ∧ values.isEmpty = true ∧ NoTimeBetween low high := by
  constructor
  · intro h
    cases useNow with
    | true => exact .inl ((hwrites _).1 (h.timeValue_now (.midnight .first)))
    | false =>
      cases hempty : values.isEmpty with
      | false =>
        obtain ⟨t, ht⟩ := h.timeValue_listed hends hempty
        exact .inl ((hwrites t).1 ht)
      | true =>
        by_cases hnone : NoTimeBetween low high
        · exact .inr ⟨rfl, rfl, hnone⟩
        · simp only [NoTimeBetween, not_forall, not_not] at hnone
          obtain ⟨t, ht, hlow, hhigh⟩ := hnone
          exact .inl ((hwrites t).1 (h.timeValue_between hempty ht hlow hhigh))
  · rintro (h | ⟨rfl, hempty, hnone⟩)
    · exact neverCrashes_of_timeValue fun t => (hwrites t).2 h
    · exact neverCrashes_of_noTimeBetween hle hempty hnone

/-! ## Built columns -/

/-- The format of a built column of dates as texts writes every time, unless it names the zone. Then
generating never crashes just if no time can come up: the column does not use the present time and
draws no listed value, and no second between its bounds is that of a time. -/
theorem neverCrashes_iff_of_build (hkind : c.kind = .dateAsString)
    (hbuild : build c assets = .ok domain) :
    ∃ text format values low high, text = c.format?.getD defaultDateFormat ∧
      DateFormat.ofText? text = some format ∧
      dateBound "min" 0 secondOf? c.min? = .ok low ∧
      dateBound "max" lastSecond secondOf? c.max? = .ok high ∧
      domain = .date values low high c.useNow (some (text, format)) ∧
      (∀ t, (∃ v, timeValue (some (text, format)) t = .ok v) ↔
        ¬ DateFormat.NamesZone text.toList) ∧
      (NeverCrashes domain ↔ ¬ DateFormat.NamesZone text.toList ∨
        c.useNow = false ∧ c.DrawsNone ∧ NoTimeBetween low high) := by
  rw [build, hkind] at hbuild
  obtain ⟨values, low, high, format?, hvalues, hlow, hhigh, hle, htext, -, rfl⟩ :=
    exists_of_buildDate hbuild
  obtain ⟨format, hformat, rfl⟩ := htext rfl
  have hwrites := exists_timeValue_iff hformat
  refine ⟨_, format, values, low, high, rfl, hformat, hlow, hhigh, rfl, hwrites, ?_⟩
  rw [neverCrashes_date_iff hle (ends_listed hvalues) hwrites, isEmpty_listed_iff hvalues]

/-- Dates with a percent sign and a letter, which would name the zone after one more sign. -/
def percentDates : Column := { Column.plain "d" .dateAsString with format? := some "%d%%z" }

/-- The pieces of their format. -/
def percentFormat : DateFormat := [DateFormat.zeros .day, .literal '%', .literal 'z']

/-- The domain of such dates. -/
def percentDomain : Domain := .date ⟨[]⟩ 0 lastSecond false (some ("%d%%z", percentFormat))

theorem neverCrashes_percentDomain : percentDates.kind = .dateAsString ∧
    ∀ assets, build percentDates assets = .ok percentDomain ∧ NeverCrashes percentDomain := by
  refine ⟨rfl, fun assets => ?_⟩
  have hbuild : build percentDates assets = .ok percentDomain := by rfl
  obtain ⟨text, format, values, low, high, rfl, -, -, -, -, -, hnever⟩ :=
    neverCrashes_iff_of_build rfl hbuild
  refine ⟨hbuild, hnever.2 (.inl ?_)⟩
  have hread : DateFormat.ofText? (percentDates.format?.getD defaultDateFormat) =
      some percentFormat := by rfl
  rw [← DateFormat.zone_mem_iff_namesZone hread]
  decide

/-- Dates written as their distance from the zone that they do not have. -/
def offsets : Column := { Column.plain "d" .dateAsString with format? := some "%z" }

/-- Such a column is built, but its first second already crashes for some words. -/
theorem not_neverCrashes_offsets :
    offsets.kind = .dateAsString ∧ ∀ assets, ∃ domain, build offsets assets = .ok domain ∧
      ¬ NeverCrashes domain := by
  refine ⟨rfl, fun assets => ⟨.date ⟨[]⟩ 0 lastSecond false (some ("%z", [.zone])), rfl, ?_⟩⟩
  intro h
  obtain ⟨v, hv⟩ := h.timeValue_between (t := .midnight ⟨1970, 1, 1, by decide⟩) rfl
    (by decide) (by decide) (by decide)
  cases hv

end SynthTable.Domain
