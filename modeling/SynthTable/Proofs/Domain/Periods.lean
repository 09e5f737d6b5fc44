import SynthTable.Proofs.Calendar.DayNumbers
import SynthTable.Proofs.Calendar.Reading
import SynthTable.Proofs.Domain.Ranges
import SynthTable.Proofs.Table.Fields

/-!
# Dates from a period

Dates are drawn as day numbers and times as seconds, but what their bounds mean is said by the
calendar. A column whose bounds are written dates is built if the bounds are in order by year, month
and day and the listed values are dates, and then draws just the dates of the period; with written
times and seconds it is the same (`Field.givesExactly_period`). A listed value must be a date even
where it is never drawn (`Field.not_build_garbledBirthday`).
-/

namespace SynthTable

namespace Domain

variable {c : Column} {domain : Domain}

/-! ## Bounds and values -/

theorem dateBound_text {label text : String} {default : Int64} {read : String → Option Int}
    {n : Int} (h : read text = some n) :
    dateBound label default read (some (.text text)) = .ok (.ofInt n) := by
  rw [dateBound]
  simp only [h, Option.map_some]

theorem dayOf?_toText (d : Date) : dayOf? d.toText = some d.dayNumber := by
  rw [dayOf?, dateOf?, Date.ofText?_toText]
  rfl

theorem secondOf?_toText {t : DateTime} (h : t.IsEpochSecond) :
    secondOf? t.toText = some t.epochSeconds := by
  rw [secondOf?, DateTime.ofText?_toText h.2]
  rfl

/-- Day numbers are small. -/
theorem dayNumber_bounds (d : Date) : -96465292 ≤ d.dayNumber ∧ d.dayNumber ≤ 95026236 := by
  have hstart : Date.first.dayNumber = -96465292 := by decide +kernel
  have hend : Date.last.dayNumber = 95026236 := by decide +kernel
  rw [← hstart, ← hend]
  exact ⟨d.first_le_dayNumber, d.dayNumber_le_last⟩

theorem toInt_ofInt_dayNumber (d : Date) : (Int64.ofInt d.dayNumber).toInt = d.dayNumber := by
  have hbounds := dayNumber_bounds d
  exact Int64.toInt_ofInt_of_le (by omega) (by omega)

theorem toInt_ofInt_epochSeconds (t : DateTime) :
    (Int64.ofInt t.epochSeconds).toInt = t.epochSeconds := by
  have hbounds := dayNumber_bounds t.date
  obtain ⟨hhour, hminute, hsecond, -⟩ := t.isTime
  rw [DateTime.epochSeconds]
  exact Int64.toInt_ofInt_of_le (by omega) (by omega)

/-- The number of a date is between those of the first and the last date. -/
theorem clampDay_dayNumber (d : Date) : clampDay (.ofInt d.dayNumber) = .ofInt d.dayNumber := by
  have hfirst := d.first_le_dayNumber
  have hlast := d.dayNumber_le_last
  rw [clampDay, toInt_ofInt_dayNumber]
  congr 1
  omega

/-! ## Building -/

theorem buildBirthdate_eq_ok_iff {a b : Date} (hmin : c.min? = some (.text a.toText))
    (hmax : c.max? = some (.text b.toText)) : buildBirthdate c = .ok domain ↔
      ∃ values, listed c "a date" Date.ofText? = .ok values ∧ a.parts ≤ b.parts ∧
        domain = .birthdate values (.ofInt a.dayNumber) (.ofInt b.dayNumber) := by
  have horder : Int64.ofInt b.dayNumber < .ofInt a.dayNumber ↔ ¬ a.parts ≤ b.parts := by
    rw [Int64.lt_iff_toInt_lt, toInt_ofInt_dayNumber, toInt_ofInt_dayNumber,
      ← Date.dayNumber_le_dayNumber, Int.not_le]
  rw [buildBirthdate, hmin, hmax, dateBound_text (dayOf?_toText a),
    dateBound_text (dayOf?_toText b)]
  cases listed c "a date" Date.ofText? with
  | error e => simp [bind, Except.bind]
  | ok values =>
    by_cases h : a.parts ≤ b.parts <;>
      simp [bind, Except.bind, horder, h, clampDay_dayNumber, eq_comm]

theorem buildDate_eq_ok_iff {s t : DateTime} (hs : s.IsEpochSecond) (ht : t.IsEpochSecond)
    (hmin : c.min? = some (.text s.toText)) (hmax : c.max? = some (.text t.toText)) :
    buildDate c false = .ok domain ↔
      ∃ values, listed c "a date-time" DateTime.ofText? = .ok values ∧ s.parts ≤ t.parts ∧
        domain = .date values (.ofInt s.epochSeconds) (.ofInt t.epochSeconds) c.useNow none := by
  have horder : Int64.ofInt t.epochSeconds < .ofInt s.epochSeconds ↔ ¬ s.parts ≤ t.parts := by
    rw [Int64.lt_iff_toInt_lt, toInt_ofInt_epochSeconds, toInt_ofInt_epochSeconds,
      ← DateTime.epochSeconds_le_epochSeconds hs ht, Int.not_le]
  rw [buildDate, hmin, hmax, dateBound_text (secondOf?_toText hs),
    dateBound_text (secondOf?_toText ht)]
  cases listed c "a date-time" DateTime.ofText? with
  | error e => simp [bind, Except.bind]
  | ok values =>
    by_cases h : s.parts ≤ t.parts <;> simp [bind, Except.bind, horder, h, eq_comm]

/-! ## Drawing -/

/-- The numbers between those of two dates are the numbers of the dates between them. -/
theorem image_dayNumber (a b : Date) :
    (fun d : Date => Int64.ofInt d.dayNumber) '' {d | a.parts ≤ d.parts ∧ d.parts ≤ b.parts} =
      {n | .ofInt a.dayNumber ≤ n ∧ n ≤ .ofInt b.dayNumber} := by
  have hfirst := a.first_le_dayNumber
  have hlast := b.dayNumber_le_last
  ext n
  simp only [Set.mem_image, Set.mem_ofPred_eq, Int64.le_iff_toInt_le, toInt_ofInt_dayNumber,
    ← Date.dayNumber_le_dayNumber]
  constructor
  · rintro ⟨d, hd, rfl⟩
    rwa [toInt_ofInt_dayNumber]
  · rintro ⟨hlow, hhigh⟩
    obtain ⟨d, hd⟩ := Date.exists_ofDayNumber?_eq_some (n := n.toInt) (by omega) (by omega)
    rw [Date.ofDayNumber?_eq_some_iff] at hd
    exact ⟨d, by omega, by rw [hd, Int64.ofInt_toInt]⟩

theorem image_epochSeconds {s t : DateTime} (hs : s.IsEpochSecond) (ht : t.IsEpochSecond) :
    (fun r : DateTime => Int64.ofInt r.epochSeconds) ''
        {r | r.IsEpochSecond ∧ s.parts ≤ r.parts ∧ r.parts ≤ t.parts} =
      {n | .ofInt s.epochSeconds ≤ n ∧ n ≤ .ofInt t.epochSeconds} := by
  ext n
  simp only [Set.mem_image, Set.mem_ofPred_eq, Int64.le_iff_toInt_le, toInt_ofInt_epochSeconds]
  constructor
  · rintro ⟨r, ⟨hr, hlow, hhigh⟩, rfl⟩
    rw [toInt_ofInt_epochSeconds, DateTime.epochSeconds_le_epochSeconds hs hr,
      DateTime.epochSeconds_le_epochSeconds hr ht]
    exact ⟨hlow, hhigh⟩
  · rintro ⟨hlow, hhigh⟩
    obtain ⟨r, hr⟩ := DateTime.exists_ofEpochSeconds?_eq_some hlow hhigh
    rw [DateTime.ofEpochSeconds?_eq_some_iff] at hr
    obtain ⟨hsecond, hnumber⟩ := hr
    rw [← hnumber] at hlow hhigh
    refine ⟨r, ⟨hsecond, ?_, ?_⟩, by rw [hnumber, Int64.ofInt_toInt]⟩
    · exact (DateTime.epochSeconds_le_epochSeconds hs hsecond).1 hlow
    · exact (DateTime.epochSeconds_le_epochSeconds hsecond ht).1 hhigh

theorem drawDay_fst {σ : Type} [RandomSource σ] {low high n : Int64} {s : σ} {d : Date}
    (hn : (Random.int64Between low high s).1 = n) (hd : Date.ofDayNumber? n.toInt = some d) :
    (drawDay low high s).1 = .date d := by
  rcases hdraw : Random.int64Between low high s with ⟨m, s'⟩
  obtain rfl : m = n := by rw [← hn, hdraw]
  unfold drawDay
  simp only [hdraw, hd]

/-- Days between two dates give just the dates between them. -/
theorem givesExactly_birthdate {values : PickList Date} (hempty : values.isEmpty = true)
    {a b : Date} (h : a.parts ≤ b.parts) (column : String) :
    GivesExactly (generate column (.birthdate values (.ofInt a.dayNumber) (.ofInt b.dayNumber)))
      (Value.date '' {d | a.parts ≤ d.parts ∧ d.parts ≤ b.parts}) := by
  have hle : Int64.ofInt a.dayNumber ≤ .ofInt b.dayNumber := by
    rwa [Int64.le_iff_toInt_le, toInt_ofInt_dayNumber, toInt_ofInt_dayNumber,
      Date.dayNumber_le_dayNumber]
  refine .of_draw (Random.givesExactly_int64Between hle) (image_dayNumber a b) ?_
  intro σ _ w d _ hd
  have hdate : Date.ofDayNumber? (Int64.ofInt d.dayNumber).toInt = some d := by
    rw [Date.ofDayNumber?_eq_some_iff, toInt_ofInt_dayNumber]
  simp only [generate, drawn, World.draw, draw_of_isEmpty hempty, drawDay_fst hd hdate]

/-- Seconds between two times give just the times between them. -/
theorem givesExactly_date {values : PickList DateTime} (hempty : values.isEmpty = true)
    {s t : DateTime} (hs : s.IsEpochSecond) (ht : t.IsEpochSecond) (h : s.parts ≤ t.parts)
    (column : String) :
    GivesExactly
      (generate column (.date values (.ofInt s.epochSeconds) (.ofInt t.epochSeconds) false none))
      (Value.timestamp '' {r | r.IsEpochSecond ∧ s.parts ≤ r.parts ∧ r.parts ≤ t.parts}) := by
  have hle : Int64.ofInt s.epochSeconds ≤ .ofInt t.epochSeconds := by
    rwa [Int64.le_iff_toInt_le, toInt_ofInt_epochSeconds, toInt_ofInt_epochSeconds,
      DateTime.epochSeconds_le_epochSeconds hs ht]
  refine .of_draw (Random.givesExactly_int64Between hle) (image_epochSeconds hs ht) ?_
  intro σ _ w r hr hdraw
  have htime : DateTime.ofEpochSeconds? (Int64.ofInt r.epochSeconds).toInt = some r := by
    rw [DateTime.ofEpochSeconds?_eq_some_iff, toInt_ofInt_epochSeconds]
    exact ⟨hr.1, rfl⟩
  rw [generate_date_fst_of_isEmpty hempty]
  simp only [hdraw, htime, timeValue]

end Domain

namespace Field

variable {c : Column}

/-- If the listed values must be read and the bounds be in order for a domain to be built, and the
domain then draws from a range, then so does the field. -/
theorem givesExactly_of_domain {α : Type} {assets : AssetSource} {what : String}
    {read : String → Option α} {inOrder : Prop} {domainOf : PickList α → Domain}
    {results : Set Value} (hnone : c.DrawsNone) (hdrawn : c.derivation? = none)
    (hbuild : ∀ domain, Domain.build c assets = .ok domain ↔
      ∃ values, Domain.listed c what read = .ok values ∧ inOrder ∧ domain = domainOf values)
    (hgives : ∀ values, values.isEmpty = true → inOrder →
      GivesExactly ((domainOf values).generate c.name) results) :
    ((∃ f, build c assets = .ok f) ↔ (∀ e ∈ c.values, (read e.1).isSome) ∧ inOrder) ∧
      ∀ f, build c assets = .ok f → GivesExactly f.generate results := by
  constructor
  · rw [← Domain.exists_listed_iff what]
    constructor
    · rintro ⟨f, hf⟩
      obtain ⟨domain, hdomain, -⟩ := (build_eq_ok_iff_of_drawn hdrawn).1 hf
      obtain ⟨values, hvalues, horder, -⟩ := (hbuild domain).1 hdomain
      exact ⟨⟨values, hvalues⟩, horder⟩
    · rintro ⟨⟨values, hvalues⟩, horder⟩
      have hdomain := (hbuild (domainOf values)).2 ⟨values, hvalues, horder, rfl⟩
      exact ⟨_, (build_eq_ok_iff_of_drawn hdrawn).2 ⟨_, hdomain, rfl⟩⟩
  · intro f hf
    obtain ⟨domain, hdomain, rfl⟩ := (build_eq_ok_iff_of_drawn hdrawn).1 hf
    obtain ⟨values, hvalues, horder, rfl⟩ := (hbuild domain).1 hdomain
    exact hgives values (Domain.isEmpty_listed_of_drawsNone hvalues hnone) horder

/-- Columns of dates and of times with written bounds, which draw no listed value, are built exactly
if the listed values can be read and the bounds are in calendar order. Then each draw is a date or a
whole second of the period, both bounds included, and each of these is drawn for some words. -/
theorem givesExactly_period (assets : AssetSource) (hnone : c.DrawsNone)
    (hdrawn : c.derivation? = none) :
    (∀ a b : Date, c.kind = .birthdate → c.min? = some (.text a.toText) →
      c.max? = some (.text b.toText) →
      ((∃ f, build c assets = .ok f) ↔
        (∀ e ∈ c.values, (Date.ofText? e.1).isSome) ∧ a.parts ≤ b.parts) ∧
      ∀ f, build c assets = .ok f →
        GivesExactly f.generate (Value.date '' {d | a.parts ≤ d.parts ∧ d.parts ≤ b.parts})) ∧
    ∀ s t : DateTime, c.kind = .date → c.useNow = false → s.IsEpochSecond → t.IsEpochSecond →
      c.min? = some (.text s.toText) → c.max? = some (.text t.toText) →
      ((∃ f, build c assets = .ok f) ↔
        (∀ e ∈ c.values, (DateTime.ofText? e.1).isSome) ∧ s.parts ≤ t.parts) ∧
      ∀ f, build c assets = .ok f →
        GivesExactly f.generate
          (Value.timestamp '' {r | r.IsEpochSecond ∧ s.parts ≤ r.parts ∧ r.parts ≤ t.parts}) := by
  constructor
  · intro a b hkind hmin hmax
    have hdomain : Domain.build c assets = Domain.buildBirthdate c := by
      simp only [Domain.build, hkind]
    refine givesExactly_of_domain hnone hdrawn
      (fun _ => hdomain ▸ Domain.buildBirthdate_eq_ok_iff hmin hmax) ?_
    intro values hempty hle
    exact Domain.givesExactly_birthdate hempty hle c.name
  · intro s t hkind hpast hs ht hmin hmax
    have hdomain : Domain.build c assets = Domain.buildDate c false := by
      simp only [Domain.build, hkind]
    refine givesExactly_of_domain hnone hdrawn
      (fun _ => hdomain ▸ Domain.buildDate_eq_ok_iff hs ht hmin hmax) ?_
    intro values hempty hle
    rw [hpast]
    exact Domain.givesExactly_date hempty hs ht hle c.name

/-- A leap day. -/
def leapDay : Date := ⟨2000, 2, 29, by decide⟩

/-- The last day of a February a hundred years later. -/
def centuryDay : Date := ⟨2100, 2, 28, by decide⟩

/-- Birthdays between these, with a value that is never drawn. -/
def leapDays : Column :=
  { Column.plain "born" .birthdate with
    values := [("1999-12-31", 0)]
    min? := some (.text "2000-02-29")
    max? := some (.text "2100-02-28") }

/-- The last second of a leap day of long ago. -/
def leapNight : DateTime := ⟨⟨0, 2, 29, by decide⟩, 23, 59, 59, 0, by decide⟩

/-- The first second of the year after. -/
def newYear : DateTime := .midnight ⟨1, 1, 1, by decide⟩

/-- Times between these. -/
def oldSeconds : Column :=
  { Column.plain "at" .date with
    min? := some (.text "0000-02-29T23:59:59")
    max? := some (.text "0001-01-01T00:00:00") }

theorem givesExactly_period_leapDays :
    leapDays.DrawsNone ∧ leapDays.min? = some (.text leapDay.toText) ∧
      leapDays.max? = some (.text centuryDay.toText) ∧ leapDay.parts ≤ centuryDay.parts ∧
      oldSeconds.DrawsNone ∧ oldSeconds.min? = some (.text leapNight.toText) ∧
      oldSeconds.max? = some (.text newYear.toText) ∧ leapNight.IsEpochSecond ∧
      newYear.IsEpochSecond ∧ leapNight.parts ≤ newYear.parts ∧
      ∀ assets, (∃ f, build leapDays assets = .ok f ∧ GivesExactly f.generate
          (Value.date '' {d | leapDay.parts ≤ d.parts ∧ d.parts ≤ centuryDay.parts})) ∧
        ∃ f, build oldSeconds assets = .ok f ∧ GivesExactly f.generate
          (Value.timestamp ''
            {r | r.IsEpochSecond ∧ leapNight.parts ≤ r.parts ∧ r.parts ≤ newYear.parts}) := by
  have hnone : leapDays.DrawsNone := by decide
  have hmin : leapDays.min? = some (.text leapDay.toText) := by decide
  have hmax : leapDays.max? = some (.text centuryDay.toText) := by decide
  have hle : leapDay.parts ≤ centuryDay.parts := by decide
  have hnone' : oldSeconds.DrawsNone := by decide
  have hmin' : oldSeconds.min? = some (.text leapNight.toText) := by decide
  have hmax' : oldSeconds.max? = some (.text newYear.toText) := by decide
  have hsecond : leapNight.IsEpochSecond := by decide
  have hsecond' : newYear.IsEpochSecond := by decide
  have hle' : leapNight.parts ≤ newYear.parts := by decide
  refine ⟨hnone, hmin, hmax, hle, hnone', hmin', hmax', hsecond, hsecond', hle', ?_⟩
  intro assets
  constructor
  · obtain ⟨hdays, -⟩ := givesExactly_period assets hnone rfl
    obtain ⟨hbuild, hgives⟩ := hdays leapDay centuryDay rfl hmin hmax
    obtain ⟨f, hf⟩ := hbuild.2 ⟨by decide, hle⟩
    exact ⟨f, hf, hgives f hf⟩
  · obtain ⟨-, hseconds⟩ := givesExactly_period assets hnone' rfl
    obtain ⟨hbuild, hgives⟩ := hseconds leapNight newYear rfl rfl hsecond hsecond' hmin' hmax'
    obtain ⟨f, hf⟩ := hbuild.2 ⟨by decide, hle'⟩
    exact ⟨f, hf, hgives f hf⟩

/-- Birthdays of two days in order, with a text that is no date and is never drawn. -/
def garbledBirthday : Column :=
  { Column.plain "born" .birthdate with
    values := [("garbage", 0)]
    min? := some (.text "2000-02-29")
    max? := some (.text "2100-02-28") }

/-- A listed value that cannot be read lets no field be built, although it would never be drawn. -/
theorem not_build_garbledBirthday :
    garbledBirthday.DrawsNone ∧ garbledBirthday.derivation? = none ∧
      garbledBirthday.kind = .birthdate ∧
      garbledBirthday.min? = some (.text leapDay.toText) ∧
      garbledBirthday.max? = some (.text centuryDay.toText) ∧ leapDay.parts ≤ centuryDay.parts ∧
      ∀ assets, build garbledBirthday assets = .error (.domain (.badValue "garbage" "a date")) := by
  refine ⟨by decide, rfl, rfl, by decide, by decide, by decide, ?_⟩
  intro assets
  have hread : Date.ofText? "garbage" = none := by decide
  have hvalues : Domain.listed garbledBirthday "a date" Date.ofText? =
      .error (.badValue "garbage" "a date") := by
    simp [Domain.listed, garbledBirthday, Domain.readValues, hread, Except.map]
  have hdomain : Domain.build garbledBirthday assets = .error (.badValue "garbage" "a date") := by
    show Domain.buildBirthdate garbledBirthday = _
    rw [Domain.buildBirthdate, hvalues]
    rfl
  rw [build, hdomain]

end Field

end SynthTable
