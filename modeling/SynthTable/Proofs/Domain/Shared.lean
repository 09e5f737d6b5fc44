import SynthTable.Domain.Draw
import SynthTable.Proofs.Domain.Listed

/-!
# Which draws leave alone what rows share

Counters and the clock are shared by all rows. Only three kinds of domains ever use them: counters,
times without values to draw from, and present dates. A value of any other domain is drawn from the
words of its row alone (`isDraw_generate`), and the declaration of a column says which domain it will
have (`draws_of_build`).
-/

namespace SynthTable

/-- A step that only draws from the source of its row. -/
def World.IsDraw {σ α : Type} (step : World σ → α × World σ) : Prop :=
  ∃ f : σ → α × σ, ∀ w, step w = w.draw f

/-- Whether the drawn values of a column depend on what all rows share: it counts, it takes the
present time for want of values, or its dates are the present one. -/
def Column.usesShared (c : Column) : Bool :=
  !c.isComputed &&
    match c.kind with
    | .incrementInteger | .incrementLong => true
    | .timestamp => !c.values.any fun (_, weight) => 0 < weight
    | .date | .dateAsString => c.useNow
    | _ => false

namespace Domain

/-- Values of the domain are drawn from the words of a row alone. -/
def Draws : Domain → Prop
  | .counter _ => False
  | .timestamp values =>
    values.isEmpty = false ∧ ∀ e ∈ values.entries, 0 < e.2 ∧ e.2 ≤ PickList.longest
  | .date _ _ _ useNow _ => useNow = false
  | _ => True

section

variable {σ : Type}

theorem isDraw_of_drawn {step : World σ → Except Crash Value × World σ} {f : σ → Value × σ}
    (h : ∀ w, step w = drawn f w) : World.IsDraw step :=
  ⟨fun s => (.ok (f s).1, (f s).2), h⟩

variable [RandomSource σ]

/-- Times from a list with entries never fall back on the clock. -/
theorem isDraw_timestamp {values : PickList Int64} (h : Draws (.timestamp values))
    (column : String) : World.IsDraw (σ := σ) (generate column (.timestamp values)) := by
  refine ⟨fun s => (.ok (.int ((values.draw s).1.getD 0)), (values.draw s).2), fun w => ?_⟩
  have hsome := PickList.isSome_draw h.2 h.1 w.source
  obtain ⟨n, hn⟩ := Option.isSome_iff_exists.1 hsome
  simp only [generate, World.draw, hn, Option.getD_some]

theorem isDraw_generate {domain : Domain} (h : domain.Draws) (column : String) :
    World.IsDraw (σ := σ) (generate column domain) := by
  cases domain with
  | counter start => exact h.elim
  | timestamp values => exact isDraw_timestamp h column
  | date values min max useNow format? =>
    have hpast : useNow = false := h
    subst hpast
    exact ⟨drawTime values min max format?, fun _ => rfl⟩
  | _ =>
    apply isDraw_of_drawn
    intro w
    rw [generate]

end

/-! ## The domain of a column -/

theorem draws_of_buildInteger {c : Column} {least greatest : Int64} {domain : Domain}
    (h : buildInteger c least greatest = .ok domain) : domain.Draws := by
  obtain ⟨values, -, h⟩ := exists_ok_of_bind h
  obtain ⟨min, -, h⟩ := exists_ok_of_bind h
  obtain ⟨max, -, h⟩ := exists_ok_of_bind h
  split at h <;> cases h
  trivial

theorem draws_of_buildFloat {c : Column} {domain : Domain} (h : buildFloat c = .ok domain) :
    domain.Draws := by
  obtain ⟨values, -, h⟩ := exists_ok_of_bind h
  obtain ⟨min, -, h⟩ := exists_ok_of_bind h
  obtain ⟨max, -, h⟩ := exists_ok_of_bind h
  split at h <;> cases h
  trivial

/-- Values, bounds and format of built dates are those of the column. -/
theorem exists_of_buildDate {c : Column} {asText : Bool} {domain : Domain}
    (h : buildDate c asText = .ok domain) :
    ∃ values low high format?, listed c "a date-time" DateTime.ofText? = .ok values ∧
      dateBound "min" 0 secondOf? c.min? = .ok low ∧
      dateBound "max" lastSecond secondOf? c.max? = .ok high ∧ low ≤ high ∧
      (asText = true → ∃ format,
        DateFormat.ofText? (c.format?.getD defaultDateFormat) = some format ∧
          format? = some (c.format?.getD defaultDateFormat, format)) ∧
      (asText = false → format? = none) ∧
      domain = .date values low high c.useNow format? := by
  obtain ⟨values, hvalues, h⟩ := exists_ok_of_bind h
  obtain ⟨low, hlow, h⟩ := exists_ok_of_bind h
  obtain ⟨high, hhigh, h⟩ := exists_ok_of_bind h
  split at h
  · cases h
  · next hcross =>
    have hle := Int64.not_lt.1 hcross
    cases asText with
    | true =>
      simp only [if_true] at h
      split at h
      · next format hformat =>
        cases h
        exact ⟨values, low, high, _, hvalues, hlow, hhigh, hle, fun _ => ⟨format, hformat, rfl⟩,
          nofun, rfl⟩
      · cases h
    | false =>
      cases h
      exact ⟨values, low, high, none, hvalues, hlow, hhigh, hle, nofun, fun _ => rfl, rfl⟩

theorem draws_of_buildDate {c : Column} {asText : Bool} {domain : Domain}
    (h : buildDate c asText = .ok domain) (hnow : c.useNow = false) : domain.Draws := by
  obtain ⟨values, low, high, format?, -, -, -, -, -, -, rfl⟩ := exists_of_buildDate h
  exact hnow

theorem draws_of_buildBirthdate {c : Column} {domain : Domain}
    (h : buildBirthdate c = .ok domain) : domain.Draws := by
  obtain ⟨values, -, h⟩ := exists_ok_of_bind h
  obtain ⟨min, -, h⟩ := exists_ok_of_bind h
  obtain ⟨max, -, h⟩ := exists_ok_of_bind h
  split at h <;> cases h
  trivial

theorem exists_of_patternOf {source : String} {domain : Domain}
    (h : patternOf source = .ok domain) :
    ∃ p, Pattern.ofText? source = some p ∧ domain = .pattern source p := by
  unfold patternOf at h
  split at h <;> cases h
  next p hp => exact ⟨p, hp, rfl⟩

theorem draws_of_buildPattern {c : Column} {domain : Domain} (h : buildPattern c = .ok domain) :
    domain.Draws := by
  unfold buildPattern at h
  split at h
  · obtain ⟨p, -, rfl⟩ := exists_of_patternOf h
    trivial
  · obtain ⟨p, -, rfl⟩ := exists_of_patternOf h
    trivial
  · cases h

theorem draws_of_buildCountry {c : Column} {assets : AssetSource} {domain : Domain}
    (h : buildCountry c assets = .ok domain) : domain.Draws := by
  obtain ⟨values, -, h⟩ := exists_ok_of_bind h
  split at h
  · obtain ⟨cities, -, h⟩ := exists_ok_of_bind h
    cases h
    trivial
  · cases h
    trivial

theorem draws_of_buildCsv {c : Column} {assets : AssetSource} {domain : Domain}
    (h : buildCsv c assets = .ok domain) : domain.Draws := by
  unfold buildCsv at h
  split at h
  · cases h
  · split at h <;> cases h
    trivial

theorem draws_of_listed {c : Column} {values : PickList Int64} {what : String}
    {read : String → Option Int64} (h : listed c what read = .ok values)
    (hany : (c.values.any fun (_, weight) => decide (0 < weight)) = true) :
    Draws (.timestamp values) := by
  exact ⟨by rw [isEmpty_listed h, hany, Bool.not_true], ends_listed h⟩

/-- The domain of a drawn column that uses nothing shared draws from the words of a row alone. -/
theorem draws_of_build {c : Column} {assets : AssetSource} {domain : Domain}
    (h : build c assets = .ok domain) (hcomputed : c.isComputed = false)
    (hshared : c.usesShared = false) : domain.Draws := by
  rw [Column.usesShared, hcomputed, Bool.not_false, Bool.true_and] at hshared
  unfold build at h
  cases hkind : c.kind <;> simp only [hkind] at h hshared
  case incrementInteger | incrementLong => cases hshared
  case integer | long => exact draws_of_buildInteger h
  case float => exact draws_of_buildFloat h
  case stringRegex => exact draws_of_buildPattern h
  case birthdate => exact draws_of_buildBirthdate h
  case country => exact draws_of_buildCountry h
  case csv => exact draws_of_buildCsv h
  case date | dateAsString => exact draws_of_buildDate h hshared
  case timestamp =>
    obtain ⟨values, hvalues, h⟩ := exists_ok_of_bind h
    cases h
    exact draws_of_listed hvalues (by simpa using hshared)
  case uuid =>
    cases h
    trivial
  case email | phone =>
    obtain ⟨values, -, h⟩ := exists_ok_of_bind h
    obtain ⟨entries, -, h⟩ := exists_ok_of_bind h
    cases h
    trivial
  all_goals
    obtain ⟨values, -, h⟩ := exists_ok_of_bind h
    cases h
    trivial

end Domain

end SynthTable
