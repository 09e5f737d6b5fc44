import SynthTable.Proofs.Domain.Listed
import SynthTable.Proofs.Number.Names
import SynthTable.Proofs.Table.Fields

/-!
# Floats that are finite

The listed values of a column of floats are finite doubles, or the column is not made ready, so
every draw from them is finite. The text of a computation is not held to this: it is cast to a
finite double if it denotes a number below the overflow, but to another double if it names one or
denotes a larger number (`Field.finite_iff_of_build`). Only a text that is no number at all is an
error.
-/

namespace SynthTable

namespace Domain

variable {α : Type} {c : Column}

/-- The finite double that a text is read as, with blanks around it. -/
def readFloat? (text : String) : Option Double :=
  (Numeral.double? (Text.trim text.toList)).filter (·.isFinite)

theorem readFloat?_eq_some_iff {text : String} {x : Double} : readFloat? text = some x ↔
    Numeral.double? (Text.trim text.toList) = some x ∧ x.isFinite = true :=
  Option.filter_eq_some_iff

/-- Floats are made ready if each value and each bound is a finite double and the bounds do not
cross. -/
theorem buildFloat_eq_ok_iff {domain : Domain} : buildFloat c = .ok domain ↔
    ∃ values low high, listed c "a number" readFloat? = .ok values ∧
      doubleBound "min" (.ofNat 0) c.min? = .ok low ∧
      doubleBound "max" (.ofNat 1) c.max? = .ok high ∧ high.less low = false ∧
      domain = .float values low high := by
  constructor
  · intro h
    obtain ⟨values, hvalues, h⟩ := exists_ok_of_bind h
    obtain ⟨low, hlow, h⟩ := exists_ok_of_bind h
    obtain ⟨high, hhigh, h⟩ := exists_ok_of_bind h
    split at h
    · cases h
    · next hcross =>
      cases h
      exact ⟨values, low, high, hvalues, hlow, hhigh, by simpa using hcross, rfl⟩
  · rintro ⟨values, low, high, hvalues, hlow, hhigh, hcross, rfl⟩
    unfold readFloat? at hvalues
    simp [buildFloat, hvalues, hlow, hhigh, hcross, bind, Except.bind]

theorem castTo_eq_ok_iff {kind text : String} {toValue : α → Value} {a? : Option α} {v : Value} :
    castTo kind toValue text a? = .ok v ↔ ∃ a, a? = some a ∧ toValue a = v := by
  cases a? with
  | none => simp [castTo]
  | some a => simp [castTo]

theorem castTo_eq_error_iff {kind text : String} {toValue : α → Value} {a? : Option α} :
    castTo kind toValue text a? = .error (.cast text kind) ↔ a? = none := by
  cases a? <;> simp [castTo]

end Domain

namespace Field

open Numeral (Denotes IsName double?)

variable {c : Column} {assets : AssetSource} {f : Field}

/-- A column of floats casts a text as a double, an empty one as no value. -/
theorem cast_of_buildFloat (hbuild : build c assets = .ok f) (hkind : c.kind = .float)
    (text : String) : f.cast text = if text = "" then .ok .null else
      Domain.castTo "float" .float text (double? (Text.trim text.toList)) := by
  obtain ⟨domain, computation?, rfl, hdomain, -⟩ := eq_of_build hbuild
  rw [Domain.build, hkind] at hdomain
  obtain ⟨values, low, high, -, -, -, -, rfl⟩ := Domain.buildFloat_eq_ok_iff.1 hdomain
  simp [cast, hkind, Domain.keepsEmptyText, Domain.cast]

theorem double?_empty : double? (Text.trim "".toList) = none := by decide

/-- The floats that a text is cast to are the doubles that it is read as. -/
theorem cast_eq_float_iff (hbuild : build c assets = .ok f) (hkind : c.kind = .float)
    {text : String} {x : Double} :
    f.cast text = .ok (.float x) ↔ double? (Text.trim text.toList) = some x := by
  rw [cast_of_buildFloat hbuild hkind]
  split
  · next hempty =>
    subst hempty
    rw [double?_empty]
    simp
  · simp [Domain.castTo_eq_ok_iff]

/-- The texts that are not cast are those that are no doubles, but for the empty one. -/
theorem cast_eq_error_iff (hbuild : build c assets = .ok f) (hkind : c.kind = .float)
    {text : String} : f.cast text = .error (.cast text "float") ↔
      text ≠ "" ∧ (∀ x, ¬ IsName (Text.trim text.toList) x) ∧
        ∀ q, ¬ Denotes (Text.trim text.toList) q := by
  have hread := not_congr (@Numeral.isSome_double?_iff (Text.trim text.toList))
  simp only [not_or, not_exists] at hread
  rw [cast_of_buildFloat hbuild hkind, ← hread, Option.not_isSome_iff_eq_none]
  split
  · next hempty => simp [hempty]
  · next hne => simp [Domain.castTo_eq_error_iff, hne]

theorem generate_of_buildFloat (hbuild : build c assets = .ok f) (hkind : c.kind = .float)
    (hsome : ¬ c.DrawsNone) {σ : Type} [RandomSource σ] (w : World σ) :
    ∃ raw weight x, (raw, weight) ∈ c.values ∧ 0 < weight ∧
      double? (Text.trim raw.toList) = some x ∧ x.isFinite = true ∧
      (f.generate w).1 = .ok (.float x) := by
  obtain ⟨domain, computation?, rfl, hdomain, -⟩ := eq_of_build hbuild
  rw [Domain.build, hkind] at hdomain
  obtain ⟨values, low, high, hvalues, -, -, -, rfl⟩ := Domain.buildFloat_eq_ok_iff.1 hdomain
  obtain ⟨raw, weight, x, hmem, hpositive, hread, hdraw⟩ :=
    Domain.exists_draw_listed hvalues hsome w.source
  obtain ⟨hx, hfinite⟩ := Domain.readFloat?_eq_some_iff.1 hread
  refine ⟨raw, weight, x, hmem, hpositive, hx, hfinite, ?_⟩
  rcases hpick : values.draw w.source with ⟨a?, s⟩
  obtain rfl : a? = some x := by rw [← hdraw, hpick]
  simp only [generate, Domain.generate, Domain.drawn, Domain.asValue, World.draw, Domain.listedOr,
    hpick]

/-- A built column of floats casts a text to a finite double just if the text denotes a number below
the overflow, to a double that is not finite just if the text names one or denotes another number,
and refuses all other texts but the empty one. Where it has values to draw, it always draws one of
them, which is finite. -/
theorem finite_iff_of_build (hbuild : build c assets = .ok f) (hkind : c.kind = .float) :
    (∀ text, (∃ x, f.cast text = .ok (.float x) ∧ x.isFinite = true) ↔
      ∃ q, Denotes (Text.trim text.toList) q ∧ |q| < Double.overflow) ∧
    (∀ text, (∃ x, f.cast text = .ok (.float x) ∧ x.isFinite = false) ↔
      (∃ x, IsName (Text.trim text.toList) x) ∨
        ∃ q, Denotes (Text.trim text.toList) q ∧ Double.overflow ≤ |q|) ∧
    (∀ text, f.cast text = .error (.cast text "float") ↔
      text ≠ "" ∧ (∀ x, ¬ IsName (Text.trim text.toList) x) ∧
        ∀ q, ¬ Denotes (Text.trim text.toList) q) ∧
    (¬ c.DrawsNone → ∀ {σ : Type} [RandomSource σ] (w : World σ),
      ∃ raw weight x, (raw, weight) ∈ c.values ∧ 0 < weight ∧
        double? (Text.trim raw.toList) = some x ∧ x.isFinite = true ∧
        (f.generate w).1 = .ok (.float x)) := by
  refine ⟨fun text => ?_, fun text => ?_, fun text => cast_eq_error_iff hbuild hkind,
    fun hsome _ _ w => generate_of_buildFloat hbuild hkind hsome w⟩
  · simp only [cast_eq_float_iff hbuild hkind]
    exact Numeral.exists_finite_iff
  · simp only [cast_eq_float_iff hbuild hkind]
    exact Numeral.exists_not_finite_iff

/-- Floats with one value to draw and one that is never drawn. -/
def ratios : Column :=
  { Column.plain "x" .float with values := [(" 1.5 ", 3), ("-2e3", 0)] }

theorem finite_iff_ratios : ratios.kind = .float ∧ ¬ ratios.DrawsNone ∧
    ∀ assets, ∃ f, build ratios assets = .ok f ∧
      (∃ x, f.cast " +3" = .ok (.float x) ∧ x.isFinite = true) ∧
      (∃ x, f.cast "-inf" = .ok (.float x) ∧ x.isFinite = false) ∧
      f.cast "" ≠ .error (.cast "" "float") ∧
      ∀ {σ : Type} [RandomSource σ] (w : World σ), ∃ raw weight x, (raw, weight) ∈ ratios.values ∧
        0 < weight ∧ double? (Text.trim raw.toList) = some x ∧ x.isFinite = true ∧
        (f.generate w).1 = .ok (.float x) := by
  have hsome : ¬ ratios.DrawsNone := by decide
  have hvalues : ∃ values, Domain.listed ratios "a number" Domain.readFloat? = .ok values := by
    refine (Domain.exists_listed_iff _).2 ?_
    decide +kernel
  obtain ⟨values, hvalues⟩ := hvalues
  have hdomain : Domain.buildFloat ratios = .ok (.float values (.ofNat 0) (.ofNat 1)) :=
    Domain.buildFloat_eq_ok_iff.2 ⟨values, _, _, hvalues, rfl, rfl, by decide +kernel, rfl⟩
  refine ⟨rfl, hsome, fun assets => ?_⟩
  have hbuild : build ratios assets = .ok _ :=
    (build_eq_ok_iff_of_drawn rfl).2 ⟨_, hdomain, rfl⟩
  obtain ⟨hfinite, hinfinite, herror, hdrawn⟩ := finite_iff_of_build hbuild rfl
  refine ⟨_, hbuild, (hfinite _).2 ⟨3, ?_, ?_⟩, (hinfinite _).2 (.inl ⟨.infinite true, ?_⟩),
    fun h => ((herror _).1 h).1 rfl, hdrawn hsome⟩
  · exact (Numeral.denotes_of_integer? (k := 3) (by decide)).2
  · calc |((3 : Int) : ℚ)| < (2 ^ 53 - 1 / 2) * 1 := by norm_num
      _ ≤ Double.overflow :=
        mul_le_mul_of_nonneg_left (one_le_zpow₀ (by norm_num) (by norm_num)) (by norm_num)
  · have hword : ['i', 'n', 'f'].map Numeral.plainLower = ['i', 'n', 'f'] := by decide
    exact .infinity .minus (.inl hword)

/-- The text of no finite double may not be listed, but it is cast. -/
theorem not_finite_plainFloats :
    (∀ assets, build { Column.plain "x" .float with values := [("NaN", 1)] } assets =
      .error (.domain (.badValue "NaN" "a number"))) ∧
    ∀ assets, ∃ f, build (.plain "x" .float) assets = .ok f ∧
      f.cast "NaN" = .ok (.float .nan) ∧ f.cast "-Infinity" = .ok (.float (.infinite true)) ∧
      f.cast "1e999" = .ok (.float (.infinite false)) := by
  refine ⟨fun assets => rfl, fun assets => ?_⟩
  have hdomain : Domain.buildFloat (.plain "x" .float) =
      .ok (.float ⟨[]⟩ (.ofNat 0) (.ofNat 1)) :=
    Domain.buildFloat_eq_ok_iff.2 ⟨⟨[]⟩, _, _, rfl, rfl, rfl, by decide +kernel, rfl⟩
  refine ⟨_, (build_eq_ok_iff_of_drawn rfl).2 ⟨_, hdomain, rfl⟩, ?_, ?_, ?_⟩
  · decide +kernel
  · decide +kernel
  · decide +kernel

end Field

end SynthTable
