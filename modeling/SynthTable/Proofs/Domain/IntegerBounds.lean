import SynthTable.Proofs.Domain.Ranges
import SynthTable.Proofs.Number.Notation
import SynthTable.Proofs.Table.Fields
import SynthTable.Schema.Check

/-!
# Bounds of integers

A bound is an integer, a double or a numeric text, and as such an exact number (`Bound.Denotes`). A
column of integers is only made ready if its bounds are whole numbers, but a double beyond the
integers of 64 bits stands for the nearest of these. So what is drawn keeps the declared bounds
just if the lower one is not above all these integers and the upper one not below
(`Field.keepsBounds_iff`).
-/

namespace SynthTable

/-- The number that a bound denotes; the texts of dates denote none. -/
inductive Bound.Denotes : Bound → ℚ → Prop where
  | integer (n : Int64) : Denotes (.integer n) n.toInt
  | float {x q} : Double.value? x = some q → Denotes (.float x) q
  | text {s q} : Numeral.Denotes (Text.trim s.toList) q → Denotes (.text s) q

namespace Bound

variable {b : Bound} {n : Int64} {q q' : ℚ}

theorem Denotes.unique (h : b.Denotes q) (h' : b.Denotes q') : q = q' := by
  cases h with
  | integer n =>
    cases h'
    rfl
  | float hx =>
    cases h' with
    | float hx' => exact Option.some.inj (hx.symm.trans hx')
  | text hs =>
    cases h' with
    | text hs' => exact hs.unique hs'

/-- A bound that is taken as an integer denotes a whole number, and the integer is the one of 64
bits nearest to it. -/
theorem exists_denotes (h : b.int64? = some n) : ∃ k : Int, b.Denotes k ∧
    n.toInt = max Int64.minValue.toInt (min k Int64.maxValue.toInt) := by
  have hlow := n.minValue_le_toInt
  have hhigh := n.toInt_le
  cases b with
  | integer m =>
    cases h
    exact ⟨n.toInt, .integer n, by omega⟩
  | float x =>
    rw [int64?] at h
    split at h
    · next hwhole =>
      cases h
      obtain ⟨k, hk⟩ := Double.isWhole_iff_exists.1 hwhole
      exact ⟨k, .float hk, Double.toInt_toInt64 hk⟩
    · cases h
  | text s =>
    obtain ⟨-, hs⟩ := Numeral.denotes_of_integer? (Numeral.int64?_eq_some_iff.1 h)
    exact ⟨n.toInt, .text hs, by omega⟩

end Bound

/-- Whether an integer lies between the declared bounds, as exact numbers. -/
def Column.KeepsBounds (c : Column) (v : Int64) : Prop :=
  (∀ b, c.min? = some b → ∃ q, b.Denotes q ∧ q ≤ v.toInt) ∧
    ∀ b, c.max? = some b → ∃ q, b.Denotes q ∧ (v.toInt : ℚ) ≤ q

namespace Domain

variable {c : Column} {b : Bound} {label : String} {default n : Int64}

theorem exists_denotes_of_intBound (h : intBound label default (some b) = .ok n) :
    ∃ k : Int, b.Denotes k ∧ n.toInt = max Int64.minValue.toInt (min k Int64.maxValue.toInt) := by
  rw [intBound] at h
  split at h
  · next m hm =>
    cases h
    exact Bound.exists_denotes hm
  · cases h

/-- From the lower end up the lower bound is kept, unless it is above all integers of 64 bits. -/
theorem keepsMin_iff {v : Int64} (h : intBound label default (some b) = .ok n) (hv : n ≤ v) :
    (∃ q, b.Denotes q ∧ q ≤ v.toInt) ↔ ∃ q, b.Denotes q ∧ q ≤ Int64.maxValue.toInt := by
  obtain ⟨k, hk, hn⟩ := exists_denotes_of_intBound h
  rw [Int64.le_iff_toInt_le] at hv
  constructor
  · rintro ⟨q, hq, hle⟩
    exact ⟨q, hq, hle.trans (by exact_mod_cast v.toInt_le)⟩
  · rintro ⟨q, hq, hle⟩
    obtain rfl := hq.unique hk
    have hle' : k ≤ Int64.maxValue.toInt := by exact_mod_cast hle
    exact ⟨k, hk, by exact_mod_cast (by omega : k ≤ v.toInt)⟩

/-- From the upper end down the upper bound is kept, unless it is below all integers of 64 bits. -/
theorem keepsMax_iff {v : Int64} (h : intBound label default (some b) = .ok n) (hv : v ≤ n) :
    (∃ q, b.Denotes q ∧ (v.toInt : ℚ) ≤ q) ↔
      ∃ q, b.Denotes q ∧ (Int64.minValue.toInt : ℚ) ≤ q := by
  obtain ⟨k, hk, hn⟩ := exists_denotes_of_intBound h
  rw [Int64.le_iff_toInt_le] at hv
  constructor
  · rintro ⟨q, hq, hle⟩
    exact ⟨q, hq, le_trans (by exact_mod_cast v.minValue_le_toInt) hle⟩
  · rintro ⟨q, hq, hle⟩
    obtain rfl := hq.unique hk
    have hle' : Int64.minValue.toInt ≤ k := by exact_mod_cast hle
    exact ⟨k, hk, by exact_mod_cast (by omega : v.toInt ≤ k)⟩

end Domain

namespace Column

variable {c : Column}

/-- Between the ends that the bounds are taken as, the bounds are kept unless they are on the far
side of all integers of 64 bits. -/
theorem keepsBounds_iff_of_range {least greatest low high v : Int64}
    (hlow : Domain.intBound "min" least c.min? = .ok low)
    (hhigh : Domain.intBound "max" greatest c.max? = .ok high) (hv : low ≤ v ∧ v ≤ high) :
    c.KeepsBounds v ↔
      (∀ b, c.min? = some b → ∃ q, b.Denotes q ∧ q ≤ Int64.maxValue.toInt) ∧
        ∀ b, c.max? = some b → ∃ q, b.Denotes q ∧ (Int64.minValue.toInt : ℚ) ≤ q := by
  refine and_congr (forall₂_congr fun b hb => ?_) (forall₂_congr fun b hb => ?_)
  · rw [hb] at hlow
    exact Domain.keepsMin_iff hlow hv.1
  · rw [hb] at hhigh
    exact Domain.keepsMax_iff hhigh hv.2

end Column

namespace Field

variable {c : Column} {assets : AssetSource} {f : Field}

theorem exists_buildInteger (h : build c assets = .ok f)
    (hkind : c.kind = .integer ∨ c.kind = .long) :
    ∃ least greatest domain computation?, Domain.buildInteger c least greatest = .ok domain ∧
      f = ⟨c.name, c.ghost, .declared c.kind domain computation?⟩ := by
  obtain ⟨domain, computation?, rfl, hdomain, -⟩ := eq_of_build h
  rcases hkind with hkind | hkind <;> rw [Domain.build, hkind] at hdomain <;>
    exact ⟨_, _, domain, computation?, hdomain, rfl⟩

/-- A built column of integers that draws no listed value always draws an integer, and this keeps
the declared bounds, as exact numbers, just if the lower bound is not above all integers of 64 bits
and the upper bound not below them. -/
theorem keepsBounds_iff (hbuild : build c assets = .ok f) (hnone : c.DrawsNone)
    (hkind : c.kind = .integer ∨ c.kind = .long) {σ : Type} [RandomSource σ] (w : World σ) :
    ∃ v, (f.generate w).1 = .ok (.int v) ∧ (c.KeepsBounds v ↔
      (∀ b, c.min? = some b → ∃ q, b.Denotes q ∧ q ≤ Int64.maxValue.toInt) ∧
        ∀ b, c.max? = some b → ∃ q, b.Denotes q ∧ (Int64.minValue.toInt : ℚ) ≤ q) := by
  obtain ⟨least, greatest, domain, computation?, hdomain, rfl⟩ := exists_buildInteger hbuild hkind
  obtain ⟨values, low, high, hvalues, hlow, hhigh, hle, rfl⟩ :=
    Domain.exists_of_buildInteger hdomain
  have hexact := Domain.givesExactly_integer hle
    (Domain.isEmpty_listed_of_drawsNone hvalues hnone) c.name
  obtain ⟨_, ⟨v, hrange, rfl⟩, hv⟩ := hexact.sound w
  exact ⟨v, hv, Column.keepsBounds_iff_of_range hlow hhigh hrange⟩

/-- Integers between a bound that is a text and one that is a double. -/
def smallIntegers : Column :=
  { Column.plain "n" .integer with
    values := [("7", 0)]
    min? := some (.text " -5 ")
    max? := some (.float (.ofInt 5)) }

theorem keepsBounds_smallIntegers : smallIntegers.DrawsNone ∧ smallIntegers.kind = .integer ∧
    ∀ assets, ∃ f, build smallIntegers assets = .ok f ∧
      ∀ {σ : Type} [RandomSource σ] (w : World σ),
        ∃ v, (f.generate w).1 = .ok (.int v) ∧ smallIntegers.KeepsBounds v := by
  have hnone : smallIntegers.DrawsNone := by decide
  refine ⟨hnone, rfl, fun assets => ?_⟩
  have hbuild : build smallIntegers assets =
      .ok ⟨"n", false, .declared .integer (.integer ⟨[]⟩ (-5) 5) none⟩ := by
    rfl
  refine ⟨_, hbuild, fun w => ?_⟩
  obtain ⟨v, hv, hiff⟩ := keepsBounds_iff hbuild hnone (.inl rfl) w
  have hmin : Bound.Denotes (.text " -5 ") (-5 : Int) :=
    .text (Numeral.denotes_of_integer? (by decide)).2
  have hmax : Bound.Denotes (.float (.ofInt 5)) (5 : Int) :=
    .float (Double.value?_ofInt (by decide))
  refine ⟨v, hv, hiff.2 ⟨?_, ?_⟩⟩
  · rintro b ⟨⟩
    exact ⟨_, hmin, by exact_mod_cast (by decide : (-5 : Int) ≤ Int64.maxValue.toInt)⟩
  · rintro b ⟨⟩
    exact ⟨_, hmax, by exact_mod_cast (by decide : Int64.minValue.toInt ≤ 5)⟩

/-- Integers between bounds that no integer of 64 bits reaches. -/
def farIntegers : Column :=
  { Column.plain "n" .long with
    min? := some (.float (.ofNat 10000000000000000000))
    max? := some (.float (.ofNat 20000000000000000000)) }

theorem denotes_farIntegers :
    Bound.Denotes (.float (.ofNat 10000000000000000000)) 10000000000000000000 := by
  have hform : IsDoubleForm 4882812500000000 11 := by decide
  refine .float ?_
  rw [Double.ofNat, Double.ofRatio_of_eq Nat.one_pos hform (by norm_num [Double.unit])]
  norm_num [Double.value?, Double.signed, Double.unit]

/-- The schema of this column is without error and the column is made ready, but what it draws is
always below its lower bound. -/
theorem not_keepsBounds_farIntegers :
    farIntegers.DrawsNone ∧ farIntegers.derivation? = none ∧
      Schema.check ⟨"", none, [farIntegers]⟩ = .ok ⟨[], []⟩ ∧
      ∀ assets, ∃ f, build farIntegers assets = .ok f ∧
        ∀ {σ : Type} [RandomSource σ] (w : World σ), ∃ v,
          (f.generate w).1 = .ok (.int v) ∧ ¬ farIntegers.KeepsBounds v := by
  have hnone : farIntegers.DrawsNone := by decide
  refine ⟨hnone, rfl, by rfl, fun assets => ?_⟩
  have hbuild : build farIntegers assets = .ok ⟨"n", false,
      .declared .long (.integer ⟨[]⟩ Int64.maxValue Int64.maxValue) none⟩ := by
    rfl
  have hexact := @Domain.givesExactly_integer ⟨[]⟩ _ _ (Int64.le_refl Int64.maxValue) rfl "n"
  refine ⟨_, hbuild, fun w => ?_⟩
  obtain ⟨_, ⟨v, -, rfl⟩, hv⟩ := hexact.sound w
  refine ⟨v, hv, fun hkept => ?_⟩
  obtain ⟨q, hq, hle⟩ := hkept.1 _ rfl
  obtain rfl := hq.unique denotes_farIntegers
  have hle' : (10000000000000000000 : Int) ≤ v.toInt := by exact_mod_cast hle
  have hmax := v.toInt_lt
  omega

end Field

end SynthTable
