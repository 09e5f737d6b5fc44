import SynthTable.Proofs.Domain.FiniteFloats
import SynthTable.Proofs.Domain.IntegerBounds
import SynthTable.Proofs.Schema.Findings

/-!
# Bounds that the check has passed

The check of a schema holds the bounds of a numeric column to be finite numbers in order. A column
is only made ready if its bounds are numbers of its kind as well, and if one that stands alone is
not beyond the end that is taken in place of the other. So a column that is checked without error is
made ready just if its bounds suit the kind in this sense (`Field.build_iff_of_check`). Left aside
are integers that cross but are the same as doubles, which the check cannot tell apart.
-/

namespace SynthTable

namespace Bound

variable {a b : Bound} {m n : Int64} {x y : Double} {q v w : ℚ}

/-- A bound that denotes a number is taken as the double nearest to it. -/
theorem value?_of_denotes (hx : b.double? = some x) (hq : b.Denotes q) :
    x.value? = (Double.ofRat q).value? := by
  cases hq with
  | integer n =>
    cases hx
    rw [Double.ofRat_intCast]
  | float hvalue =>
    cases hx
    rw [hvalue, Double.value?_ofRat hvalue]
  | text hs => exact Numeral.value?_of_denotes hx hs

/-- Bounds in order as doubles are in order as integers. -/
theorem le_of_lt_double (hm : a.int64? = some m) (hn : b.int64? = some n) (hx : a.double? = some x)
    (hy : b.double? = some y) (hv : x.value? = some v) (hw : y.value? = some w) (h : v < w) :
    m ≤ n := by
  obtain ⟨k, hk, hmk⟩ := exists_denotes hm
  obtain ⟨l, hl, hnl⟩ := exists_denotes hn
  rw [value?_of_denotes hx hk] at hv
  rw [value?_of_denotes hy hl] at hw
  have hkl : k ≤ l := by
    by_contra hlt
    have hle : (l : ℚ) ≤ k := by exact_mod_cast (not_le.1 hlt).le
    exact absurd (Double.ofRat_mono hle hw hv) (not_le.2 h)
  rw [Int64.le_iff_toInt_le]
  omega

end Bound

namespace Column

variable {c : Column} {least greatest : Int64}

/-- The bounds are integers, and one that stands alone is not beyond the end taken in place of the
other. -/
def IntegersFit (c : Column) (least greatest : Int64) : Prop :=
  (∀ b, c.min? = some b → ∃ m, b.int64? = some m ∧ (c.max? = none → m ≤ greatest)) ∧
    ∀ b, c.max? = some b → ∃ n, b.int64? = some n ∧ (c.min? = none → least ≤ n)

/-- A bound that stands alone is not beyond the end taken in place of the other: an upper one not
below 0, and a lower one not above 1. -/
def FloatsFit (c : Column) : Prop :=
  (∀ b, c.min? = some b → c.max? = none →
      ∃ x v, b.double? = some x ∧ x.value? = some v ∧ v ≤ 1) ∧
    ∀ b, c.max? = some b → c.min? = none → ∃ x v, b.double? = some x ∧ x.value? = some v ∧ 0 ≤ v

/-- The bounds of a numeric column suit its kind. -/
def BoundsFit (c : Column) : Prop :=
  match c.kind with
  | .integer => c.IntegersFit (-2147483648) 2147483647
  | .long => c.IntegersFit Int64.minValue (Int64.maxValue - 1)
  | .float => c.FloatsFit
  | .incrementInteger | .incrementLong => ∀ b, c.min? = some b → ∃ m, b.int64? = some m
  | _ => True

/-- The bounds cross as integers but are the same as doubles. -/
def CrossesUnseen (c : Column) : Prop :=
  ∃ a b m n x y, c.min? = some a ∧ c.max? = some b ∧ a.int64? = some m ∧ b.int64? = some n ∧
    n < m ∧ a.double? = some x ∧ b.double? = some y ∧ x.equal y = true

/-- The bounds are finite doubles, and they do not cross as such. -/
structure BoundsPass (c : Column) : Prop where
  min : ∀ b, c.min? = some b → ∃ x, finiteBound? b = some x
  max : ∀ b, c.max? = some b → ∃ y, finiteBound? b = some y
  order : ∀ a b x y, c.min? = some a → c.max? = some b → finiteBound? a = some x →
    finiteBound? b = some y → y.less x = false

theorem isError_of_mem_boundFindings {f : Finding} (h : f ∈ c.boundFindings) :
    f.isError = true := by
  unfold boundFindings at h
  split at h
  · cases h
  · dsimp only at h
    split at h
    · rw [List.mem_singleton.1 h]
      rfl
    · rw [List.mem_singleton.1 h]
      rfl
    · split at h
      · rw [List.mem_singleton.1 h]
        rfl
      · cases h
    · cases h

theorem boundsPass_of_findings (hkind : c.kind.isNumeric = true) (h : c.boundFindings = []) :
    c.BoundsPass := by
  rw [boundFindings, hkind, Bool.not_true, if_neg Bool.false_ne_true] at h
  dsimp only at h
  have hmin : ∀ a, c.min? = some a → ∃ x, finiteBound? a = some x := by
    intro a ha
    cases hx : finiteBound? a with
    | none => simp [ha, hx] at h
    | some x => exact ⟨x, rfl⟩
  refine ⟨hmin, fun b hb => ?_, fun a b x y ha hb hx hy => ?_⟩
  · cases hy : finiteBound? b with
    | some y => exact ⟨y, rfl⟩
    | none =>
      cases ha : c.min? with
      | none => simp [ha, hb, hy] at h
      | some a =>
        obtain ⟨x, hx⟩ := hmin a ha
        simp [ha, hb, hx, hy] at h
  · simpa [ha, hb, hx, hy] using h

theorem finiteBound?_eq_some_iff {b : Bound} {x : Double} : finiteBound? b = some x ↔
    b.double? = some x ∧ x.isFinite = true :=
  Option.filter_eq_some_iff

/-- A finite bound has a number, and a property of it is one of its number. -/
theorem exists_finiteBound?_iff {b : Bound} {p : Double → Prop} {r : ℚ → Prop}
    (h : ∀ x v, x.value? = some v → (p x ↔ r v)) :
    (∃ x, finiteBound? b = some x ∧ p x) ↔
      ∃ x v, b.double? = some x ∧ x.value? = some v ∧ r v := by
  simp only [finiteBound?_eq_some_iff, Double.isFinite_eq_isSome, Option.isSome_iff_exists]
  constructor
  · rintro ⟨x, ⟨hx, v, hv⟩, hp⟩
    exact ⟨x, v, hx, hv, (h x v hv).1 hp⟩
  · rintro ⟨x, v, hx, hv, hr⟩
    exact ⟨x, ⟨hx, v, hv⟩, (h x v hv).2 hr⟩

/-- Unless they cross unseen, bounds that pass are in order as integers. -/
theorem BoundsPass.le_int64 (h : c.BoundsPass) (hunseen : ¬ c.CrossesUnseen) {a b : Bound}
    {m n : Int64} (ha : c.min? = some a) (hb : c.max? = some b) (hm : a.int64? = some m)
    (hn : b.int64? = some n) : m ≤ n := by
  obtain ⟨x, hx⟩ := h.min a ha
  obtain ⟨y, hy⟩ := h.max b hb
  have horder := h.order a b x y ha hb hx hy
  obtain ⟨hx, hfinite⟩ := finiteBound?_eq_some_iff.1 hx
  obtain ⟨hy, hfinite'⟩ := finiteBound?_eq_some_iff.1 hy
  rw [Double.isFinite_eq_isSome, Option.isSome_iff_exists] at hfinite hfinite'
  obtain ⟨v, hv⟩ := hfinite
  obtain ⟨w, hw⟩ := hfinite'
  rcases ((Double.less_eq_false_iff_le hw hv).1 horder).lt_or_eq with hlt | heq
  · exact Bound.le_of_lt_double hm hn hx hy hv hw hlt
  · by_contra hcross
    exact hunseen ⟨a, b, m, n, x, y, ha, hb, hm, hn, Int64.not_le.1 hcross, hx, hy,
      (Double.equal_iff hv hw).2 heq⟩

end Column

namespace Schema

/-- The bounds of a numeric column without error have passed the check. -/
theorem boundsPass_of_check {s : Schema} {report : CheckReport} {c : Column}
    (hcheck : s.check = .ok report) (hc : c ∈ s.columns)
    (hok : ∀ issue ∈ report.errors, issue.column ≠ c.name) (hkind : c.kind.isNumeric = true) :
    c.BoundsPass := by
  obtain ⟨hnames, rfl⟩ := check_eq_ok_iff.1 hcheck
  obtain ⟨before, after, hsplit⟩ := List.append_of_mem hc
  have hnodup := (nameFault?_eq_none_iff.1 hnames).2
  refine Column.boundsPass_of_findings hkind (List.eq_nil_iff_forall_not_mem.2 fun f hf => ?_)
  have hmem : f ∈ s.findingsAfter before c := by simp [findingsAfter, Column.findings, hf]
  obtain ⟨issue, hissue, hname, herror⟩ :=
    (hasError_issues_iff hnodup hsplit).2 ⟨f, hmem, Column.isError_of_mem_boundFindings hf⟩
  exact hok issue (List.mem_filter.2 ⟨hissue, herror⟩) hname

end Schema

namespace Domain

variable {c : Column} {label : String} {b : Bound}

/-! ## Making ready -/

theorem intBound_some_eq_ok_iff {default n : Int64} :
    intBound label default (some b) = .ok n ↔ b.int64? = some n := by
  rw [intBound]
  cases b.int64? <;> simp

theorem doubleBound_some_eq_ok_iff {default x : Double} :
    doubleBound label default (some b) = .ok x ↔ Column.finiteBound? b = some x := by
  rw [doubleBound, Column.finiteBound?]
  cases b.double?.filter (·.isFinite) <;> simp

theorem listed_of_nil {α : Type} (hvalues : c.values = []) (what : String)
    (read : String → Option α) : listed c what read = .ok ⟨[]⟩ := by
  rw [listed, hvalues]
  rfl

theorem exists_buildInteger_iff {least greatest : Int64} (hvalues : c.values = []) :
    (∃ domain, buildInteger c least greatest = .ok domain) ↔
      ∃ low high, intBound "min" least c.min? = .ok low ∧
        intBound "max" greatest c.max? = .ok high ∧ low ≤ high := by
  constructor
  · rintro ⟨domain, h⟩
    obtain ⟨values, low, high, -, hlow, hhigh, hle, -⟩ := exists_of_buildInteger h
    exact ⟨low, high, hlow, hhigh, hle⟩
  · rintro ⟨low, high, hlow, hhigh, hle⟩
    refine ⟨.integer ⟨[]⟩ low high, ?_⟩
    simp [buildInteger, listed_of_nil hvalues, hlow, hhigh, bind, Except.bind, hle]

/-- Integers in order are made ready just if they suit the ends taken in their place. -/
theorem exists_buildInteger_iff_fit {least greatest : Int64} (hvalues : c.values = [])
    (hends : least ≤ greatest)
    (horder : ∀ a b m n, c.min? = some a → c.max? = some b → a.int64? = some m →
      b.int64? = some n → m ≤ n) :
    (∃ domain, buildInteger c least greatest = .ok domain) ↔ c.IntegersFit least greatest := by
  rw [exists_buildInteger_iff hvalues, Column.IntegersFit]
  cases hmin : c.min? with
  | none =>
    cases hmax : c.max? with
    | none => simpa [intBound] using hends
    | some b => simp [intBound_some_eq_ok_iff, show intBound "min" least none = .ok least from rfl]
  | some a =>
    cases hmax : c.max? with
    | none =>
      simp [intBound_some_eq_ok_iff, show intBound "max" greatest none = .ok greatest from rfl]
    | some b =>
      simp only [intBound_some_eq_ok_iff, Option.some.injEq, reduceCtorEq, false_implies, and_true,
        forall_eq']
      constructor
      · rintro ⟨m, n, hm, hn, -⟩
        exact ⟨⟨m, hm⟩, n, hn⟩
      · rintro ⟨⟨m, hm⟩, n, hn⟩
        exact ⟨m, n, hm, hn, horder a b m n hmin hmax hm hn⟩

theorem exists_buildFloat_iff (hvalues : c.values = []) :
    (∃ domain, buildFloat c = .ok domain) ↔
      ∃ low high, doubleBound "min" (.ofNat 0) c.min? = .ok low ∧
        doubleBound "max" (.ofNat 1) c.max? = .ok high ∧ high.less low = false := by
  simp only [buildFloat_eq_ok_iff, listed_of_nil hvalues]
  constructor
  · rintro ⟨domain, values, low, high, -, hlow, hhigh, hcross, -⟩
    exact ⟨low, high, hlow, hhigh, hcross⟩
  · rintro ⟨low, high, hlow, hhigh, hcross⟩
    exact ⟨_, _, low, high, rfl, hlow, hhigh, hcross, rfl⟩

/-- Floats that pass the check are made ready just if they suit the ends taken in their place. -/
theorem exists_buildFloat_iff_fit (hvalues : c.values = []) (hpass : c.BoundsPass) :
    (∃ domain, buildFloat c = .ok domain) ↔ c.FloatsFit := by
  have hzero : (Double.ofNat 0).value? = some 0 := Double.value?_ofInt (k := 0) (by decide)
  have hone : (Double.ofNat 1).value? = some 1 := by
    rw [← Double.ofInt_natCast]
    simpa using Double.value?_ofInt (k := 1) (by decide)
  have hleast : doubleBound "min" (.ofNat 0) none = .ok (.ofNat 0) := rfl
  have hgreatest : doubleBound "max" (.ofNat 1) none = .ok (.ofNat 1) := rfl
  rw [exists_buildFloat_iff hvalues, Column.FloatsFit]
  cases hmin : c.min? with
  | none =>
    cases hmax : c.max? with
    | none =>
      simpa [hleast, hgreatest] using (Double.less_eq_false_iff_le hone hzero).2 zero_le_one
    | some b =>
      simpa [hleast, doubleBound_some_eq_ok_iff] using Column.exists_finiteBound?_iff
        fun x v hv => Double.less_eq_false_iff_le hv hzero
  | some a =>
    cases hmax : c.max? with
    | none =>
      simpa [hgreatest, doubleBound_some_eq_ok_iff] using Column.exists_finiteBound?_iff
        fun x v hv => Double.less_eq_false_iff_le hone hv
    | some b =>
      obtain ⟨x, hx⟩ := hpass.min a hmin
      obtain ⟨y, hy⟩ := hpass.max b hmax
      simpa [doubleBound_some_eq_ok_iff] using ⟨x, hx, y, hy, hpass.order a b x y hmin hmax hx hy⟩

theorem exists_intBound_iff {default : Int64} {b? : Option Bound} :
    (∃ n, intBound label default b? = .ok n) ↔ ∀ b, b? = some b → ∃ n, b.int64? = some n := by
  cases b? with
  | none => simp [intBound]
  | some b => simp [intBound_some_eq_ok_iff]

end Domain

namespace Field

variable {s : Schema} {report : CheckReport} {c : Column} {assets : AssetSource}

theorem exists_build_iff_of_drawn (hdrawn : c.derivation? = none) :
    (∃ f, build c assets = .ok f) ↔ ∃ domain, Domain.build c assets = .ok domain := by
  simp only [build_eq_ok_iff_of_drawn hdrawn]
  constructor
  · rintro ⟨_, domain, hdomain, -⟩
    exact ⟨domain, hdomain⟩
  · rintro ⟨domain, hdomain⟩
    exact ⟨_, domain, hdomain, rfl⟩

/-- A numeric column without values and derivation that is checked without error is made ready just
if its bounds suit its kind. Columns of integers whose bounds cross but are the same as doubles are
left out. -/
theorem build_iff_of_check (hcheck : s.check = .ok report) (hc : c ∈ s.columns)
    (hok : ∀ issue ∈ report.errors, issue.column ≠ c.name) (hvalues : c.values = [])
    (hdrawn : c.derivation? = none) (hkind : c.kind.isNumeric = true)
    (hunseen : c.kind = .integer ∨ c.kind = .long → ¬ c.CrossesUnseen) :
    (∃ f, build c assets = .ok f) ↔ c.BoundsFit := by
  have hpass := Schema.boundsPass_of_check hcheck hc hok hkind
  rw [exists_build_iff_of_drawn hdrawn, Domain.build, Column.BoundsFit]
  cases h : c.kind with
  | integer =>
    exact Domain.exists_buildInteger_iff_fit hvalues (by decide) fun a b m n =>
      hpass.le_int64 (hunseen (.inl h))
  | long =>
    exact Domain.exists_buildInteger_iff_fit hvalues (by decide) fun a b m n =>
      hpass.le_int64 (hunseen (.inr h))
  | float => exact Domain.exists_buildFloat_iff_fit hvalues hpass
  | incrementInteger | incrementLong => exact exists_bind_ok_iff.trans Domain.exists_intBound_iff
  | _ =>
    rw [h] at hkind
    cases hkind

/-- Integers of 64 bits between a bound that is a text and one that is a double. -/
def boundedLong : Column :=
  { Column.plain "n" .long with
    min? := some (.text " -5 ")
    max? := some (.float (.ofInt 5)) }

theorem build_boundedLong : Schema.check ⟨"", none, [boundedLong]⟩ = .ok ⟨[], []⟩ ∧
    boundedLong.values = [] ∧ boundedLong.derivation? = none ∧
    boundedLong.kind.isNumeric = true ∧ ¬ boundedLong.CrossesUnseen ∧
    ∀ assets, ∃ f, build boundedLong assets = .ok f := by
  have hcheck : Schema.check ⟨"", none, [boundedLong]⟩ = .ok ⟨[], []⟩ := by rfl
  have hmin : Bound.int64? (.text " -5 ") = some (-5) := by decide
  have hmax : Bound.int64? (.float (.ofInt 5)) = some 5 := by decide +kernel
  have hunseen : ¬ boundedLong.CrossesUnseen := by
    rintro ⟨a, b, m, n, x, y, ⟨⟩, ⟨⟩, hm, hn, hcross, -⟩
    cases hmin.symm.trans hm
    cases hmax.symm.trans hn
    exact absurd hcross (by decide)
  refine ⟨hcheck, rfl, rfl, rfl, hunseen, fun assets => ?_⟩
  refine (build_iff_of_check hcheck (by simp) (by simp) rfl rfl rfl fun _ => hunseen).2 ⟨?_, ?_⟩
  · rintro b ⟨⟩
    exact ⟨_, hmin, nofun⟩
  · rintro b ⟨⟩
    exact ⟨_, hmax, nofun⟩

/-- Integers above a bound that is none. -/
def halfIntegers : Column := { Column.plain "n" .integer with min? := some (.text "1.5") }

/-- Floats above a bound that is above the upper end taken for want of a bound. -/
def lateFloats : Column := { Column.plain "x" .float with min? := some (.integer 2) }

/-- Columns that are checked without error and yet not made ready for their bounds. -/
theorem not_build_checked :
    Schema.check ⟨"", none, [halfIntegers, lateFloats]⟩ = .ok ⟨[], []⟩ ∧
    (∀ c ∈ [halfIntegers, lateFloats],
      c.values = [] ∧ c.derivation? = none ∧ c.kind.isNumeric = true) ∧
    ∀ assets,
      build halfIntegers assets = .error (.domain (.notInteger "min" (.text "1.5"))) ∧
      build lateFloats assets = .error (.domain (.doublesCross (.ofInt 2) (.ofNat 1))) := by
  refine ⟨by rfl, by decide, fun assets => ⟨by rfl, ?_⟩⟩
  have hlow : Domain.doubleBound "min" (.ofNat 0) lateFloats.min? = .ok (.ofInt 2) := by
    decide +kernel
  have hcross : (Double.ofNat 1).less (.ofInt 2) = true := by decide +kernel
  have hdomain : Domain.buildFloat lateFloats = .error (.doublesCross (.ofInt 2) (.ofNat 1)) := by
    have hhigh : Domain.doubleBound "max" (.ofNat 1) lateFloats.max? = .ok (.ofNat 1) := rfl
    have hvalues : lateFloats.values = [] := rfl
    simp only [Domain.buildFloat, Domain.listed_of_nil hvalues, hlow, hhigh, bind, Except.bind,
      if_pos hcross]
  rw [build, Domain.build, show lateFloats.kind = .float from rfl]
  simp only [hdomain]

end Field

end SynthTable
