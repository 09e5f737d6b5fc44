import SynthTable.Proofs.Draw.Pattern
import SynthTable.Table.Field

/-!
# Columns that crash

A column ends in a crash when it is made ready if it is one of a pattern with more slots than there
is room for (`Column.Overflows`). Nothing else that can be wrong with a column is a crash: the other
steps of building a domain are steady (`Domain.IsSteady`), which is proved of each of them in turn.
-/

namespace SynthTable

/-- The column is one of a pattern, and the pieces of the pattern have 2^59 slots or more. -/
def Column.Overflows (c : Column) : Prop :=
  c.kind = .stringRegex ∧ ∃ source pieces, c.pattern? = some source ∧
    Pattern.Cut source.toList pieces ∧ 2 ^ 59 ≤ (pieces.map Pattern.Piece.size).sum

theorem Column.overflows_iff {c : Column} : c.Overflows ↔
    c.kind = .stringRegex ∧ ∃ source, c.pattern? = some source ∧ Pattern.ofText? source = none := by
  refine and_congr_right fun _ => exists_congr fun source => ?_
  constructor
  · rintro ⟨pieces, hpattern, hcut, hlarge⟩
    refine ⟨hpattern, Option.eq_none_iff_forall_ne_some.2 fun p hp => ?_⟩
    exact Nat.not_lt.2 hlarge ((Pattern.ofText?_eq_some_iff hcut).1 hp).1
  · rintro ⟨hpattern, hnone⟩
    obtain ⟨pieces, hcut⟩ := Pattern.exists_cut source.toList
    refine ⟨pieces, hpattern, hcut, Nat.not_lt.1 fun hsmall => ?_⟩
    have hsome := (Pattern.ofText?_eq_some_iff hcut).2 ⟨hsmall, rfl⟩
    rw [hnone] at hsome
    cases hsome

namespace Domain

/-! ## Steps that do not crash -/

/-- No error of a step is a crash. -/
structure IsSteady {α : Type} (x : Except DomainError α) : Prop where
  crash? : ∀ e, x = .error e → e.crash? = none

variable {α β : Type}

theorem isSteady_ok (a : α) : IsSteady (.ok a) := ⟨fun _ h => by cases h⟩

theorem isSteady_error {e : DomainError} (h : e.crash? = none) : IsSteady (.error e : Except _ α) :=
  ⟨fun _ heq => by cases heq; exact h⟩

theorem IsSteady.bind {x : Except DomainError α} {f : α → Except DomainError β} (h : IsSteady x)
    (hf : ∀ a, IsSteady (f a)) : IsSteady (x >>= f) := by
  cases x with
  | error e => exact isSteady_error (h.crash? e rfl)
  | ok a => exact hf a

/-- A step that is refused under a condition, with an error that is no crash. -/
theorem IsSteady.guard {x : Except DomainError α} (h : IsSteady x) {p : Prop} [Decidable p]
    {e : DomainError} (he : e.crash? = none) : IsSteady (if p then .error e else x) := by
  split
  · exact isSteady_error he
  · exact h

theorem isSteady_readValues (what : String) (read : String → Option α) (values : NameMap Int64) :
    IsSteady (readValues what read values) := by
  induction values with
  | nil => exact isSteady_ok _
  | cons entry rest ih =>
    rw [readValues]
    split
    · exact isSteady_error rfl
    · split
      · next e he => exact isSteady_error (ih.crash? e he)
      · exact isSteady_ok _

theorem isSteady_listed (c : Column) (what : String) (read : String → Option α) :
    IsSteady (listed c what read) := by
  have hread := isSteady_readValues what read c.values
  rw [listed]
  cases hvalues : readValues what read c.values with
  | error e => exact isSteady_error (hread.crash? e hvalues)
  | ok values => exact isSteady_ok _

theorem isSteady_intBound (label : String) (default : Int64) (bound? : Option Bound) :
    IsSteady (intBound label default bound?) := by
  unfold intBound
  split
  · exact isSteady_ok _
  · split
    · exact isSteady_ok _
    · exact isSteady_error rfl

theorem isSteady_doubleBound (label : String) (default : Double) (bound? : Option Bound) :
    IsSteady (doubleBound label default bound?) := by
  unfold doubleBound
  split
  · exact isSteady_ok _
  · split
    · exact isSteady_ok _
    · exact isSteady_error rfl

theorem isSteady_dateBound (label : String) (default : Int64) (read : String → Option Int)
    (bound? : Option Bound) : IsSteady (dateBound label default read bound?) := by
  unfold dateBound
  split
  · exact isSteady_ok _
  · dsimp only
    split
    · exact isSteady_ok _
    · exact isSteady_error rfl

theorem isSteady_ofAsset (x : Except AssetError α) : IsSteady (ofAsset x) := by
  cases x with
  | error e => exact isSteady_error rfl
  | ok a => exact isSteady_ok a

theorem isSteady_buildInteger (c : Column) (least greatest : Int64) :
    IsSteady (buildInteger c least greatest) := by
  exact (isSteady_listed ..).bind fun values => (isSteady_intBound ..).bind fun min =>
    (isSteady_intBound ..).bind fun max => (isSteady_ok _).guard rfl

theorem isSteady_buildFloat (c : Column) : IsSteady (buildFloat c) := by
  exact (isSteady_listed ..).bind fun values => (isSteady_doubleBound ..).bind fun min =>
    (isSteady_doubleBound ..).bind fun max => (isSteady_ok _).guard rfl

theorem isSteady_buildDate (c : Column) (asText : Bool) : IsSteady (buildDate c asText) := by
  refine (isSteady_listed ..).bind fun values => (isSteady_dateBound ..).bind fun min =>
    (isSteady_dateBound ..).bind fun max => IsSteady.guard ?_ rfl
  split
  · dsimp only
    split
    · exact isSteady_ok _
    · exact isSteady_error rfl
  · exact isSteady_ok _

theorem isSteady_buildBirthdate (c : Column) : IsSteady (buildBirthdate c) := by
  exact (isSteady_listed ..).bind fun values => (isSteady_dateBound ..).bind fun min =>
    (isSteady_dateBound ..).bind fun max => (isSteady_ok _).guard rfl

theorem isSteady_buildCountry (c : Column) (assets : AssetSource) :
    IsSteady (buildCountry c assets) := by
  refine (isSteady_listed ..).bind fun values => ?_
  split
  · exact (isSteady_ofAsset _).bind fun cities => isSteady_ok _
  · exact isSteady_ok _

theorem isSteady_buildCsv (c : Column) (assets : AssetSource) : IsSteady (buildCsv c assets) := by
  unfold buildCsv
  split
  · exact isSteady_error rfl
  · split
    · exact isSteady_ok _
    · exact isSteady_error rfl

theorem isSteady_build {c : Column} (h : c.kind ≠ .stringRegex) (assets : AssetSource) :
    IsSteady (build c assets) := by
  unfold build
  cases hkind : c.kind
  case stringRegex => exact absurd hkind h
  case integer | long => exact isSteady_buildInteger ..
  case float => exact isSteady_buildFloat c
  case incrementInteger | incrementLong =>
    exact (isSteady_intBound ..).bind fun start => isSteady_ok _
  case date | dateAsString => exact isSteady_buildDate ..
  case birthdate => exact isSteady_buildBirthdate c
  case uuid => exact isSteady_ok _
  case name | city => exact (isSteady_ofAsset _).bind fun entries => isSteady_ok _
  case country => exact isSteady_buildCountry ..
  case email | phone =>
    exact (isSteady_listed ..).bind fun values => (isSteady_ofAsset _).bind fun entries =>
      isSteady_ok _
  case csv => exact isSteady_buildCsv ..
  all_goals exact (isSteady_listed ..).bind fun values => isSteady_ok _

/-! ## The crash -/

theorem crash?_noRoom : DomainError.noRoom.crash? = some ⟨some "capacity overflow"⟩ := rfl

theorem ofText?_empty : Pattern.ofText? "" = some ⟨[], []⟩ := by decide +kernel

/-- A domain crashes exactly if its column overflows. -/
theorem exists_build_crash_iff {c : Column} {assets : AssetSource} {crash : Crash} :
    (∃ e, build c assets = .error e ∧ e.crash? = some crash) ↔
      c.Overflows ∧ crash = ⟨some "capacity overflow"⟩ := by
  rw [Column.overflows_iff]
  by_cases hkind : c.kind = .stringRegex
  · have hbuild : build c assets = buildPattern c := by rw [build, hkind]
    rw [hbuild, buildPattern]
    cases hpattern : c.pattern? with
    | some source =>
      dsimp only
      rw [patternOf]
      cases hslots : Pattern.ofText? source with
      | some p => simp [hslots]
      | none =>
        constructor
        · rintro ⟨e, he, hcrash⟩
          cases he
          rw [crash?_noRoom] at hcrash
          exact ⟨⟨hkind, source, rfl, hslots⟩, (Option.some.inj hcrash).symm⟩
        · rintro ⟨-, rfl⟩
          exact ⟨_, rfl, crash?_noRoom⟩
    | none =>
      cases c.derivation? with
      | some d => simp [patternOf, ofText?_empty]
      | none => simp [DomainError.crash?]
  · constructor
    · rintro ⟨e, he, hcrash⟩
      rw [(isSteady_build hkind assets).crash? e he] at hcrash
      cases hcrash
    · rintro ⟨⟨hstring, -⟩, -⟩
      exact absurd hstring hkind

end Domain

/-- A column that is made ready crashes exactly if it overflows. -/
theorem Field.exists_build_crash_iff {c : Column} {assets : AssetSource} {crash : Crash} :
    (∃ e, build c assets = .error e ∧ e.crash? = some crash) ↔
      c.Overflows ∧ crash = ⟨some "capacity overflow"⟩ := by
  rw [← @Domain.exists_build_crash_iff c assets, build]
  cases Domain.build c assets with
  | error e => simp [FieldError.crash?]
  | ok domain => cases computationOf c <;> simp [FieldError.crash?]

end SynthTable
