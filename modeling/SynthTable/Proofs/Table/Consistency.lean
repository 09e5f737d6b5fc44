import SynthTable.Proofs.Computation.Reads
import SynthTable.Proofs.Table.Filling
import SynthTable.Proofs.Table.Survival
import SynthTable.Random.WordCycle

/-!
# Complete rows are consistent

The computed cells of a complete row are those that the row itself gives: computing a field once
more, on the complete row, has the outcome that its cell holds, although the field saw only the
cells before its own. And no field ever missed the value of a column (`generateRow_consistent`).
-/

namespace SynthTable

/-- The conditions of each derivation read only columns that the derivation says it must read. -/
def Schema.ConditionsCovered (s : Schema) : Prop :=
  ∀ c ∈ s.columns, ∀ d, c.derivation? = some d →
    ConditionsWithin d.requiredReferences d.conditionTexts

theorem Domain.exists_cast_of_error {domain : Domain} {text : String} {e : CellError}
    (h : domain.cast text = .error e) : ∃ text kind, e = .cast text kind := by
  have hcast : ∀ {α : Type} {kind : String} {toValue : α → Value} {a? : Option α},
      castTo kind toValue text a? = .error e → ∃ text kind, e = .cast text kind := by
    intro α kind toValue a? h
    cases a? with
    | some a => cases h
    | none =>
      cases h
      exact ⟨_, _, rfl⟩
  unfold Domain.cast at h
  split at h <;> first | exact hcast h | cases h

namespace Field

variable {f : Field} {row row' : Row}

theorem exists_cast_of_error {text : String} {e : CellError} (h : f.cast text = .error e) :
    ∃ text kind, e = .cast text kind := by
  unfold Field.cast at h
  split at h
  · split at h
    · cases h
    · exact Domain.exists_cast_of_error h
  · cases h

/-- The computation of a computed field and what it reads. -/
theorem computation_of_build {c : Column} {assets : AssetSource} (h : build c assets = .ok f)
    (hcomputed : f.isComputed = true)
    (hcovered : ∀ d, c.derivation? = some d →
      ConditionsWithin d.requiredReferences d.conditionTexts) :
    ∃ kind domain computation d, f.content = .declared kind domain (some computation) ∧
      c.derivation? = some d ∧ (∀ n ∈ computation.readNames true, n ∈ d.references) ∧
      ∀ n ∈ computation.readNames false, n ∈ d.requiredReferences := by
  obtain ⟨domain, computation?, rfl, -, hread⟩ := eq_of_build h
  cases computation? with
  | none => cases hcomputed
  | some computation =>
    obtain ⟨d, hd, hofDerivation⟩ := derivation_of_computationOf hread
    refine ⟨_, _, _, d, rfl, hd, fun n hn => ?_, fun n hn => ?_⟩
    · rcases Computation.readNames_of_derivation d hofDerivation (hcovered d hd) hn with hn | hn
      · exact Derivation.requiredReferences_subset hn
      · exact Names.mem_ofList.2 hn
    · exact (Computation.readNames_of_derivation d hofDerivation (hcovered d hd) hn).elim id
        Names.mem_ofList.2

theorem compute_congr {kind : ColumnKind} {domain : Domain} {computation : Computation}
    (hcontent : f.content = .declared kind domain (some computation))
    (h : Row.AgreeOn (computation.readNames true) row row') : f.compute row = f.compute row' := by
  rw [compute, compute, hcontent]
  dsimp only
  rw [Computation.evaluate_congr computation h]

theorem missing_of_compute {kind : ColumnKind} {domain : Domain} {computation : Computation}
    (hcontent : f.content = .declared kind domain (some computation)) {n : String}
    (h : f.compute row = .ok (.error (.missingReference n))) :
    n ∈ computation.readNames false ∧ row.get? n = none := by
  rw [compute, hcontent] at h
  dsimp only at h
  split at h
  · have hcast := Except.ok.inj h
    obtain ⟨_, _, heq⟩ := exists_cast_of_error hcast
    cases heq
  · next heval =>
    cases h
    exact Computation.missing_of_evaluate computation heval

/-- Only a computed field has errors. -/
theorem isComputed_of_error {σ : Type} [RandomSource σ] {w w' : World σ} {e : CellError}
    (h : f.valueFor row w = (.ok (.error e), w')) : f.isComputed = true := by
  unfold valueFor at h
  split at h
  · next hcomputed => exact hcomputed
  · split at h <;> cases h

theorem compute_of_valueFor {σ : Type} [RandomSource σ] {w w' : World σ}
    {outcome : Except CellError Value} (h : f.valueFor row w = (.ok outcome, w'))
    (hcomputed : f.isComputed = true) : f.compute row = .ok outcome := by
  rw [valueFor, if_pos hcomputed] at h
  exact congrArg Prod.fst h

end Field

namespace Plan

section

variable {s : Schema} {assets : AssetSource} {p : Plan} {result mid : RowResult}
  {before after : List Field} {f : Field} {outcome : Except CellError Value}

/-- A computed field sees in its moment all that it reads of the complete row. -/
theorem Moment.compute_eq (m : Moment p result mid before f outcome) (h : build s assets = .ok p)
    (hcovered : s.ConditionsCovered) (hfields : p.fields = before ++ f :: after)
    (hcomputed : f.isComputed = true) : f.compute result.row = f.compute mid.row := by
  obtain ⟨c, hc, hbuild, hreads, -⟩ := reads_before h hfields
  obtain ⟨kind, domain, computation, d, hcontent, hd, hnames, -⟩ :=
    Field.computation_of_build hbuild hcomputed (hcovered c hc)
  refine Field.compute_congr hcontent fun n hn => (m.get?_eq hfields fun hlater => ?_).symm
  have hread : n ∈ c.references := by
    rw [Column.references_of_derivation hd]
    exact hnames n hn
  have hfield : n ∈ p.fields.map (·.name) := by
    rw [hfields, List.map_append]
    exact List.mem_append_right _ hlater
  exact not_mem_later h hfields (hreads n hread hfield) hlater

/-- No value is missing that a computed field reads. -/
theorem Moment.compute_ne_missing (m : Moment p result mid before f outcome)
    (h : build s assets = .ok p) (hcovered : s.ConditionsCovered)
    (hfields : p.fields = before ++ f :: after) (hcomputed : f.isComputed = true) (n : String) :
    f.compute mid.row ≠ .ok (.error (.missingReference n)) := by
  intro hmissing
  obtain ⟨c, hc, hbuild, -, hrequired⟩ := reads_before h hfields
  obtain ⟨kind, domain, computation, d, hcontent, hd, -, hnames⟩ :=
    Field.computation_of_build hbuild hcomputed (hcovered c hc)
  obtain ⟨hn, hnone⟩ := Field.missing_of_compute hcontent hmissing
  have hbefore := hrequired d hd n (hnames n hn)
  have hsome := m.get?_isSome hfields hbefore (not_mem_later h hfields hbefore)
  rw [hnone] at hsome
  cases hsome

end

/-- In a row of a plan no column was missed, and each computed field has, on the complete row, the
outcome that its cell holds: the value stored, or the error reported with no value stored. -/
theorem generateRow_consistent {s : Schema} {assets : AssetSource} {p : Plan}
    (h : build s assets = .ok p) (hcovered : s.ConditionsCovered) {σ : Type} [RandomSource σ]
    {w w' : World σ} {result : RowResult} (hrow : p.generateRow w = (.ok result, w')) :
    (∀ failure ∈ result.errors, ∀ n, failure.2 ≠ .missingReference n) ∧
    ∀ f ∈ p.fields, f.isComputed = true → ∃ outcome, f.compute result.row = .ok outcome ∧
      result.row.get? f.name = some (stored outcome) ∧
      ∀ e, (f.name, e) ∈ result.errors ↔ outcome = .error e := by
  have hnodup := nodup_fields h
  refine ⟨?_, ?_⟩
  · intro failure hmem n hmissing
    obtain ⟨before, f, after, mid, v, v', hfields, hvalue, -, m⟩ := moment_of_error hrow hmem
    have hcomputed := Field.isComputed_of_error hvalue
    refine m.compute_ne_missing h hcovered hfields hcomputed n ?_
    rw [Field.compute_of_valueFor hvalue hcomputed, hmissing]
  · intro f hf hcomputed
    obtain ⟨before, after, hfields⟩ := List.append_of_mem hf
    obtain ⟨mid, outcome, v, v', hvalue, m⟩ := moment_of_generateRow hfields hrow
    have hcompute : f.compute result.row = .ok outcome := by
      rw [m.compute_eq h hcovered hfields hcomputed, Field.compute_of_valueFor hvalue hcomputed]
    have hlater : f.name ∉ after.map (·.name) := by
      rw [hfields, List.map_append, List.nodup_append] at hnodup
      exact (List.nodup_cons.1 hnodup.2.1).1
    refine ⟨outcome, hcompute, m.get?_self hfields hlater, fun e => ⟨fun hmem => ?_, m.error_mem e⟩⟩
    -- the error of this name is that of this field, as no other field has the name
    obtain ⟨before', g, after', mid', u, u', hfields', hvalue', hname, m'⟩ :=
      moment_of_error hrow hmem
    have hg : g ∈ p.fields := by
      rw [hfields']
      simp
    obtain rfl := List.inj_on_of_nodup_map hnodup hf hg hname
    have hcompute' : f.compute result.row = .ok (.error e) := by
      rw [m'.compute_eq h hcovered hfields' hcomputed, Field.compute_of_valueFor hvalue' hcomputed]
    rw [hcompute] at hcompute'
    exact Except.ok.inj hcompute'

/-- A drawn number, a condition on it that leads to a template with an unknown name, and a copy of
the text into a column of numbers, which fails. -/
def copies : Schema :=
  ⟨Schema.defaultVersion, none,
    [{ Column.plain "a" .integer with min? := some (.integer 2), max? := some (.integer 2) },
      { Column.plain "b" .string with
        derivation? := some (.conditional [.mk "$a > 1" (.derived (.injection "${a} ${z}"))] none) },
      { Column.plain "c" .integer with derivation? := some (.injection "${b}") }]⟩

theorem copies_conditionsCovered : copies.ConditionsCovered := by
  intro c hc d hd text htext condition hcondition n hn
  have hconditions : ∀ c ∈ copies.columns, ∀ d ∈ c.derivation?, ∀ text ∈ d.conditionTexts,
      ∀ n ∈ ((Condition.ofText text).toOption.map (·.columns)).getD [],
        n ∈ d.requiredReferences := by
    decide +kernel
  refine hconditions c hc d hd text htext n ?_
  rw [hcondition]
  exact hn

/-- One word for every draw, and no counters. -/
def sevens : World Random.WordCycle := ⟨.ofList [7], ⟨[], ⟨fun _ => .midnight .epoch, 0⟩⟩⟩

theorem generateRow_consistent_copies :
    ∃ p result w', build copies noFiles = .ok p ∧ copies.ConditionsCovered ∧
      p.generateRow sevens = (.ok result, w') ∧
      result.errors = [("c", .cast "2 ${z}" "integer")] ∧
      ∃ f ∈ p.fields, f.name = "c" ∧
        f.compute result.row = .ok (.error (.cast "2 ${z}" "integer")) := by
  have hrow : (build copies noFiles).toOption.map
      (fun p => (p.fields.map fun f => (f.name, f.isComputed),
        (p.generateRow sevens).1.toOption.map (·.errors))) =
      some ([("a", false), ("b", true), ("c", true)],
        some [("c", .cast "2 ${z}" "integer")]) := by
    decide +kernel
  cases hbuild : build copies noFiles with
  | error fault => simp [hbuild, Except.toOption] at hrow
  | ok p =>
    simp only [hbuild, Except.toOption, Option.map_some, Option.some.injEq, Prod.mk.injEq] at hrow
    obtain ⟨hfields, herrors⟩ := hrow
    cases hgenerate : p.generateRow sevens with
    | mk produced w' =>
      cases produced with
      | error crash => simp [hgenerate] at herrors
      | ok result =>
        have hresult : result.errors = [("c", .cast "2 ${z}" "integer")] := by
          simpa [hgenerate] using herrors
        have hlast : ("c", true) ∈ p.fields.map fun f => (f.name, f.isComputed) := by
          rw [hfields]
          simp
        obtain ⟨f, hf, hname⟩ := List.mem_map.1 hlast
        obtain ⟨outcome, hcompute, -, hiff⟩ :=
          (generateRow_consistent hbuild copies_conditionsCovered hgenerate).2 f hf
            (Prod.mk.inj hname).2
        have hc : f.name = "c" := (Prod.mk.inj hname).1
        refine ⟨p, result, w', rfl, copies_conditionsCovered, hgenerate, hresult, f, hf, hc, ?_⟩
        rw [hcompute, (hiff _).1 (by rw [hresult, hc]; exact List.mem_cons_self)]

end Plan

end SynthTable
