import SynthTable.Proofs.Fallible
import SynthTable.Table.Field

/-!
# Making columns ready

A column is made ready in two steps, its domain and its computation, and what the field is follows
from what these gave (`Field.eq_of_build`).
-/

namespace SynthTable.Field

theorem eq_of_build {c : Column} {assets : AssetSource} {f : Field}
    (h : build c assets = .ok f) :
    ∃ domain computation?, f = ⟨c.name, c.ghost, .declared c.kind domain computation?⟩ ∧
      Domain.build c assets = .ok domain ∧ computationOf c = .ok computation? := by
  unfold build at h
  split at h
  · cases h
  · next domain hdomain =>
    split at h
    · cases h
    · next computation? hcomputation =>
      cases h
      exact ⟨domain, computation?, rfl, hdomain, hcomputation⟩

theorem name_of_build {c : Column} {assets : AssetSource} {f : Field}
    (h : build c assets = .ok f) : f.name = c.name := by
  obtain ⟨domain, computation?, rfl, -, -⟩ := eq_of_build h
  rfl

/-- The field of a column is computed exactly if the column is. -/
theorem isComputed_of_build {c : Column} {assets : AssetSource} {f : Field}
    (h : build c assets = .ok f) : f.isComputed = c.isComputed := by
  obtain ⟨domain, computation?, rfl, -, hcomputation⟩ := eq_of_build h
  unfold computationOf at hcomputation
  split at hcomputation
  · next hnone =>
    cases hcomputation
    rw [Column.isComputed, hnone]
    rfl
  · next d hd =>
    obtain ⟨computation, -, rfl⟩ := exists_ok_of_map hcomputation
    rw [Column.isComputed, hd]
    rfl

theorem derivation_of_computationOf {c : Column} {computation : Computation}
    (h : computationOf c = .ok (some computation)) :
    ∃ d, c.derivation? = some d ∧ Computation.ofDerivation d = .ok computation := by
  unfold computationOf at h
  split at h
  · cases h
  · next d hd =>
    obtain ⟨read, hread, hsome⟩ := exists_ok_of_map h
    cases hsome
    exact ⟨d, hd, hread⟩

/-- A column without derivation is ready as soon as its domain is. -/
theorem build_eq_ok_iff_of_drawn {c : Column} {assets : AssetSource} {f : Field}
    (hdrawn : c.derivation? = none) :
    build c assets = .ok f ↔ ∃ domain, Domain.build c assets = .ok domain ∧
      f = ⟨c.name, c.ghost, .declared c.kind domain none⟩ := by
  rw [build, computationOf, hdrawn]
  cases Domain.build c assets with
  | error e => simp
  | ok domain => simp [eq_comm]

/-- The value of a field that is not computed is drawn. -/
theorem valueFor_fst_of_drawn {σ : Type} [RandomSource σ] {f : Field} {row : Row} {w : World σ}
    {v : Value} (hdrawn : f.isComputed = false) (hv : (f.generate w).1 = .ok v) :
    (f.valueFor row w).1 = .ok (.ok v) := by
  rcases hgenerate : f.generate w with ⟨result, w'⟩
  obtain rfl : result = .ok v := by rw [← hv, hgenerate]
  simp [valueFor, hdrawn, hgenerate]

end SynthTable.Field
