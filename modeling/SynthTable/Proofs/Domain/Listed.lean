import SynthTable.Domain.Build
import SynthTable.Proofs.Draw.PickList
import SynthTable.Proofs.Fallible

/-!
# Listed values

The listed values of a column are read one by one, each with its weight, and one that cannot be read
makes them all fail (`Domain.readValues_eq_ok_iff`, `Domain.exists_listed_iff`). Those of positive
weight are the entries of a pick list. So the list is empty just if the column draws none of its
values (`Domain.isEmpty_listed_iff`); otherwise each draw is one of them
(`Domain.exists_draw_listed`).
-/

namespace SynthTable

/-- No declared value has a positive weight, so none is ever drawn. -/
def Column.DrawsNone (c : Column) : Prop := ∀ e ∈ c.values, ¬ 0 < e.2

instance (c : Column) : Decidable c.DrawsNone :=
  inferInstanceAs (Decidable (∀ e ∈ c.values, ¬ 0 < e.2))

namespace Domain

variable {α : Type} {c : Column} {what : String} {read : String → Option α} {values : PickList α}

/-! ## Reading -/

/-- Values are read in order and keep their weights. -/
theorem readValues_eq_ok_iff {declared : NameMap Int64} {weighted : List (α × Int64)} :
    readValues what read declared = .ok weighted ↔
      List.Forall₂ (fun d e => read d.1 = some e.1 ∧ d.2 = e.2) declared weighted := by
  induction declared generalizing weighted with
  | nil => simp [readValues, eq_comm]
  | cons first rest ih =>
    rw [readValues, List.forall₂_cons_left_iff]
    constructor
    · intro h
      split at h
      · cases h
      · next value hvalue =>
        split at h
        · cases h
        · next later hlater =>
          cases h
          exact ⟨_, _, ⟨hvalue, rfl⟩, ih.1 hlater, rfl⟩
    · rintro ⟨⟨a, weight⟩, later, ⟨hread, rfl⟩, hlater, rfl⟩
      simp [hread, ih.2 hlater]

theorem exists_readValues_iff (what : String) {declared : NameMap Int64} :
    (∃ weighted, readValues what read declared = .ok weighted) ↔
      ∀ e ∈ declared, (read e.1).isSome := by
  induction declared with
  | nil => simp [readValues]
  | cons entry rest ih =>
    rw [List.forall_mem_cons, ← ih, readValues]
    cases read entry.1 with
    | none => simp
    | some value =>
      cases readValues what read rest <;> simp

/-- A pick list is built of values that can all be read, whatever their weights are. -/
theorem exists_listed_iff (what : String) :
    (∃ values, listed c what read = .ok values) ↔ ∀ e ∈ c.values, (read e.1).isSome := by
  rw [← exists_readValues_iff what]
  constructor
  · rintro ⟨values, h⟩
    obtain ⟨weighted, hread, -⟩ := exists_ok_of_map h
    exact ⟨weighted, hread⟩
  · rintro ⟨weighted, hread⟩
    exact ⟨.ofWeights weighted, by rw [listed, hread]; rfl⟩

/-! ## The pick list -/

/-- The pick list of a column is empty if no declared weight is positive. -/
theorem isEmpty_listed (h : listed c what read = .ok values) :
    values.isEmpty = !c.values.any fun (_, weight) => decide (0 < weight) := by
  obtain ⟨weighted, hread, rfl⟩ := exists_ok_of_map h
  have hweights : c.values.map (·.2) = weighted.map (·.2) := by
    rw [← List.forall₂_eq_eq_eq, List.forall₂_map_left_iff, List.forall₂_map_right_iff]
    exact (readValues_eq_ok_iff.1 hread).imp fun _ _ he => he.2
  have hany := congrArg (List.any · fun weight => decide (0 < weight)) hweights
  simp only [List.any_map] at hany
  rw [PickList.isEmpty_ofWeights]
  exact congrArg not hany.symm

/-- The pick list of a column is empty just if the column draws none of its values. -/
theorem isEmpty_listed_iff (h : listed c what read = .ok values) :
    values.isEmpty = true ↔ c.DrawsNone := by
  simp [isEmpty_listed h, Column.DrawsNone]

theorem isEmpty_listed_of_drawsNone (h : listed c what read = .ok values) (hnone : c.DrawsNone) :
    values.isEmpty = true :=
  (isEmpty_listed_iff h).2 hnone

theorem ends_listed (h : listed c what read = .ok values) :
    ∀ e ∈ values.entries, 0 < e.2 ∧ e.2 ≤ PickList.longest := by
  obtain ⟨weighted, -, rfl⟩ := exists_ok_of_map h
  exact PickList.ends_ofWeights weighted

/-- The entries of the pick list of a column are its values of positive weight. -/
theorem exists_of_mem_listed (h : listed c what read = .ok values) {e : α × Nat}
    (he : e ∈ values.entries) :
    ∃ raw weight, (raw, weight) ∈ c.values ∧ 0 < weight ∧ read raw = some e.1 := by
  obtain ⟨weighted, hread, rfl⟩ := exists_ok_of_map h
  have hentry : e.1 ∈ (PickList.ofWeights weighted).entries.map (·.1) := List.mem_map_of_mem he
  rw [PickList.ofWeights, PickList.ofCounts, PickList.entries_endsFrom] at hentry
  obtain ⟨kept, hkept, hfirst⟩ := List.mem_map.1 hentry
  obtain ⟨⟨a, weight⟩, hmem, hsome⟩ := List.mem_filterMap.1 hkept
  obtain ⟨hpositive, hpair⟩ := Option.ite_none_right_eq_some.1 hsome
  cases hpair
  obtain ⟨⟨raw, weight⟩, hraw, hvalue, rfl⟩ :=
    exists_of_forall₂ (readValues_eq_ok_iff.1 hread).flip hmem
  exact ⟨raw, weight, hraw, hpositive, hfirst ▸ hvalue⟩

/-! ## Draws -/

section

variable {σ : Type} [RandomSource σ]

/-- An empty list leaves the words to what draws in its place. -/
theorem draw_of_isEmpty (h : values.isEmpty = true) (s : σ) : values.draw s = (none, s) := by
  simp [PickList.draw, h]

/-- Where a value has a positive weight, one of these values is drawn. -/
theorem exists_draw_listed (h : listed c what read = .ok values) (hsome : ¬ c.DrawsNone) (s : σ) :
    ∃ raw weight a, (raw, weight) ∈ c.values ∧ 0 < weight ∧ read raw = some a ∧
      (values.draw s).1 = some a := by
  have hne : values.isEmpty = false := by
    rw [← Bool.not_eq_true, isEmpty_listed_iff h]
    exact hsome
  obtain ⟨e, he, hdraw⟩ := PickList.exists_draw (ends_listed h) hne s
  obtain ⟨raw, weight, hmem, hpositive, hread⟩ := exists_of_mem_listed h he
  exact ⟨raw, weight, e.1, hmem, hpositive, hread, hdraw⟩

end

end Domain

end SynthTable
