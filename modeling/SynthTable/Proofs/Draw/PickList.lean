import SynthTable.Draw.PickList
import SynthTable.Proofs.Random.Range

/-!
# Pick lists draw an entry

Each end of a pick list is positive and is a number of 64 bits, so every position below the length
holds an entry (`isSome_get?`) and a list with entries draws one of them (`exists_draw`). So does a
list made of weighted entries, or of entries that are to be drawn alike (`exists_draw_ofCounts`,
`exists_draw_uniform`).
-/

namespace SynthTable.PickList

variable {α : Type}

/-! ## The ends of the repetitions -/

theorem ends_endsFrom {weighted : List (α × Nat)} (hpositive : ∀ e ∈ weighted, 0 < e.2)
    (start : Nat) : ∀ e ∈ endsFrom start weighted, 0 < e.2 ∧ e.2 ≤ longest := by
  induction weighted generalizing start with
  | nil => simp [endsFrom]
  | cons e rest ih =>
    intro e' he'
    rw [endsFrom, List.mem_cons] at he'
    rcases he' with rfl | he'
    · have hweight := hpositive e List.mem_cons_self
      have hlongest : 0 < longest := by decide
      exact ⟨by simp only; omega, Nat.min_le_right _ _⟩
    · exact ih (fun e he => hpositive e (List.mem_cons_of_mem _ he)) _ e' he'

theorem length_endsFrom (start : Nat) (weighted : List (α × Nat)) :
    (endsFrom start weighted).length = weighted.length := by
  induction weighted generalizing start with
  | nil => rfl
  | cons e rest ih => rw [endsFrom, List.length_cons, List.length_cons, ih]

/-- The length of a list with entries is the last end. -/
theorem exists_end_eq_length {list : PickList α} (h : list.isEmpty = false) :
    ∃ e ∈ list.entries, e.2 = list.length := by
  have hne : list.entries ≠ [] := by simpa [isEmpty] using h
  refine ⟨list.entries.getLast hne, List.getLast_mem hne, ?_⟩
  rw [length, List.getLast?_eq_some_getLast hne]

/-- Every position of the long list holds an entry. -/
theorem isSome_get? {list : PickList α} {position : Nat} (h : position < list.length) :
    (list.get? position).isSome := by
  have hne : list.isEmpty = false := by
    cases hempty : list.isEmpty with
    | false => rfl
    | true =>
      have hnil : list.entries = [] := by simpa [isEmpty] using hempty
      rw [length, hnil] at h
      cases h
  obtain ⟨e, he, hlast⟩ := exists_end_eq_length hne
  rw [get?, Option.isSome_map, List.find?_isSome]
  exact ⟨e, he, by simpa [hlast] using h⟩

/-! ## Drawing -/

variable {σ : Type} [RandomSource σ]

/-- A list with entries draws one of them, whatever the words are. -/
theorem isSome_draw {list : PickList α} (hends : ∀ e ∈ list.entries, 0 < e.2 ∧ e.2 ≤ longest)
    (hne : list.isEmpty = false) (s : σ) : ((list.draw s).1).isSome := by
  obtain ⟨e, he, hlast⟩ := exists_end_eq_length hne
  have hlength := (hends e he).1
  rw [hlast] at hlength
  have hposition := Random.below64_lt hlength s
  rcases hdraw : Random.below64 list.length s with ⟨position, s'⟩
  rw [hdraw] at hposition
  simp only [draw, hne, Bool.false_eq_true, if_false, hdraw]
  exact isSome_get? hposition

/-- What is drawn is an entry of the list. -/
theorem mem_entries_of_draw {list : PickList α} {s : σ} {a : α} (h : (list.draw s).1 = some a) :
    ∃ e ∈ list.entries, e.1 = a := by
  cases hempty : list.isEmpty with
  | true => simp [draw, hempty] at h
  | false =>
    rcases hdraw : Random.below64 list.length s with ⟨position, s'⟩
    simp only [draw, hempty, Bool.false_eq_true, if_false, hdraw, get?] at h
    obtain ⟨e, hfind, rfl⟩ := Option.map_eq_some_iff.1 h
    exact ⟨e, List.mem_of_find?_eq_some hfind, rfl⟩

/-- A list with entries draws one of them, whatever the words are. -/
theorem exists_draw {list : PickList α} (hends : ∀ e ∈ list.entries, 0 < e.2 ∧ e.2 ≤ longest)
    (hne : list.isEmpty = false) (s : σ) : ∃ e ∈ list.entries, (list.draw s).1 = some e.1 := by
  obtain ⟨a, ha⟩ := Option.isSome_iff_exists.1 (isSome_draw hends hne s)
  obtain ⟨e, he, rfl⟩ := mem_entries_of_draw ha
  exact ⟨e, he, ha⟩

/-! ## Weights as they are declared -/

theorem entries_endsFrom (start : Nat) (weighted : List (α × Nat)) :
    (endsFrom start weighted).map (·.1) = weighted.map (·.1) := by
  induction weighted generalizing start with
  | nil => rfl
  | cons e rest ih => rw [endsFrom, List.map_cons, List.map_cons, ih]

/-- The entries of an even list are those it was made of. -/
theorem mem_of_mem_uniform {entries : List α} {e : α × Nat} (h : e ∈ (uniform entries).entries) :
    e.1 ∈ entries := by
  have hmem : e.1 ∈ (uniform entries).entries.map (·.1) := List.mem_map_of_mem h
  have hentries : (uniform entries).entries.map (·.1) = entries := by
    rw [uniform, ofCounts, entries_endsFrom, List.map_map]
    exact List.map_id entries
  rwa [hentries] at hmem

/-- A list made of weighted entries draws one of these. -/
theorem exists_draw_ofCounts {weighted : List (α × Nat)} (hpositive : ∀ e ∈ weighted, 0 < e.2)
    (hne : weighted ≠ []) (s : σ) : ∃ e ∈ weighted, ((ofCounts weighted).draw s).1 = some e.1 := by
  have hsome : (ofCounts weighted).isEmpty = false := by
    rw [isEmpty, ofCounts, List.isEmpty_eq_false_iff, ← List.length_pos_iff, length_endsFrom]
    exact List.length_pos_iff.2 hne
  obtain ⟨e, he, hdraw⟩ := exists_draw (ends_endsFrom hpositive 0) hsome s
  have hmem : e.1 ∈ (ofCounts weighted).entries.map (·.1) := List.mem_map_of_mem he
  rw [ofCounts, entries_endsFrom] at hmem
  obtain ⟨d, hd, hsame⟩ := List.mem_map.1 hmem
  exact ⟨d, hd, hsame ▸ hdraw⟩

theorem exists_draw_uniform {entries : List α} (hne : entries ≠ []) (s : σ) :
    ∃ a ∈ entries, ((uniform entries).draw s).1 = some a := by
  have hpositive : ∀ e ∈ entries.map (·, 1), 0 < e.2 := by simp
  obtain ⟨e, he, hdraw⟩ := exists_draw_ofCounts hpositive (by simpa using hne) s
  obtain ⟨a, ha, rfl⟩ := List.mem_map.1 he
  exact ⟨a, ha, hdraw⟩

theorem ends_ofWeights (weighted : List (α × Int64)) :
    ∀ e ∈ (ofWeights weighted).entries, 0 < e.2 ∧ e.2 ≤ longest := by
  refine ends_endsFrom ?_ 0
  intro e he
  obtain ⟨⟨entry, weight⟩, -, hkept⟩ := List.mem_filterMap.1 he
  by_cases hweight : 0 < weight
  · simp only [hweight, if_true, Option.some.injEq] at hkept
    rw [← hkept]
    have hpositive : 0 < weight.toInt := by simpa using Int64.lt_iff_toInt_lt.1 hweight
    simp only
    omega
  · simp [hweight] at hkept

/-- The list of weighted entries is empty if no weight is positive. -/
theorem isEmpty_ofWeights (weighted : List (α × Int64)) :
    (ofWeights weighted).isEmpty = !weighted.any fun e => decide (0 < e.2) := by
  rw [Bool.eq_iff_iff]
  rw [isEmpty, ofWeights, ofCounts, List.isEmpty_iff, ← List.length_eq_zero_iff, length_endsFrom,
    List.length_eq_zero_iff, List.filterMap_eq_nil_iff]
  simp

end SynthTable.PickList
