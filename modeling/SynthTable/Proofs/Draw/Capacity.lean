import SynthTable.Proofs.Draw.Repetition

/-!
# Pick lists that are full

The ends of the repetitions stop at the largest number of 64 bits. To stop at each entry is the same
as to cut off the sum of the weights so far once (`getElem?_endsFrom`, `getElem?_weightsFrom`), so
an entry has positions of its own exactly if the weights before it leave room for one
(`reaches_ofCounts_iff`), and is reported with its own weight exactly if they leave room for all of
it (`weight_ofCounts_iff`).

The main result (`cutsOff_of_weights`) says so of weights and of magnitudes: all entries are kept
with their weights exactly if the weights add up to a number of 64 bits. Even a full list draws some
entry (`exists_draw_byMagnitude`).
-/

namespace SynthTable.PickList

variable {α : Type}

/-- The number of the entry at a position of the long list. -/
def index? (list : PickList α) (position : Nat) : Option Nat :=
  list.entries.findIdx? fun (_, stop) => position < stop

/-- The entry of a number is found at a position of the list. -/
def Reaches (list : PickList α) (i : Nat) (entry : α) : Prop :=
  ∃ position < list.length, list.index? position = some i ∧ list.get? position = some entry

/-- Every entry is found at some position and is reported with the weight that it was added with. -/
structure Keeps (list : PickList α) (weighted : List (α × Nat)) : Prop where
  reaches : ∀ i entry weight, weighted[i]? = some (entry, weight) → list.Reaches i entry
  weights_eq : list.weights = weighted

/-- What becomes of each of the weighted entries that were added one after another. -/
structure CutsOff (list : PickList α) (weighted : List (α × Nat)) : Prop where
  reaches_iff : ∀ i entry weight, weighted[i]? = some (entry, weight) →
    (list.Reaches i entry ↔ weightSum (weighted.take i) < longest)
  weight_iff : ∀ i entry weight, weighted[i]? = some (entry, weight) →
    (list.weights[i]? = some (entry, weight) ↔ weightSum (weighted.take (i + 1)) ≤ longest)
  keeps_iff : list.Keeps weighted ↔ weightSum weighted ≤ longest

/-- The entries with the weights that they are added with: one more than the number of times that
the least magnitude goes into their own, as far as that is a number of 64 bits. -/
def added (magnitude : α → UInt64) (entries : List α) : List (α × Nat) :=
  entries.map fun e =>
    (e, min ((magnitude e).toNat / leastMagnitude magnitude entries + 1) longest)

variable {weighted : List (α × Nat)} {i : Nat} {entry : α} {weight : Nat}

/-! ## Sums of the first weights -/

theorem weightSum_append (front back : List (α × Nat)) :
    weightSum (front ++ back) = weightSum front + weightSum back := by
  rw [← length_longList, ← length_longList, ← length_longList, longList, List.flatMap_append,
    List.length_append]
  rfl

theorem weightSum_take_succ (h : weighted[i]? = some (entry, weight)) :
    weightSum (weighted.take (i + 1)) = weightSum (weighted.take i) + weight := by
  rw [List.take_add_one, h, weightSum_append]
  rfl

theorem weightSum_take_le (weighted : List (α × Nat)) {i j : Nat} (h : i ≤ j) :
    weightSum (weighted.take i) ≤ weightSum (weighted.take j) := by
  obtain ⟨more, hmore⟩ := List.take_prefix_take_left (l := weighted) h
  rw [← hmore, weightSum_append]
  exact Nat.le_add_right _ _

theorem weightSum_take_le_sum (h : weighted[i]? = some (entry, weight)) :
    weightSum (weighted.take (i + 1)) ≤ weightSum weighted := by
  have hle := weightSum_take_le weighted (Nat.succ_le_of_lt (List.getElem?_eq_some_iff.1 h).1)
  rwa [List.take_length] at hle

/-! ## Ends -/

/-- An end is the sum of the weights up to its entry, cut off. -/
theorem getElem?_endsFrom (start : Nat) (weighted : List (α × Nat)) (i : Nat) :
    (endsFrom start weighted)[i]? = weighted[i]?.map fun e =>
      (e.1, min (start + weightSum (weighted.take (i + 1))) longest) := by
  induction weighted generalizing start i with
  | nil => rfl
  | cons e rest ih =>
    obtain ⟨entry, weight⟩ := e
    cases i with
    | zero => simp [endsFrom]
    | succ i =>
      have hcut (s : Nat) : min (min (start + weight) longest + s) longest =
          min (start + (weight + s)) longest := by omega
      simp only [endsFrom, List.getElem?_cons_succ, ih, List.take_succ_cons, weightSum_cons, hcut]

/-- The weight reported is what there is room for. -/
theorem getElem?_weightsFrom (start : Nat) (weighted : List (α × Nat)) (i : Nat) :
    (weightsFrom (min start longest) (endsFrom start weighted))[i]? = weighted[i]?.map fun e =>
      (e.1, min e.2 (longest - (start + weightSum (weighted.take i)))) := by
  induction weighted generalizing start i with
  | nil => rfl
  | cons e rest ih =>
    obtain ⟨entry, weight⟩ := e
    rw [endsFrom, weightsFrom]
    cases i with
    | zero =>
      have hroom : min (start + weight) longest - min start longest =
          min weight (longest - start) := by omega
      simp [hroom]
    | succ i =>
      have hcut (s : Nat) : longest - (min (start + weight) longest + s) =
          longest - (start + (weight + s)) := by omega
      have hlater := ih (min (start + weight) longest) i
      rw [Nat.min_eq_left (Nat.min_le_right _ _)] at hlater
      simp only [List.getElem?_cons_succ, hlater, hcut, List.take_succ_cons, weightSum_cons]

theorem length_ofCounts_eq (weighted : List (α × Nat)) :
    (ofCounts weighted).length = min (weightSum weighted) longest := by
  have hlast : (endsFrom 0 weighted).getLast? = weighted[weighted.length - 1]?.map fun e =>
      (e.1, min (0 + weightSum (weighted.take (weighted.length - 1 + 1))) longest) := by
    rw [List.getLast?_eq_getElem?, length_endsFrom, getElem?_endsFrom]
  rw [length, ofCounts, hlast]
  cases weighted with
  | nil => rfl
  | cons e rest => simp

theorem get?_eq (list : PickList α) (position : Nat) :
    list.get? position = (list.index? position).bind fun i => list.entries[i]?.map (·.1) := by
  rw [get?, index?, List.find?_eq_bind_findIdx?_getElem?]
  cases list.entries.findIdx? fun (_, stop) => position < stop <;> rfl

/-- The number of the entry at a position is that of the first end beyond it. -/
theorem index?_ofCounts_iff {position : Nat} (hentry : weighted[i]? = some (entry, weight)) :
    (ofCounts weighted).index? position = some i ↔
      position < min (weightSum (weighted.take (i + 1))) longest ∧
        ∀ j < i, min (weightSum (weighted.take (j + 1))) longest ≤ position := by
  have hend {j : Nat} {e : α × Nat} (hj : (endsFrom 0 weighted)[j]? = some e) :
      e.2 = min (weightSum (weighted.take (j + 1))) longest := by
    rw [getElem?_endsFrom, Nat.zero_add] at hj
    obtain ⟨d, -, rfl⟩ := Option.map_eq_some_iff.1 hj
    rfl
  have hi : i < (endsFrom 0 weighted).length := by
    rw [length_endsFrom]
    exact (List.getElem?_eq_some_iff.1 hentry).1
  rw [index?, ofCounts, List.findIdx?_eq_some_iff_getElem, exists_prop_of_true hi]
  refine and_congr ?_ (forall₂_congr fun j hj => ?_)
  · rw [decide_eq_true_iff, hend (List.getElem?_eq_getElem hi)]
  · rw [decide_eq_true_iff, Nat.not_lt, hend (List.getElem?_eq_getElem (Nat.lt_trans hj hi))]

/-! ## Entries of positive weight -/

section

variable (hpositive : ∀ e ∈ weighted, 0 < e.2)
include hpositive

/-- An entry is found if the weights before it leave room for a position. -/
theorem reaches_ofCounts_iff (hentry : weighted[i]? = some (entry, weight)) :
    (ofCounts weighted).Reaches i entry ↔ weightSum (weighted.take i) < longest := by
  have hweight : 0 < weight := hpositive _ (List.mem_of_getElem? hentry)
  have hsum := weightSum_take_succ hentry
  constructor
  · rintro ⟨position, -, hindex, -⟩
    obtain ⟨hstop, hbefore⟩ := (index?_ofCounts_iff hentry).1 hindex
    cases i with
    | zero =>
      rw [List.take_zero, weightSum_nil]
      decide
    | succ i =>
      have hlast := hbefore i (Nat.lt_succ_self i)
      omega
  · intro hroom
    -- the first position that is no longer taken by the entries before
    have hindex : (ofCounts weighted).index? (weightSum (weighted.take i)) = some i := by
      refine (index?_ofCounts_iff hentry).2 ⟨by omega, fun j hj => ?_⟩
      exact Nat.le_trans (Nat.min_le_left _ _) (weightSum_take_le weighted hj)
    refine ⟨weightSum (weighted.take i), ?_, hindex, ?_⟩
    · have hall := weightSum_take_le_sum hentry
      rw [length_ofCounts_eq]
      omega
    · rw [get?_eq, hindex, Option.bind_some, ofCounts, getElem?_endsFrom, hentry]
      rfl

/-- An entry is reported with its weight if the weights before it leave room for it. -/
theorem weight_ofCounts_iff (hentry : weighted[i]? = some (entry, weight)) :
    (ofCounts weighted).weights[i]? = some (entry, weight) ↔
      weightSum (weighted.take (i + 1)) ≤ longest := by
  have hweight : 0 < weight := hpositive _ (List.mem_of_getElem? hentry)
  have hreported := getElem?_weightsFrom 0 weighted i
  rw [Nat.zero_min, hentry] at hreported
  rw [weights, ofCounts, hreported, weightSum_take_succ hentry]
  simp
  omega

theorem keeps_ofCounts_iff : (ofCounts weighted).Keeps weighted ↔ weightSum weighted ≤ longest := by
  constructor
  · intro hkeeps
    rcases List.eq_nil_or_concat weighted with rfl | ⟨front, ⟨entry, weight⟩, rfl⟩
    · exact Nat.zero_le _
    · -- the weight of the last entry is reported as it is only if all weights have room
      rw [List.concat_eq_append] at *
      have hlast : (front ++ [(entry, weight)])[front.length]? = some (entry, weight) := by simp
      have hroom := (weight_ofCounts_iff hpositive hlast).1 (by rw [hkeeps.weights_eq, hlast])
      rwa [List.take_of_length_le (by simp)] at hroom
  · intro hfits
    refine ⟨fun i entry weight hentry => (reaches_ofCounts_iff hpositive hentry).2 ?_,
      (refines_ofCounts hpositive hfits).weights_eq⟩
    have hweight : 0 < weight := hpositive _ (List.mem_of_getElem? hentry)
    have hall := weightSum_take_le_sum hentry
    rw [weightSum_take_succ hentry] at hall
    omega

theorem cutsOff_ofCounts : CutsOff (ofCounts weighted) weighted where
  reaches_iff _ _ _ hentry := reaches_ofCounts_iff hpositive hentry
  weight_iff _ _ _ hentry := weight_ofCounts_iff hpositive hentry
  keeps_iff := keeps_ofCounts_iff hpositive

end

/-! ## Pick lists of weights and of magnitudes -/

theorem pos_of_mem_added {magnitude : α → UInt64} {entries : List α} :
    ∀ e ∈ added magnitude entries, 0 < e.2 := by
  intro e he
  obtain ⟨d, -, rfl⟩ := List.mem_map.1 he
  exact Nat.lt_min.2 ⟨Nat.succ_pos _, by decide⟩

/-- Whatever the magnitudes are, some entry is drawn. -/
theorem exists_draw_byMagnitude {σ : Type} [RandomSource σ] (magnitude : α → UInt64)
    {entries : List α} (hne : entries ≠ []) (s : σ) :
    ∃ a ∈ entries, ((byMagnitude magnitude entries).draw s).1 = some a := by
  have hsome : added magnitude entries ≠ [] := by simpa [added] using hne
  obtain ⟨e, he, hdraw⟩ := exists_draw_ofCounts pos_of_mem_added hsome s
  obtain ⟨a, ha, rfl⟩ := List.mem_map.1 he
  exact ⟨a, ha, hdraw⟩

/-- Whatever the weights or the magnitudes are, an entry that is kept is found at some position
exactly if the weights before it sum to less than the largest number of 64 bits, and it is reported
with the weight that it was added with exactly if the weights up to it sum to at most that number.
So all entries are found and reported with their weights exactly if all weights add up to a number
of 64 bits. -/
theorem cutsOff_of_weights :
    (∀ weighted : List (α × Int64), CutsOff (ofWeights weighted) (kept weighted)) ∧
    ∀ (magnitude : α → UInt64) (entries : List α),
      CutsOff (byMagnitude magnitude entries) (added magnitude entries) := by
  refine ⟨fun weighted => ?_, fun magnitude entries => cutsOff_ofCounts pos_of_mem_added⟩
  rw [ofWeights_eq]
  exact cutsOff_ofCounts pos_of_mem_kept

/-- The greatest weight three times, and one more entry. -/
def overfull : List (String × Int64) :=
  [("a", .maxValue), ("b", .maxValue), ("c", .maxValue), ("d", 1)]

/-- The third weight is cut off, and the last entry has no position. -/
theorem not_keeps_overfull :
    ¬ (ofWeights overfull).Keeps (kept overfull) ∧
      (ofWeights overfull).weights =
        [("a", 9223372036854775807), ("b", 9223372036854775807), ("c", 1), ("d", 0)] ∧
      ∀ position, (ofWeights overfull).get? position ≠ some "d" := by
  have hweights : (ofWeights overfull).weights =
      [("a", 9223372036854775807), ("b", 9223372036854775807), ("c", 1), ("d", 0)] := by decide
  refine ⟨fun hkeeps => ?_, hweights, fun position hget => ?_⟩
  · have hkept : kept overfull ≠
        [("a", 9223372036854775807), ("b", 9223372036854775807), ("c", 1), ("d", 0)] := by decide
    exact hkept (hkeeps.weights_eq.symm.trans hweights)
  · have hentries : (ofWeights overfull).entries = [("a", 9223372036854775807),
        ("b", 18446744073709551614), ("c", longest), ("d", longest)] := by decide
    -- the end of the third entry is that of the last, so that it is found before
    obtain ⟨e, hfind, hname⟩ := Option.map_eq_some_iff.1 hget
    rw [hentries] at hfind
    by_cases hthird : position < longest
    · simp only [List.find?_cons, hthird, decide_true] at hfind
      grind
    · simp only [List.find?_cons, hthird, decide_false, List.find?_nil] at hfind
      grind

end SynthTable.PickList
