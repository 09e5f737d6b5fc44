import SynthTable.Proofs.Draw.PickList

/-!
# Pick lists stand for long lists

A pick list keeps the ends of the repetitions of its entries and never makes the long list in which
each entry is repeated as often as its weight says. What the long list would answer, the pick list
answers (`Refines`): its length, the entry at each position, its weights, and what is drawn.

As long as the weights add up to a number of 64 bits, no end is cut off. Then the ends go up strictly
from entry to entry (`pairwise_endsFrom`), so that the first end beyond a position is that of the
block in which the position lies (`find?_endsFrom`). The main result (`refines_longList`) is about
the three ways of making a pick list: from weights, evenly, and by magnitude.
-/

namespace SynthTable.PickList

variable {α : Type}

/-- Each entry repeated as often as its weight says, in order. -/
def longList (weighted : List (α × Nat)) : List α :=
  weighted.flatMap fun (entry, weight) => List.replicate weight entry

/-- The sum of all weights. -/
def weightSum : List (α × Nat) → Nat
  | [] => 0
  | entry :: rest => entry.2 + weightSum rest

/-- The pick list answers like the long list of weighted entries. -/
structure Refines (list : PickList α) (weighted : List (α × Nat)) : Prop where
  length_eq : list.length = (longList weighted).length
  get?_eq : ∀ position : Nat, list.get? position = (longList weighted)[position]?
  weights_eq : list.weights = weighted
  /-- The ends go up, so that a search by halves finds the first one beyond a position. -/
  ends_increasing : (list.entries.map (·.2)).Pairwise (· < ·)
  /-- A list with entries draws the entry at the position that is drawn, which is one of the long
  list. -/
  draw_eq : list.isEmpty = false → ∀ {σ : Type} [RandomSource σ] (s : σ),
    ∃ position rest, Random.below64 (longList weighted).length s = (position, rest) ∧
      ∃ h : position < (longList weighted).length,
        list.draw s = (some (longList weighted)[position], rest)

/-! ## The long list -/

@[simp] theorem longList_nil : longList ([] : List (α × Nat)) = [] := rfl

@[simp] theorem longList_cons (entry : α) (weight : Nat) (rest : List (α × Nat)) :
    longList ((entry, weight) :: rest) = List.replicate weight entry ++ longList rest := rfl

@[simp] theorem weightSum_nil : weightSum ([] : List (α × Nat)) = 0 := rfl

@[simp] theorem weightSum_cons (entry : α) (weight : Nat) (rest : List (α × Nat)) :
    weightSum ((entry, weight) :: rest) = weight + weightSum rest := rfl

theorem weightSum_even (entries : List α) : weightSum (entries.map (·, 1)) = entries.length := by
  induction entries with
  | nil => rfl
  | cons e rest ih => rw [List.map_cons, weightSum_cons, ih, List.length_cons, Nat.add_comm]

theorem length_longList (weighted : List (α × Nat)) :
    (longList weighted).length = weightSum weighted := by
  induction weighted with
  | nil => rfl
  | cons e rest ih =>
    obtain ⟨entry, weight⟩ := e
    simp [ih]

/-! ## Ends that are not cut off -/

section

variable {start : Nat} {weighted : List (α × Nat)}

theorem endsFrom_cons {entry : α} {weight : Nat} {rest : List (α × Nat)}
    (hfits : start + weightSum ((entry, weight) :: rest) ≤ longest) :
    endsFrom start ((entry, weight) :: rest) =
      (entry, start + weight) :: endsFrom (start + weight) rest := by
  have hend : min (start + weight) longest = start + weight := by
    rw [weightSum_cons] at hfits
    omega
  rw [endsFrom, hend]

/-- The first end beyond a position is that of the block in which the position lies. -/
theorem find?_endsFrom (hfits : start + weightSum weighted ≤ longest) {position : Nat}
    (hstart : start ≤ position) :
    ((endsFrom start weighted).find? fun (_, stop) => position < stop).map (·.1) =
      (longList weighted)[position - start]? := by
  induction weighted generalizing start with
  | nil => simp [endsFrom]
  | cons e rest ih =>
    obtain ⟨entry, weight⟩ := e
    rw [endsFrom_cons hfits, longList_cons]
    rw [weightSum_cons] at hfits
    by_cases hblock : position < start + weight
    · -- the position lies in the block of the first entry
      have hinside : position - start < weight := by omega
      simp [hblock, List.getElem?_append_left, hinside]
    · have hbeyond : weight ≤ position - start := by omega
      have hrest : position - start - weight = position - (start + weight) := by omega
      rw [List.find?_cons_of_neg (by simpa using hblock), ih (by omega) (by omega),
        List.getElem?_append_right (by simpa using hbeyond), List.length_replicate, hrest]

theorem weightsFrom_endsFrom (hfits : start + weightSum weighted ≤ longest) :
    weightsFrom start (endsFrom start weighted) = weighted := by
  induction weighted generalizing start with
  | nil => rfl
  | cons e rest ih =>
    obtain ⟨entry, weight⟩ := e
    rw [endsFrom_cons hfits, weightsFrom]
    rw [weightSum_cons] at hfits
    rw [ih (by omega), Nat.add_sub_cancel_left]

/-- The last end is where all repetitions end. -/
theorem getLast?_endsFrom (hfits : start + weightSum weighted ≤ longest) :
    (((endsFrom start weighted).getLast?).map (·.2)).getD start = start + weightSum weighted := by
  induction weighted generalizing start with
  | nil => rfl
  | cons e rest ih =>
    obtain ⟨entry, weight⟩ := e
    rw [endsFrom_cons hfits]
    rw [weightSum_cons] at hfits
    have hlast : (((endsFrom (start + weight) rest).getLast?).map (·.2)).getD (start + weight) = _ :=
      ih (by omega)
    rw [weightSum_cons, ← Nat.add_assoc, ← hlast, List.getLast?_cons]
    cases (endsFrom (start + weight) rest).getLast? <;> rfl

theorem length_ofCounts (hfits : weightSum weighted ≤ longest) :
    (ofCounts weighted).length = weightSum weighted := by
  have hlast : (((endsFrom 0 weighted).getLast?).map (·.2)).getD 0 = _ :=
    getLast?_endsFrom (by simpa using hfits)
  rw [Nat.zero_add] at hlast
  rw [← hlast, length, ofCounts]
  cases (endsFrom 0 weighted).getLast? <;> rfl

/-- Entries of positive weight end after the place where the first of them starts. -/
theorem lt_of_mem_endsFrom (hpositive : ∀ e ∈ weighted, 0 < e.2)
    (hfits : start + weightSum weighted ≤ longest) : ∀ e ∈ endsFrom start weighted, start < e.2 := by
  induction weighted generalizing start with
  | nil => simp [endsFrom]
  | cons e rest ih =>
    obtain ⟨entry, weight⟩ := e
    have hweight : 0 < weight := hpositive _ List.mem_cons_self
    rw [endsFrom_cons hfits]
    rw [weightSum_cons] at hfits
    intro e he
    rcases List.mem_cons.1 he with rfl | he
    · show start < start + weight
      omega
    · have hlater := ih (fun e he => hpositive e (List.mem_cons_of_mem _ he)) (by omega) e he
      omega

/-- The ends of entries of positive weight go up. -/
theorem pairwise_endsFrom (hpositive : ∀ e ∈ weighted, 0 < e.2)
    (hfits : start + weightSum weighted ≤ longest) :
    ((endsFrom start weighted).map (·.2)).Pairwise (· < ·) := by
  induction weighted generalizing start with
  | nil => simp [endsFrom]
  | cons e rest ih =>
    obtain ⟨entry, weight⟩ := e
    have hrest : ∀ e ∈ rest, 0 < e.2 := fun e he => hpositive e (List.mem_cons_of_mem _ he)
    rw [endsFrom_cons hfits, List.map_cons, List.pairwise_cons]
    rw [weightSum_cons] at hfits
    refine ⟨?_, ih hrest (by omega)⟩
    intro stop hstop
    obtain ⟨e, he, rfl⟩ := List.mem_map.1 hstop
    exact lt_of_mem_endsFrom hrest (by omega) e he

end

/-! ## Pick lists of weighted entries -/

/-- Entries of positive weights that add up to a number of 64 bits make a pick list that answers like
their long list. -/
theorem refines_ofCounts {weighted : List (α × Nat)} (hpositive : ∀ e ∈ weighted, 0 < e.2)
    (hfits : weightSum weighted ≤ longest) : Refines (ofCounts weighted) weighted := by
  have hstart : 0 + weightSum weighted ≤ longest := by simpa using hfits
  have hget : ∀ position : Nat,
      (ofCounts weighted).get? position = (longList weighted)[position]? := by
    intro position
    have hfind := find?_endsFrom hstart (Nat.zero_le position)
    rwa [Nat.sub_zero] at hfind
  have hlength : (ofCounts weighted).length = (longList weighted).length := by
    rw [length_ofCounts hfits, length_longList]
  refine ⟨hlength, hget, weightsFrom_endsFrom hstart, pairwise_endsFrom hpositive hstart, ?_⟩
  intro hentries σ _ s
  rcases hdraw : Random.below64 (longList weighted).length s with ⟨position, rest⟩
  -- a list with entries has positions, and the draw stays below their number
  obtain ⟨e, he, hend⟩ := exists_end_eq_length hentries
  have hlast : 0 < (ofCounts weighted).length := by
    rw [← hend]
    exact (ends_endsFrom hpositive 0 e he).1
  have hposition : position < (longList weighted).length := by
    have hbelow := Random.below64_lt hlast s
    rwa [hlength, hdraw] at hbelow
  refine ⟨position, rest, rfl, hposition, ?_⟩
  simp only [draw, hentries, Bool.false_eq_true, if_false, hlength, hdraw, hget,
    List.getElem?_eq_getElem hposition]

/-- The weighted entries that count: those of positive weight. -/
def kept (weighted : List (α × Int64)) : List (α × Nat) :=
  (weighted.filter fun e => 0 < e.2).map fun e => (e.1, e.2.toInt.toNat)

theorem ofWeights_eq (weighted : List (α × Int64)) : ofWeights weighted = ofCounts (kept weighted) := by
  refine congrArg ofCounts ?_
  induction weighted with
  | nil => rfl
  | cons e rest ih =>
    by_cases hweight : 0 < e.2
    · simp [kept, hweight] at ih ⊢
      exact ih
    · simp [kept, hweight] at ih ⊢
      exact ih

theorem pos_of_mem_kept {weighted : List (α × Int64)} : ∀ e ∈ kept weighted, 0 < e.2 := by
  intro e he
  obtain ⟨d, hd, rfl⟩ := List.mem_map.1 he
  have hweight : 0 < d.2 := by simpa using (List.mem_filter.1 hd).2
  have hpositive : 0 < d.2.toInt := by simpa using Int64.lt_iff_toInt_lt.1 hweight
  show 0 < d.2.toInt.toNat
  omega

/-- The number is the least magnitude of the entries, if there are any. -/
def IsLeastMagnitude (magnitude : α → UInt64) (entries : List α) (least : Nat) : Prop :=
  (∀ e ∈ entries, least ≤ (magnitude e).toNat) ∧
    (entries = [] ∨ ∃ e ∈ entries, (magnitude e).toNat = least)

/-- Each entry with one more than the number of times that the least magnitude goes into its own. -/
def magnified (magnitude : α → UInt64) (least : Nat) (entries : List α) : List (α × Nat) :=
  entries.map fun e => (e, (magnitude e).toNat / max least 1 + 1)

theorem leastMagnitude_eq {magnitude : α → UInt64} {entries : List α} {least : Nat}
    (hleast : IsLeastMagnitude magnitude entries least) (hentries : entries ≠ []) :
    leastMagnitude magnitude entries = max least 1 := by
  obtain ⟨e, he, hsame⟩ := hleast.2.resolve_left hentries
  have hmin : (entries.map fun e => (magnitude e).toNat).min? = some least := by
    rw [List.min?_eq_some_iff]
    refine ⟨List.mem_map.2 ⟨e, he, hsame⟩, ?_⟩
    intro n hn
    obtain ⟨d, hd, rfl⟩ := List.mem_map.1 hn
    exact hleast.1 d hd
  rw [leastMagnitude, hmin]

theorem le_weightSum {weighted : List (α × Nat)} {e : α × Nat} (he : e ∈ weighted) :
    e.2 ≤ weightSum weighted := by
  induction weighted with
  | nil => cases he
  | cons first rest ih =>
    rcases List.mem_cons.1 he with rfl | he
    · exact Nat.le_add_right _ _
    · exact Nat.le_trans (ih he) (Nat.le_add_left _ _)

theorem byMagnitude_eq {magnitude : α → UInt64} {entries : List α} {least : Nat}
    (hleast : IsLeastMagnitude magnitude entries least)
    (hfits : weightSum (magnified magnitude least entries) ≤ longest) :
    byMagnitude magnitude entries = ofCounts (magnified magnitude least entries) := by
  by_cases hentries : entries = []
  · rw [hentries]
    rfl
  · rw [byMagnitude, leastMagnitude_eq hleast hentries, magnified]
    congr 1
    refine List.map_congr_left fun e he => ?_
    -- no single weight is cut off either
    have hweight := le_weightSum (List.mem_map_of_mem (f := fun e =>
      (e, (magnitude e).toNat / max least 1 + 1)) he)
    rw [Nat.min_eq_left (Nat.le_trans hweight hfits)]

/-- As long as the weights add up to a number of 64 bits, a pick list answers like the long list in
which each entry is repeated as often as its weight says: the weight declared if it is positive, one
for even lists, and one more than the number of times that the least magnitude, read as at least one,
goes into that of the entry. -/
theorem refines_longList :
    (∀ weighted : List (α × Int64), weightSum (kept weighted) < UInt64.size →
      Refines (ofWeights weighted) (kept weighted)) ∧
    (∀ entries : List α, entries.length < UInt64.size →
      Refines (uniform entries) (entries.map (·, 1))) ∧
    ∀ (magnitude : α → UInt64) (entries : List α) (least : Nat),
      IsLeastMagnitude magnitude entries least →
      weightSum (magnified magnitude least entries) < UInt64.size →
      Refines (byMagnitude magnitude entries) (magnified magnitude least entries) := by
  refine ⟨?_, ?_, ?_⟩
  · intro weighted hfits
    rw [ofWeights_eq]
    exact refines_ofCounts pos_of_mem_kept (Nat.le_pred_of_lt hfits)
  · intro entries hfits
    refine refines_ofCounts ?_ (by rw [weightSum_even]; exact Nat.le_pred_of_lt hfits)
    intro e he
    obtain ⟨d, -, rfl⟩ := List.mem_map.1 he
    exact Nat.one_pos
  · intro magnitude entries least hleast hfits
    have hfits := Nat.le_pred_of_lt hfits
    rw [byMagnitude_eq hleast hfits]
    refine refines_ofCounts ?_ hfits
    intro e he
    obtain ⟨d, -, rfl⟩ := List.mem_map.1 he
    exact Nat.succ_pos _

/-- The two greatest weights that can be declared, with room for one more. -/
def heaviest : List (String × Int64) := [("a", .maxValue), ("b", .maxValue), ("c", -4), ("d", 1)]

/-- Some places with their populations. -/
def places : List (String × UInt64) := [("big", 250), ("none", 0), ("small", 3)]

theorem refines_longList_heaviest :
    (weightSum (kept heaviest) = longest ∧ Refines (ofWeights heaviest) (kept heaviest) ∧
      (longList (kept heaviest))[9223372036854775806]? = some "a" ∧
      (longList (kept heaviest))[9223372036854775807]? = some "b" ∧
      (longList (kept heaviest))[18446744073709551614]? = some "d") ∧
    Refines (uniform ["x", "y"]) [("x", 1), ("y", 1)] ∧
    Refines (byMagnitude (·.2) places) [(("big", 250), 251), (("none", 0), 1), (("small", 3), 4)] := by
  obtain ⟨hweights, heven, hmagnitude⟩ := refines_longList (α := String)
  have hsum : weightSum (kept heaviest) = longest := by decide
  have hheaviest := hweights heaviest (by rw [hsum]; decide)
  refine ⟨⟨hsum, hheaviest, ?_, ?_, ?_⟩, heven ["x", "y"] (by decide), ?_⟩
  · rw [← hheaviest.get?_eq]
    rfl
  · rw [← hheaviest.get?_eq]
    rfl
  · rw [← hheaviest.get?_eq]
    rfl
  · exact refines_longList.2.2 (·.2) places 0 ⟨by decide, Or.inr ⟨("none", 0), by decide⟩⟩
      (by decide)

end SynthTable.PickList
