import Mathlib.Data.List.Nodup
import Mathlib.Data.List.Sigma
import SynthTable.Schema.References

/-!
# The sorting of places

The report on the references of a schema puts places in order with counters: a place may come next
when its counter is down to zero. This file relates that loop to what it is for. The order wanted is
described without counters (`Arranged`): again and again the first of the places left comes next that
reads none of those left. What the loop keeps to is said once (`Sorting.Keeps`): a counter is the
number of places left that are read (`pending`), and the places that are ready are those left whose
counter is zero. One step keeps to it (`Sorting.Keeps.next`), so that a whole run does and arranges
the places (`Sorting.Keeps.run`).

The main result (`exists_arranged_toposort`) is that the sorting gives the order that is wanted, or
else the places that no such order can place.
-/

namespace SynthTable.Schema

/-- For every column the places of the columns that it reads. -/
def sources (s : Schema) : List (List Nat) := s.columns.map s.sourcesOf

/-! ## Places -/

section

variable (sources : List (List Nat))

/-- The column at the place `i` reads that at the place `j`. -/
def ReadsPlace (i j : Nat) : Prop := j ∈ sources.getD i []

/-- Of the places, some are put into an order and the rest is left: the first place that reads none
of them comes next, and if there is no such place, all are left. -/
inductive Arranged : (places order rest : List Nat) → Prop
  | stops {places} (h : ∀ i ∈ places, ∃ j ∈ places, ReadsPlace sources i j) :
    Arranged places [] places
  | next {places i order rest} (hi : i ∈ places) (hfree : ∀ j ∈ places, ¬ ReadsPlace sources i j)
    (hfirst : ∀ k ∈ places, (∀ j ∈ places, ¬ ReadsPlace sources k j) → i ≤ k)
    (hrest : Arranged (places.erase i) order rest) : Arranged places (i :: order) rest

/-- The graph has an edge from each place to those that read it. -/
structure IsGraphOf (graph : List (List Nat)) : Prop where
  length_eq : graph.length = sources.length
  increasing : ∀ j, (graph.getD j []).Pairwise (· < ·)
  mem_iff : ∀ i j, i ∈ graph.getD j [] ↔ j < graph.length ∧ ReadsPlace sources i j

end

/-! ## The graph -/

theorem pairwise_insert {i : Nat} {places : List Nat} (h : places.Pairwise (· < ·)) :
    (Ascending.insert i places).Pairwise (· < ·) := by
  induction places with
  | nil => simp [Ascending.insert]
  | cons j rest ih =>
    obtain ⟨hj, hrest⟩ := List.pairwise_cons.1 h
    rw [Ascending.insert]
    split
    · next hij =>
      refine List.pairwise_cons.2 ⟨fun k hk => ?_, h⟩
      rcases List.mem_cons.1 hk with rfl | hk
      · exact hij
      · exact Nat.lt_trans hij (hj k hk)
    · split
      · exact h
      · refine List.pairwise_cons.2 ⟨fun k hk => ?_, ih hrest⟩
        rcases Ascending.mem_insert.1 hk with rfl | hk
        · omega
        · exact hj k hk

section

variable {graph : List (List Nat)} {sources : List Nat} {index i j : Nat}

theorem getD_modify {α : Type} {xs : List α} {f : α → α} {d : α} :
    (xs.modify i f).getD j d = if i = j ∧ j < xs.length then f (xs.getD j d) else xs.getD j d := by
  by_cases hj : j < xs.length
  · by_cases hij : i = j <;> simp [List.getD_eq_getElem?_getD, hj, hij]
  · simp [List.getD_eq_getElem?_getD, hj]

@[simp] theorem length_link : (link graph sources index).length = graph.length := by
  induction sources generalizing graph with
  | nil => rfl
  | cons source rest ih =>
    rw [link, List.foldl_cons, ← link, ih, List.length_modify]

theorem mem_link : i ∈ (link graph sources index).getD j [] ↔
    i ∈ graph.getD j [] ∨ j < graph.length ∧ i = index ∧ j ∈ sources := by
  induction sources generalizing graph with
  | nil => simp [link]
  | cons source rest ih =>
    rw [link, List.foldl_cons, ← link, ih, getD_modify, List.length_modify, List.mem_cons]
    split
    · next h =>
      rw [Ascending.mem_insert]
      grind
    · next h => grind

theorem increasing_link (h : ∀ j, (graph.getD j []).Pairwise (· < ·)) (j : Nat) :
    ((link graph sources index).getD j []).Pairwise (· < ·) := by
  induction sources generalizing graph with
  | nil => exact h j
  | cons source rest ih =>
    rw [link, List.foldl_cons, ← link]
    refine ih fun j => ?_
    rw [getD_modify]
    split
    · exact pairwise_insert (h j)
    · exact h j

end

theorem length_foldl_link (columns : List (List Nat × Nat)) (graph : List (List Nat)) :
    (columns.foldl (fun graph (sources, index) => link graph sources index) graph).length =
      graph.length := by
  induction columns generalizing graph with
  | nil => rfl
  | cons column rest ih => rw [List.foldl_cons, ih, length_link]

theorem mem_foldl_link {columns : List (List Nat × Nat)} {graph : List (List Nat)} {i j : Nat} :
    i ∈ (columns.foldl (fun graph (sources, index) => link graph sources index) graph).getD j [] ↔
      i ∈ graph.getD j [] ∨ j < graph.length ∧ ∃ sources, (sources, i) ∈ columns ∧ j ∈ sources := by
  induction columns generalizing graph with
  | nil => simp
  | cons column rest ih =>
    rw [List.foldl_cons, ih, mem_link, length_link]
    obtain ⟨sources, index⟩ := column
    simp only [List.mem_cons, Prod.mk.injEq]
    grind

theorem increasing_foldl_link (columns : List (List Nat × Nat)) {graph : List (List Nat)}
    (h : ∀ j, (graph.getD j []).Pairwise (· < ·)) (j : Nat) :
    ((columns.foldl (fun graph (sources, index) => link graph sources index) graph).getD j
      []).Pairwise (· < ·) := by
  induction columns generalizing graph with
  | nil => exact h j
  | cons column rest ih => exact ih (increasing_link h)

theorem graph_eq (s : Schema) : s.graph =
    s.sources.zipIdx.foldl (fun graph (sources, index) => link graph sources index)
      (List.replicate s.columns.length []) := by
  rw [sources, List.zipIdx_map, List.foldl_map]
  rfl

@[simp] theorem length_graph (s : Schema) : s.graph.length = s.columns.length := by
  rw [graph_eq, length_foldl_link, List.length_replicate]

theorem isGraphOf_graph (s : Schema) : IsGraphOf s.sources s.graph := by
  have hnone (j : Nat) : (List.replicate s.columns.length ([] : List Nat)).getD j [] = [] := by
    rw [List.getD_eq_getElem?_getD, List.getElem?_replicate]
    split <;> rfl
  refine ⟨?_, fun j => ?_, fun i j => ?_⟩
  · rw [length_graph, sources, List.length_map]
  · rw [graph_eq]
    exact increasing_foldl_link _ (fun j => by rw [hnone]; exact .nil) j
  · rw [length_graph, graph_eq, mem_foldl_link, hnone, List.length_replicate, ReadsPlace,
      List.getD_eq_getElem?_getD]
    simp only [List.not_mem_nil, false_or, List.mk_mem_zipIdx_iff_getElem?]
    refine and_congr_right fun _ => ?_
    cases s.sources[i]? <;> simp

/-! ## The counters -/

/-- How many places that lead to a place are still to be put in order. -/
def pending (graph : List (List Nat)) (order : List Nat) (i : Nat) : Nat :=
  graph.zipIdx.countP fun (targets, j) => j ∉ order ∧ i ∈ targets

section

variable {graph : List (List Nat)} {order : List Nat} {i j : Nat}

theorem mem_getD_iff :
    i ∈ graph.getD j [] ↔ ∃ targets, (targets, j) ∈ graph.zipIdx ∧ i ∈ targets := by
  simp only [List.mk_mem_zipIdx_iff_getElem?, List.getD_eq_getElem?_getD]
  cases graph[j]? <;> simp

theorem pending_eq_zero_iff : pending graph order i = 0 ↔ ∀ j, i ∈ graph.getD j [] → j ∈ order := by
  simp only [pending, List.countP_eq_zero, decide_eq_true_eq, mem_getD_iff]
  constructor
  · rintro h j ⟨targets, hedge, hi⟩
    by_contra hj
    exact h _ hedge ⟨hj, hi⟩
  · rintro h ⟨targets, j⟩ hedge ⟨hj, hi⟩
    exact hj (h j ⟨targets, hedge, hi⟩)

/-- With a place put in order, those that it leads to wait for one place less. -/
theorem pending_append (hj : j ∉ order) : pending graph (order ++ [j]) i =
    if i ∈ graph.getD j [] then pending graph order i - 1 else pending graph order i := by
  split
  · next hi =>
    obtain ⟨targets, hedge, hi⟩ := mem_getD_iff.1 hi
    have hnodup : graph.zipIdx.Nodup := .of_map _ (List.nodup_zipIdx_map_snd graph)
    -- among the edges that count, those from `j` are no longer there
    have herase : graph.zipIdx.filter (fun (targets, k) => k ∉ order ++ [j] ∧ i ∈ targets) =
        (graph.zipIdx.filter fun (targets, k) => k ∉ order ∧ i ∈ targets).erase (targets, j) := by
      rw [(hnodup.filter _).erase_eq_filter, List.filter_filter]
      refine List.filter_congr fun edge hmem => ?_
      obtain ⟨others, k⟩ := edge
      have hsame : k = j → others = targets := by
        rintro rfl
        rw [List.mk_mem_zipIdx_iff_getElem?] at hmem hedge
        exact Option.some.inj (hmem.symm.trans hedge)
      rw [Bool.eq_iff_iff]
      simp
      grind
    rw [pending, pending, List.countP_eq_length_filter, List.countP_eq_length_filter, herase]
    exact List.length_erase_of_mem (List.mem_filter.2 ⟨hedge, by simp [hi, hj]⟩)
  · next hi =>
    refine List.countP_congr fun edge hmem => ?_
    have hne : i ∈ edge.1 → edge.2 ≠ j := by
      rintro htarget rfl
      exact hi (mem_getD_iff.2 ⟨edge.1, hmem, htarget⟩)
    simp
    grind

theorem length_foldl_modify (targets counts : List Nat) (f : Nat → Nat) :
    (targets.foldl (fun counts i => counts.modify i f) counts).length = counts.length := by
  induction targets generalizing counts with
  | nil => rfl
  | cons target rest ih => rw [List.foldl_cons, ih, List.length_modify]

/-- Each of the counters of some places is changed once. -/
theorem getD_foldl_modify {targets counts : List Nat} {f : Nat → Nat} (htargets : targets.Nodup) :
    (targets.foldl (fun counts i => counts.modify i f) counts).getD i 0 =
      if i ∈ targets ∧ i < counts.length then f (counts.getD i 0) else counts.getD i 0 := by
  induction targets generalizing counts with
  | nil => simp
  | cons target rest ih =>
    obtain ⟨hnew, hrest⟩ := List.nodup_cons.1 htargets
    rw [List.foldl_cons, ih hrest, List.length_modify, getD_modify]
    grind

theorem length_foldl_countTargets (edges : List (List Nat)) (counts : List Nat) :
    (edges.foldl countTargets counts).length = counts.length := by
  induction edges generalizing counts with
  | nil => rfl
  | cons targets rest ih => rw [List.foldl_cons, ih, countTargets, length_foldl_modify]

theorem getD_foldl_countTargets {edges : List (List Nat)} {counts : List Nat}
    (hedges : ∀ targets ∈ edges, targets.Nodup) (hi : i < counts.length) :
    (edges.foldl countTargets counts).getD i 0 = counts.getD i 0 + edges.countP (i ∈ ·) := by
  induction edges generalizing counts with
  | nil => rfl
  | cons targets rest ih =>
    obtain ⟨htargets, hrest⟩ := List.forall_mem_cons.1 hedges
    rw [List.foldl_cons, ih hrest (by rwa [countTargets, length_foldl_modify]), countTargets,
      getD_foldl_modify htargets, List.countP_cons]
    grind

@[simp] theorem length_indegrees : (indegrees graph).length = graph.length := by
  rw [indegrees, length_foldl_countTargets, List.length_replicate]

/-- At first a counter is the number of all places that are read. -/
theorem getD_indegrees (hgraph : ∀ targets ∈ graph, targets.Nodup) (hi : i < graph.length) :
    (indegrees graph).getD i 0 = pending graph [] i := by
  have hcount : graph.countP (i ∈ ·) = pending graph [] i := by
    conv_lhs => rw [← List.zipIdx_map_fst 0 graph, List.countP_map]
    exact List.countP_congr fun edge _ => by simp
  have hzero : (List.replicate graph.length 0).getD i 0 = 0 := by
    rw [List.getD_eq_getElem?_getD, List.getElem?_replicate, if_pos hi, Option.getD_some]
  rw [indegrees, getD_foldl_countTargets hgraph (by simpa using hi), hcount, hzero, Nat.zero_add]

theorem mem_placesWhere {p : Nat → Bool} {counts : List Nat} :
    i ∈ placesWhere p counts ↔ i < counts.length ∧ p (counts.getD i 0) := by
  rw [placesWhere, List.mem_filter, List.mem_range]

theorem increasing_placesWhere (p : Nat → Bool) (counts : List Nat) :
    (placesWhere p counts).Pairwise (· < ·) :=
  List.pairwise_lt_range.filter _

end

/-! ## Steps -/

namespace Sorting

section

variable {st : Sorting} {targets : List Nat} {i : Nat}

@[simp] theorem order_foldl_release : (targets.foldl release st).order = st.order := by
  induction targets generalizing st with
  | nil => rfl
  | cons target rest ih => exact ih

theorem counts_foldl_release : (targets.foldl release st).counts =
    targets.foldl (fun counts i => counts.modify i (· - 1)) st.counts := by
  induction targets generalizing st with
  | nil => rfl
  | cons target rest ih => exact ih

theorem increasing_foldl_release (h : st.ready.Pairwise (· < ·)) :
    (targets.foldl release st).ready.Pairwise (· < ·) := by
  induction targets generalizing st with
  | nil => exact h
  | cons target rest ih =>
    refine ih ?_
    rw [release]
    dsimp only
    split
    · exact pairwise_insert h
    · exact h

/-- The places that become ready are those whose counter comes down to zero. -/
theorem mem_ready_foldl_release (htargets : targets.Nodup) :
    i ∈ (targets.foldl release st).ready ↔
      i ∈ st.ready ∨ i ∈ targets ∧ (targets.foldl release st).counts.getD i 0 = 0 := by
  induction targets generalizing st with
  | nil => simp
  | cons target rest ih =>
    obtain ⟨hnew, hrest⟩ := List.nodup_cons.1 htargets
    rw [List.foldl_cons, ih hrest]
    have hready : i ∈ (st.release target).ready ↔
        i ∈ st.ready ∨ i = target ∧ (st.release target).counts.getD i 0 = 0 := by
      rw [release]
      split <;> grind [Ascending.mem_insert]
    have hcount : (rest.foldl release (st.release target)).counts.getD target 0 =
        (st.release target).counts.getD target 0 := by
      rw [counts_foldl_release, getD_foldl_modify hrest, if_neg fun h => hnew h.1]
    rw [hready]
    grind

end

/-- What the sorting keeps to in every step. -/
structure Keeps (graph : List (List Nat)) (st : Sorting) : Prop where
  nodup : st.order.Nodup
  bounded : ∀ i ∈ st.order, i < graph.length
  /-- No place in order waits for another. -/
  settled : ∀ i ∈ st.order, pending graph st.order i = 0
  length_counts : st.counts.length = graph.length
  counted : ∀ i < graph.length, st.counts.getD i 0 = pending graph st.order i
  increasing : st.ready.Pairwise (· < ·)
  mem_ready : ∀ i, i ∈ st.ready ↔
    i < graph.length ∧ i ∉ st.order ∧ pending graph st.order i = 0

variable {graph : List (List Nat)} {st : Sorting} {i : Nat} {ready : List Nat}

theorem keeps_start (hgraph : ∀ targets ∈ graph, targets.Nodup) : Keeps graph (start graph) := by
  refine ⟨.nil, by simp [start], by simp [start], length_indegrees, ?_, ?_, ?_⟩
  · intro i hi
    exact getD_indegrees hgraph hi
  · exact increasing_placesWhere (· = 0) (indegrees graph)
  · intro i
    rw [start, mem_placesWhere, length_indegrees]
    simp only [decide_eq_true_eq, List.not_mem_nil, not_false_eq_true, true_and]
    exact and_congr_right fun hi => by rw [getD_indegrees hgraph hi]

/-- The first place that is ready is put in order. -/
theorem Keeps.next (hgraph : ∀ j, (graph.getD j []).Nodup)
    (hbound : ∀ j, ∀ i ∈ graph.getD j [], i < graph.length) (h : st.Keeps graph)
    (hready : st.ready = i :: ready) :
    Keeps graph ((graph.getD i []).foldl release ⟨st.order ++ [i], st.counts, ready⟩) := by
  have hincreasing := h.increasing
  rw [hready, List.pairwise_cons] at hincreasing
  obtain ⟨hi, hnew, hzero⟩ := (h.mem_ready i).1 (hready ▸ List.mem_cons_self)
  have hmem (k : Nat) : k ∈ ready ↔ k ∈ st.ready ∧ k ≠ i := by
    rw [hready, List.mem_cons]
    have hfirst : k ∈ ready → i < k := hincreasing.1 k
    grind
  -- a place in order, and `i` itself, is not read by `i`
  have hsettled (k : Nat) (hk : k ∈ st.order ++ [i]) : k ∉ graph.getD i [] := by
    intro hedge
    have hwaits : pending graph st.order k ≠ 0 := fun h0 =>
      hnew (pending_eq_zero_iff.1 h0 i hedge)
    rcases List.mem_append.1 hk with hk | hk
    · exact hwaits (h.settled k hk)
    · exact hwaits (List.mem_singleton.1 hk ▸ hzero)
  have hcounted (k : Nat) (hk : k < graph.length) :
      ((graph.getD i []).foldl release ⟨st.order ++ [i], st.counts, ready⟩).counts.getD k 0 =
        pending graph (st.order ++ [i]) k := by
    rw [counts_foldl_release, getD_foldl_modify (hgraph i), pending_append hnew, h.length_counts]
    dsimp only
    rw [h.counted k hk]
    simp [hk]
  refine ⟨?_, ?_, ?_, ?_, ?_, increasing_foldl_release hincreasing.2, ?_⟩
  · rw [order_foldl_release]
    exact List.nodup_append.2 ⟨h.nodup, List.nodup_singleton i, by grind⟩
  · rw [order_foldl_release]
    intro k hk
    rcases List.mem_append.1 hk with hk | hk
    · exact h.bounded k hk
    · exact List.mem_singleton.1 hk ▸ hi
  · rw [order_foldl_release]
    intro k hk
    rw [pending_append hnew, if_neg (hsettled k hk)]
    rcases List.mem_append.1 hk with hk | hk
    · exact h.settled k hk
    · exact List.mem_singleton.1 hk ▸ hzero
  · rw [counts_foldl_release, length_foldl_modify, h.length_counts]
  · rw [order_foldl_release]
    exact hcounted
  · intro k
    rw [order_foldl_release, mem_ready_foldl_release (hgraph i)]
    dsimp only
    rw [hmem, h.mem_ready]
    constructor
    · rintro (⟨⟨hk, hnot, h0⟩, hne⟩ | ⟨hedge, h0⟩)
      · refine ⟨hk, by simp [hnot, hne], ?_⟩
        rw [pending_append hnew, h0]
        simp
      · have hk : k < graph.length := hbound i k hedge
        exact ⟨hk, fun hplaced => hsettled k hplaced hedge, hcounted k hk ▸ h0⟩
    · rintro ⟨hk, hnot, h0⟩
      rw [List.mem_append, List.mem_singleton, not_or] at hnot
      by_cases hedge : k ∈ graph.getD i []
      · exact .inr ⟨hedge, (hcounted k hk).trans h0⟩
      · rw [pending_append hnew, if_neg hedge] at h0
        exact .inl ⟨⟨hk, hnot.1, h0⟩, hnot.2⟩

end Sorting

/-! ## Runs -/

/-- The places that have not been put in order. -/
def unplaced (count : Nat) (order : List Nat) : List Nat := (List.range count).filter (· ∉ order)

section

variable {sources graph : List (List Nat)} {order : List Nat} {st : Sorting} {i : Nat}

theorem mem_unplaced {count : Nat} : i ∈ unplaced count order ↔ i < count ∧ i ∉ order := by
  simp [unplaced]

theorem unplaced_append (count : Nat) :
    unplaced count (order ++ [i]) = (unplaced count order).erase i := by
  rw [unplaced, unplaced, (List.nodup_range.filter _).erase_eq_filter, List.filter_filter]
  refine List.filter_congr fun j _ => ?_
  rw [Bool.eq_iff_iff]
  simp [and_comm]

theorem length_unplaced {count : Nat} (hnodup : order.Nodup) (hbound : ∀ i ∈ order, i < count) :
    (unplaced count order).length + order.length = count := by
  have hplaced : ((List.range count).filter (· ∈ order)).Perm order :=
    (List.perm_ext_iff_of_nodup (List.nodup_range.filter _) hnodup).2 fun i => by
      simpa using hbound i
  have hsplit := List.length_eq_length_filter_add (l := List.range count) (· ∈ order)
  rw [hplaced.length_eq, List.length_range] at hsplit
  rw [unplaced, Nat.add_comm]
  simpa using hsplit.symm

theorem IsGraphOf.nodup (h : IsGraphOf sources graph) (j : Nat) : (graph.getD j []).Nodup :=
  (h.increasing j).imp Nat.ne_of_lt

theorem IsGraphOf.lt_length (h : IsGraphOf sources graph) (j i : Nat) (hi : i ∈ graph.getD j []) :
    i < graph.length := by
  have hreads := ((h.mem_iff i j).1 hi).2
  rw [h.length_eq]
  by_contra hlarge
  simp [ReadsPlace, hlarge] at hreads

/-- A place waits for none of the others exactly if it reads none of those left. -/
theorem IsGraphOf.pending_eq_zero_iff (h : IsGraphOf sources graph) :
    pending graph order i = 0 ↔ ∀ j ∈ unplaced graph.length order, ¬ ReadsPlace sources i j := by
  rw [Schema.pending_eq_zero_iff]
  refine forall_congr' fun j => ?_
  rw [h.mem_iff, mem_unplaced]
  tauto

namespace Sorting

/-- When no place is ready, each place left reads one of those left. -/
theorem Keeps.stops (hgraph : IsGraphOf sources graph) (h : st.Keeps graph) (hready : st.ready = []) :
    Arranged sources (unplaced graph.length st.order) [] (unplaced graph.length st.order) := by
  refine .stops fun i hi => ?_
  obtain ⟨hbound, hnew⟩ := mem_unplaced.1 hi
  have hwaits : ¬ pending graph st.order i = 0 := by
    intro hzero
    have hmem := (h.mem_ready i).2 ⟨hbound, hnew, hzero⟩
    rw [hready] at hmem
    cases hmem
  rw [hgraph.pending_eq_zero_iff] at hwaits
  simpa using hwaits

/-- A run with enough steps goes on until no place is ready, and arranges the places left. -/
theorem Keeps.run (hgraph : IsGraphOf sources graph) {count : Nat} (h : st.Keeps graph)
    (hcount : (unplaced graph.length st.order).length ≤ count) :
    Keeps graph (st.run graph count) ∧ (st.run graph count).ready = [] ∧
      ∃ more, (st.run graph count).order = st.order ++ more ∧
        Arranged sources (unplaced graph.length st.order) more
          (unplaced graph.length (st.run graph count).order) := by
  induction count generalizing st with
  | zero =>
    have hready : st.ready = [] := by
      refine List.eq_nil_iff_forall_not_mem.2 fun i hi => ?_
      obtain ⟨hbound, hnew, -⟩ := (h.mem_ready i).1 hi
      have hpos := List.length_pos_of_mem (mem_unplaced.2 ⟨hbound, hnew⟩)
      omega
    exact ⟨h, hready, [], by simp [Sorting.run], h.stops hgraph hready⟩
  | succ count ih =>
    rw [Sorting.run]
    split
    · next hready => exact ⟨h, hready, [], by simp, h.stops hgraph hready⟩
    · next i ready hready =>
      have hnext := h.next hgraph.nodup hgraph.lt_length hready
      obtain ⟨hbound, hnew, hzero⟩ := (h.mem_ready i).1 (hready ▸ List.mem_cons_self)
      have hi := mem_unplaced.2 ⟨hbound, hnew⟩
      have hlength := List.length_erase_of_mem hi
      obtain ⟨hkeeps, hend, more, horder, hmore⟩ := ih hnext (by
        rw [order_foldl_release, unplaced_append]
        omega)
      rw [order_foldl_release] at horder hmore
      refine ⟨hkeeps, hend, i :: more, by rw [horder, List.append_assoc]; rfl, ?_⟩
      refine .next hi (hgraph.pending_eq_zero_iff.1 hzero) ?_ (unplaced_append _ ▸ hmore)
      -- the first of the places that are ready is the first of those that may come next
      intro k hk hfree
      obtain ⟨hkbound, hknew⟩ := mem_unplaced.1 hk
      have hmem := (h.mem_ready k).2 ⟨hkbound, hknew, hgraph.pending_eq_zero_iff.2 hfree⟩
      have hincreasing := h.increasing
      rw [hready] at hmem hincreasing
      rcases List.mem_cons.1 hmem with rfl | hmem
      · exact Nat.le_refl _
      · exact Nat.le_of_lt ((List.pairwise_cons.1 hincreasing).1 k hmem)

/-- At the end the places left are those whose counter is not zero. -/
theorem Keeps.placesWhere_eq (h : st.Keeps graph) (hready : st.ready = []) :
    placesWhere (0 < ·) st.counts = unplaced graph.length st.order := by
  rw [placesWhere, unplaced, h.length_counts]
  refine List.filter_congr fun i hi => ?_
  have hbound := List.mem_range.1 hi
  rw [h.counted i hbound, Bool.eq_iff_iff]
  have hwaits : i ∉ st.order → pending graph st.order i ≠ 0 := by
    intro hnew hzero
    have hmem := (h.mem_ready i).2 ⟨hbound, hnew, hzero⟩
    rw [hready] at hmem
    cases hmem
  have hsettled := h.settled i
  simp
  grind

end Sorting

/-- The sorting arranges the places: it gives their order, or the places left over if there are
any. -/
theorem exists_arranged_toposort (hgraph : IsGraphOf sources graph) :
    ∃ order rest, Arranged sources (List.range graph.length) order rest ∧
      toposort graph = if rest.isEmpty then .ok order else .error rest := by
  have hnodup (targets : List Nat) (h : targets ∈ graph) : targets.Nodup := by
    obtain ⟨j, hj, rfl⟩ := List.getElem_of_mem h
    have htargets := hgraph.nodup j
    rwa [List.getD_eq_getElem?_getD, List.getElem?_eq_getElem hj] at htargets
  have hstart : unplaced graph.length (Sorting.start graph).order = List.range graph.length := by
    simp [unplaced, Sorting.start]
  have hcount : (unplaced graph.length (Sorting.start graph).order).length ≤ graph.length := by
    rw [hstart, List.length_range]
  obtain ⟨hkeeps, hready, more, horder, hmore⟩ := (Sorting.keeps_start hnodup).run hgraph hcount
  rw [hstart] at hmore
  have horder : (Sorting.run graph graph.length (.start graph)).order = more :=
    horder.trans (List.nil_append more)
  have hlength := length_unplaced hkeeps.nodup hkeeps.bounded
  rw [horder] at hmore hlength
  refine ⟨more, _, hmore, ?_⟩
  rw [toposort, hkeeps.placesWhere_eq hready, horder]
  by_cases hnone : unplaced graph.length more = []
  · rw [hnone, List.length_nil, Nat.zero_add] at hlength
    rw [if_pos hlength, hnone]
    rfl
  · have hleft : 0 < (unplaced graph.length more).length := List.length_pos_iff.2 hnone
    rw [if_neg (by omega), if_neg (by simpa using hnone)]

end

end SynthTable.Schema
