import SynthTable.Proofs.Schema.Arrangement

/-!
# The columns that no order can place

Where the references of a schema have a cycle, the report lists the columns that are left over.
Each of these reads one of them, and so comes to read a column on a cycle (`exists_onCycle`). A
column that is placed comes after all that it reads, so that no path of references leads from it to
a cycle (`Leaves.not_reachesCycle`).

The main result (`cycle?_exact`) is that the columns listed are those that come to read a column on
a cycle. Columns that are on no cycle themselves are among them as soon as they read one that is.
-/

namespace SynthTable.Schema

/-- The column of the name comes to read itself. -/
def OnCycle (s : Schema) (n : String) : Prop := Relation.TransGen s.Reads n n

/-- The column of the name is one on a cycle, or comes to read one. -/
def ReachesCycle (s : Schema) (n : String) : Prop :=
  ∃ m, Relation.ReflTransGen s.Reads n m ∧ s.OnCycle m

/-- Of the columns of a schema, some are placed and the others are left. -/
structure Leaves (s : Schema) (placed left : List String) : Prop where
  perm : (placed ++ left).Perm (s.columns.map (·.name))
  sublist : left.Sublist (s.columns.map (·.name))
  follows : ∀ before n after, placed = before ++ n :: after → ∀ m, s.Reads n m → m ∈ before
  stuck : ∀ n ∈ left, ∃ m ∈ left, s.Reads n m

variable {s : Schema} {placed left : List String} {n : String}

/-! ## What is left -/

section

variable {sources : List (List Nat)} {places order rest : List Nat}

/-- The places that are left are in the order of declaration. -/
theorem Arranged.sublist (h : Arranged sources places order rest) : rest.Sublist places := by
  induction h with
  | stops h => exact .refl _
  | next hi hfree hfirst hrest ih => exact ih.trans List.erase_sublist

/-- A place that is put into the order comes after those that it reads, also if places are left. -/
theorem Arranged.follows (h : Arranged sources places order rest) :
    ∀ before i after, order = before ++ i :: after →
      ∀ j ∈ places, ReadsPlace sources i j → j ∈ before := by
  induction h with
  | stops h => simp
  | next hi hfree hfirst hrest ih => exact follows_cons hfree ih

end

theorem exists_leaves (hnodup : (s.columns.map (·.name)).Nodup) : ∃ placed left,
    s.Leaves placed left ∧
      s.referenceReport.cycle? = if left.isEmpty then none else some left := by
  obtain ⟨order, rest, harranged, -, hcycle⟩ := s.exists_arranged
  refine ⟨order.map s.nameAt, rest.map s.nameAt, ⟨?_, ?_, ?_, harranged.stuck_names hnodup⟩, ?_⟩
  · rw [← List.map_append, ← map_nameAt_range]
    exact harranged.perm.map _
  · rw [← map_nameAt_range]
    exact harranged.sublist.map _
  · refine follows_map_nameAt hnodup (fun i hi => ?_) harranged.follows
    exact List.mem_range.1 (harranged.perm.mem_iff.1 (List.mem_append_left _ hi))
  · rw [hcycle, List.isEmpty_map]

/-! ## Paths to cycles -/

/-- If each of some things is related to one of them, each comes to one on a cycle. -/
theorem exists_onCycle {α : Type} {r : α → α → Prop} {xs : List α}
    (hstuck : ∀ x ∈ xs, ∃ y ∈ xs, r x y) {x : α} (hx : x ∈ xs) :
    ∃ y, Relation.ReflTransGen r x y ∧ Relation.TransGen r y y := by
  classical
  -- those of the things that a path leads to from `x` are stuck among themselves
  let reached := xs.filter fun y => Relation.ReflTransGen r x y
  have hreached {y : α} : y ∈ reached ↔ y ∈ xs ∧ Relation.ReflTransGen r x y := by
    simp [reached]
  have hself : x ∈ reached := hreached.2 ⟨hx, .refl⟩
  obtain ⟨y, hy, hcycle⟩ := exists_cycle (List.ne_nil_of_mem hself) fun y hy => by
    obtain ⟨hmem, hpath⟩ := hreached.1 hy
    obtain ⟨z, hz, hyz⟩ := hstuck y hmem
    exact ⟨z, hreached.2 ⟨hz, hpath.tail hyz⟩, hyz⟩
  exact ⟨y, (hreached.1 hy).2, hcycle⟩

/-- From a column that is placed no path leads to a cycle. -/
theorem Leaves.not_reachesCycle (h : s.Leaves placed left) (hn : n ∈ placed) :
    ¬ s.ReachesCycle n := by
  rintro ⟨m, hpath, hcycle⟩
  have hm : m ∈ placed := by
    rcases Relation.reflTransGen_iff_eq_or_transGen.1 hpath with rfl | hpath
    · exact hn
    · exact (idxOf_lt_of_transGen h.follows hn hpath).1
  exact Nat.lt_irrefl _ (idxOf_lt_of_transGen h.follows hm hcycle).2

theorem mem_names_of_reachesCycle (h : s.ReachesCycle n) : n ∈ s.columns.map (·.name) := by
  obtain ⟨m, hpath, hcycle⟩ := h
  obtain ⟨k, hreads, -⟩ := Relation.TransGen.head'_iff.1 (.trans_right hpath hcycle)
  obtain ⟨c, hc, hname, -⟩ := hreads
  exact hname ▸ List.mem_map_of_mem hc

theorem Leaves.mem_left_iff (h : s.Leaves placed left) : n ∈ left ↔ s.ReachesCycle n := by
  constructor
  · intro hn
    exact exists_onCycle h.stuck hn
  · intro hn
    have hmem := h.perm.mem_iff.2 (mem_names_of_reachesCycle hn)
    exact (List.mem_append.1 hmem).resolve_left fun hplaced => h.not_reachesCycle hplaced hn

/-- If no two columns have the same name and the report lists columns that are left over, then these
are, in the order of declaration, the columns that are on a cycle or come to read a column on one.
They are the columns on a cycle alone exactly if every column that reads one on a cycle is itself on
one. -/
theorem cycle?_exact {names : List String} (hnodup : (s.columns.map (·.name)).Nodup)
    (h : s.referenceReport.cycle? = some names) :
    names.Sublist (s.columns.map (·.name)) ∧ (∀ n, n ∈ names ↔ s.ReachesCycle n) ∧
      ((∀ n, n ∈ names ↔ s.OnCycle n) ↔
        ∀ n m, s.Reads n m → s.OnCycle m → s.OnCycle n) := by
  obtain ⟨placed, left, hleaves, hcycle⟩ := exists_leaves hnodup
  obtain rfl : left = names := by
    rw [hcycle] at h
    split at h
    · cases h
    · exact Option.some.inj h
  have hmem {n : String} : n ∈ left ↔ s.ReachesCycle n := hleaves.mem_left_iff
  refine ⟨hleaves.sublist, fun n => hmem, ?_, ?_⟩
  · intro honly n m hreads honCycle
    exact (honly n).1 (hmem.2 ⟨m, .single hreads, honCycle⟩)
  · intro hback n
    rw [hmem]
    constructor
    · rintro ⟨m, hpath, honCycle⟩
      -- along the path, from the cycle back to the column
      induction hpath using Relation.ReflTransGen.head_induction_on with
      | refl => exact honCycle
      | head hreads _ ih => exact hback _ _ hreads ih
    · intro honCycle
      exact ⟨n, .refl, honCycle⟩

/-- Two columns that read each other, one that they read, and one that reads them. -/
def tangled : Schema :=
  ⟨defaultVersion, none,
    [Column.plain "x" .integer,
      { Column.plain "a" .string with derivation? := some (.injection "${b}") },
      { Column.plain "b" .string with derivation? := some (.formula "$x + $a") },
      { Column.plain "c" .string with derivation? := some (.injection "${a}${x}") }]⟩

theorem not_onCycle_of_unread {n : String} (h : ∀ c ∈ s.columns, n ∉ c.references) :
    ¬ s.OnCycle n := by
  intro hcycle
  obtain ⟨m, -, c, hc, -, hreads, -⟩ := Relation.TransGen.tail'_iff.1 hcycle
  exact h c hc hreads

theorem cycle?_exact_tangled :
    ((tangled.columns.map (·.name)).Nodup ∧
      tangled.referenceReport.cycle? = some ["a", "b", "c"]) ∧
    tangled.ReachesCycle "c" ∧ ¬ tangled.ReachesCycle "x" := by
  have hnodup : (tangled.columns.map (·.name)).Nodup := by decide
  have hcycle : tangled.referenceReport.cycle? = some ["a", "b", "c"] := by decide +kernel
  obtain ⟨-, hmem, -⟩ := cycle?_exact hnodup hcycle
  exact ⟨⟨hnodup, hcycle⟩, (hmem "c").1 (by decide), fun h => absurd ((hmem "x").2 h) (by decide)⟩

/-- The column that reads a cycle from outside is listed with those on it. -/
theorem not_onCycle_tangled :
    (tangled.columns.map (·.name)).Nodup ∧
      (∃ names, tangled.referenceReport.cycle? = some names ∧ "c" ∈ names) ∧
      ¬ tangled.OnCycle "c" := by
  refine ⟨by decide, ⟨["a", "b", "c"], by decide +kernel, by decide⟩, not_onCycle_of_unread ?_⟩
  decide +kernel

end SynthTable.Schema
