import Mathlib.Data.Fintype.Card
import Mathlib.Data.List.Nodup
import Mathlib.Data.Set.Finite.Basic
import Mathlib.Logic.Relation
import SynthTable.Proofs.Schema.Sorting

/-!
# The order of columns

The report on the references of a schema arranges the columns: again and again it takes the first of
those left that reads none of those left (`Arranged`). This file says what that gives, by induction
on the steps: what is placed and what is left are the columns (`Arranged.perm`), each column placed
comes after those that it reads (`Arranged.arranges`) and no other such order is earlier
(`Arranged.eq_or_lex`), while each column left reads one of those left (`Arranged.stuck`), so that
there is a cycle among them (`exists_cycle`).

The main result (`order?_exact`) is about names: there is an order exactly if the references have no
cycle, and then it is the first of all orders in which columns come after those that they read.
-/

namespace SynthTable.Schema

/-! ## Places -/

section

variable (sources : List (List Nat))

/-- A list of the places in which each comes after those that it reads. -/
structure Arranges (places order : List Nat) : Prop where
  perm : order.Perm places
  follows : ∀ before i after, order = before ++ i :: after →
    ∀ j ∈ places, ReadsPlace sources i j → j ∈ before

end

section

variable {sources : List (List Nat)} {places order rest : List Nat}

/-- What is put into the order and what is left are the places. -/
theorem Arranged.perm (h : Arranged sources places order rest) : (order ++ rest).Perm places := by
  induction h with
  | stops h => exact .refl _
  | next hi hfree hfirst hrest ih =>
    rw [List.cons_append]
    exact (ih.cons _).trans (List.perm_cons_erase hi).symm

/-- Each place that is left reads one of those left. -/
theorem Arranged.stuck (h : Arranged sources places order rest) :
    ∀ i ∈ rest, ∃ j ∈ rest, ReadsPlace sources i j := by
  induction h with
  | stops h => exact h
  | next hi hfree hfirst hrest ih => exact ih

/-- A place that reads none of the places may come before others that come after those that they
read. -/
theorem follows_cons {i : Nat} (hfree : ∀ j ∈ places, ¬ ReadsPlace sources i j)
    (hfollows : ∀ before k after, order = before ++ k :: after →
      ∀ j ∈ places.erase i, ReadsPlace sources k j → j ∈ before) :
    ∀ before k after, i :: order = before ++ k :: after →
      ∀ j ∈ places, ReadsPlace sources k j → j ∈ before := by
  intro before k after hsplit j hj hreads
  rcases List.cons_eq_append_iff.1 hsplit with ⟨rfl, hcons⟩ | ⟨tail, rfl, htail⟩
  · obtain ⟨rfl, -⟩ := List.cons.inj hcons
    exact absurd hreads (hfree j hj)
  · by_cases hji : j = i
    · rw [hji]
      exact List.mem_cons_self
    · have hlater := hfollows tail k after htail j ((List.mem_erase_of_ne hji).2 hj) hreads
      exact List.mem_cons_of_mem _ hlater

/-- An order begins with a place that reads none of the places, and goes on with an order of the
others. -/
theorem arranges_cons_iff (hnodup : places.Nodup) {i : Nat} :
    Arranges sources places (i :: order) ↔
      i ∈ places ∧ (∀ j ∈ places, ¬ ReadsPlace sources i j) ∧
        Arranges sources (places.erase i) order := by
  constructor
  · rintro ⟨hperm, hfollows⟩
    obtain ⟨hi, hothers⟩ := List.cons_perm_iff_perm_erase.1 hperm
    refine ⟨hi, ?_, hothers, ?_⟩
    · intro j hj hreads
      have hnone := hfollows [] i order rfl j hj hreads
      simp at hnone
    · intro before k after hsplit j hj hreads
      obtain ⟨hne, hj⟩ := (List.Nodup.mem_erase_iff hnodup).1 hj
      have hbefore := hfollows (i :: before) k after (by rw [hsplit, List.cons_append]) j hj hreads
      exact (List.mem_cons.1 hbefore).resolve_left hne
  · rintro ⟨hi, hfree, hperm, hfollows⟩
    exact ⟨List.cons_perm_iff_perm_erase.2 ⟨hi, hperm⟩, follows_cons hfree hfollows⟩

/-- If nothing is left, each place comes after those that it reads. -/
theorem Arranged.arranges (h : Arranged sources places order []) (hnodup : places.Nodup) :
    Arranges sources places order := by
  generalize hrest : ([] : List Nat) = rest at h
  induction h with
  | stops h =>
    subst hrest
    exact ⟨.refl _, by simp⟩
  | next hi hfree hfirst _ ih =>
    exact (arranges_cons_iff hnodup).2 ⟨hi, hfree, ih (hnodup.erase _) hrest⟩

/-- Every other order in which places come after those that they read is a later one. -/
theorem Arranged.eq_or_lex (h : Arranged sources places order []) (hnodup : places.Nodup)
    {other : List Nat} (hother : Arranges sources places other) :
    other = order ∨ List.Lex (· < ·) order other := by
  generalize hrest : ([] : List Nat) = rest at h
  induction h generalizing other with
  | stops h =>
    subst hrest
    exact Or.inl (List.perm_nil.1 hother.perm)
  | @next places i order rest hi hfree hfirst _ ih =>
    cases other with
    | nil =>
      have hnone : places = [] := List.nil_perm.1 hother.perm
      rw [hnone] at hi
      cases hi
    | cons k others =>
      obtain ⟨hk, hfreek, hothers⟩ := (arranges_cons_iff hnodup).1 hother
      rcases Nat.lt_or_eq_of_le (hfirst k hk hfreek) with hlt | rfl
      · exact Or.inr (.rel hlt)
      · rcases ih (hnodup.erase i) hothers hrest with rfl | hlex
        · exact Or.inl rfl
        · exact Or.inr (.cons hlex)

end

/-- If each thing in a list comes after those that it is related to, paths lead from later things to
earlier ones. -/
theorem idxOf_lt_of_transGen {α : Type} [DecidableEq α] {r : α → α → Prop} {order : List α}
    (hfollows : ∀ before x after, order = before ++ x :: after → ∀ y, r x y → y ∈ before) {x y : α}
    (hx : x ∈ order) (hpath : Relation.TransGen r x y) :
    y ∈ order ∧ order.idxOf y < order.idxOf x := by
  have hstep : ∀ {x y : α}, x ∈ order → r x y → y ∈ order ∧ order.idxOf y < order.idxOf x := by
    intro x y hx hxy
    obtain ⟨before, after, hsplit, hfirst⟩ := List.eq_append_cons_of_mem hx
    have hy := hfollows before x after hsplit y hxy
    rw [hsplit, List.idxOf_append_of_mem hy, List.idxOf_append_of_notMem hfirst]
    exact ⟨List.mem_append_left _ hy, Nat.lt_add_right _ (List.idxOf_lt_length_of_mem hy)⟩
  induction hpath with
  | single hxy => exact hstep hx hxy
  | tail _ hyz ih => exact ⟨(hstep ih.1 hyz).1, Nat.lt_trans (hstep ih.1 hyz).2 ih.2⟩

/-- If each of some things is related to one of them, they have a cycle. -/
theorem exists_cycle {α : Type} {r : α → α → Prop} {xs : List α} (hne : xs ≠ [])
    (hstuck : ∀ x ∈ xs, ∃ y ∈ xs, r x y) : ∃ x ∈ xs, Relation.TransGen r x x := by
  by_contra hnone
  -- without a cycle, to be reached is a strict order on finitely many things, and so has no descent
  let reached : {x // x ∈ xs} → {x // x ∈ xs} → Prop := fun y x => Relation.TransGen r x.1 y.1
  have htrans : IsTrans _ reached := ⟨fun _ _ _ hab hbc => hbc.trans hab⟩
  have hirrefl : Std.Irrefl reached := ⟨fun x hx => hnone ⟨x.1, x.2, hx⟩⟩
  have hfinite : Finite {x // x ∈ xs} := (List.finite_toSet xs).to_subtype
  have hwf : WellFounded reached := Finite.wellFounded_of_trans_of_irrefl reached
  have hdescent : ∀ _ : {x // x ∈ xs}, False := by
    intro x
    induction x using hwf.induction with
    | _ x ih =>
      obtain ⟨y, hy, hxy⟩ := hstuck x.1 x.2
      exact ih ⟨y, hy⟩ (.single hxy)
  obtain ⟨first, hfirst⟩ := List.exists_mem_of_ne_nil xs hne
  exact hdescent ⟨first, hfirst⟩

/-! ## Names -/

/-- The column of one name reads that of another. -/
def Reads (s : Schema) (reader source : String) : Prop :=
  ∃ c ∈ s.columns, c.name = reader ∧ source ∈ c.references ∧ source ∈ s.columns.map (·.name)

/-- An order of all columns in which each comes after those that it reads. -/
structure Respects (s : Schema) (order : List String) : Prop where
  perm : order.Perm (s.columns.map (·.name))
  follows : ∀ before n after, order = before ++ n :: after → ∀ m, s.Reads n m → m ∈ before

/-- The places of some columns in the order of declaration. -/
def placesOf (s : Schema) (names : List String) : List Nat :=
  names.map fun n => (s.columns.map (·.name)).idxOf n

/-- In an order that respects the references, they lead from later columns to earlier ones, so that
they have no cycle. -/
theorem Respects.acyclic {s : Schema} {order : List String} (h : s.Respects order) (n : String) :
    ¬ Relation.TransGen s.Reads n n := by
  intro hcycle
  obtain ⟨m, ⟨c, hc, hname, -⟩, -⟩ := Relation.TransGen.head'_iff.1 hcycle
  have hn : n ∈ order := h.perm.mem_iff.2 (hname ▸ List.mem_map_of_mem hc)
  exact Nat.lt_irrefl _ (idxOf_lt_of_transGen h.follows hn hcycle).2

/-! ### Names and places -/

section

variable {s : Schema}

theorem lastPositionFrom_eq {columns : List Column} (hnodup : (columns.map (·.name)).Nodup)
    (name : String) (index : Nat) :
    lastPositionFrom name index columns =
      (columns.findIdx? (·.name = name)).map (index + ·) := by
  induction columns generalizing index with
  | nil => rfl
  | cons c rest ih =>
    obtain ⟨hnew, hrest⟩ := List.nodup_cons.1 hnodup
    rw [lastPositionFrom, ih hrest, List.findIdx?_cons]
    by_cases hname : c.name = name
    · have hnone : rest.findIdx? (·.name = name) = none := by
        rw [List.findIdx?_eq_none_iff]
        intro d hd
        have hne : d.name ≠ name := fun heq =>
          hnew (List.mem_map.2 ⟨d, hd, heq.trans hname.symm⟩)
        simpa using hne
      simp [hnone, hname]
    · cases rest.findIdx? (·.name = name) with
      | none => simp [hname]
      | some i =>
        simp [hname]
        omega

theorem position?_eq_some_iff (hnodup : (s.columns.map (·.name)).Nodup) {n : String} {i : Nat} :
    s.position? n = some i ↔ (s.columns.map (·.name))[i]? = some n := by
  rw [position?, List.findIdx?_eq_some_iff_getElem, List.getElem?_eq_some_iff]
  constructor
  · rintro ⟨hi, hname, -⟩
    exact ⟨by simpa using hi, by simpa using hname⟩
  · rintro ⟨hi, hname⟩
    have hlength : i < s.columns.length := by simpa using hi
    refine ⟨hlength, by simpa using hname, ?_⟩
    intro j hji hsame
    have hj : j < (s.columns.map (·.name)).length := by
      rw [List.length_map]
      omega
    have heq : (s.columns.map (·.name))[j] = (s.columns.map (·.name))[i] := by
      rw [hname]
      simpa using hsame
    have hij := (List.Nodup.getElem_inj_iff hnodup).1 heq
    omega

/-- The places that a column reads are those of the columns whose names it reads. -/
theorem mem_sourcesOf_iff (hnodup : (s.columns.map (·.name)).Nodup) {c : Column} {j : Nat} :
    j ∈ s.sourcesOf c ↔ ∃ n ∈ c.references, (s.columns.map (·.name))[j]? = some n := by
  rw [sourcesOf, List.mem_filterMap]
  refine exists_congr fun n => and_congr_right fun _ => ?_
  rw [lastPositionFrom_eq hnodup, ← position?_eq_some_iff hnodup, position?]
  simp

theorem getElem?_nameAt {i : Nat} (hi : i < s.columns.length) :
    (s.columns.map (·.name))[i]? = some (s.nameAt i) := by
  simp [nameAt, hi]

theorem nameAt_of_getElem? {i : Nat} {n : String} (h : (s.columns.map (·.name))[i]? = some n) :
    s.nameAt i = n := by
  rw [List.getElem?_map] at h
  rw [nameAt, h]
  rfl

theorem map_nameAt_range (s : Schema) :
    (List.range s.columns.length).map s.nameAt = s.columns.map (·.name) := by
  refine List.ext_getElem? fun i => ?_
  by_cases hi : i < s.columns.length
  · rw [getElem?_nameAt hi]
    simp [hi]
  · simp [hi]

theorem idxOf_of_getElem? (hnodup : (s.columns.map (·.name)).Nodup) {n : String} {i : Nat}
    (h : (s.columns.map (·.name))[i]? = some n) : (s.columns.map (·.name)).idxOf n = i := by
  obtain ⟨hi, rfl⟩ := List.getElem?_eq_some_iff.1 h
  exact hnodup.idxOf_getElem i hi

theorem nameAt_idxOf {n : String} (hn : n ∈ s.columns.map (·.name)) :
    s.nameAt ((s.columns.map (·.name)).idxOf n) = n :=
  nameAt_of_getElem? (List.getElem?_idxOf hn)

theorem placesOf_map_nameAt (hnodup : (s.columns.map (·.name)).Nodup) {order : List Nat}
    (horder : ∀ i ∈ order, i < s.columns.length) : s.placesOf (order.map s.nameAt) = order := by
  rw [placesOf, List.map_map]
  conv_rhs => rw [← List.map_id order]
  refine List.map_congr_left fun i hi => ?_
  exact idxOf_of_getElem? hnodup (getElem?_nameAt (horder i hi))

theorem map_nameAt_placesOf {names : List String} (hnames : ∀ n ∈ names, n ∈ s.columns.map (·.name)) :
    (s.placesOf names).map s.nameAt = names := by
  rw [placesOf, List.map_map]
  conv_rhs => rw [← List.map_id names]
  exact List.map_congr_left fun n hn => nameAt_idxOf (hnames n hn)

theorem placesOf_names (hnodup : (s.columns.map (·.name)).Nodup) :
    s.placesOf (s.columns.map (·.name)) = List.range s.columns.length := by
  rw [← map_nameAt_range]
  exact placesOf_map_nameAt hnodup fun i hi => List.mem_range.1 hi

/-- A place reads another one as its column reads the other column. -/
theorem readsPlace_iff (hnodup : (s.columns.map (·.name)).Nodup) {i j : Nat}
    (hi : i < s.columns.length) :
    ReadsPlace s.sources i j ↔
      ∃ m, s.Reads (s.nameAt i) m ∧ (s.columns.map (·.name))[j]? = some m := by
  have hsources : s.sources.getD i [] = s.sourcesOf s.columns[i] := by
    simp [sources, hi]
  have hname : s.columns[i].name = s.nameAt i := by
    simp [nameAt, hi]
  rw [ReadsPlace, hsources, mem_sourcesOf_iff hnodup]
  constructor
  · rintro ⟨m, hm, hj⟩
    have hdeclared := List.mem_of_getElem? hj
    exact ⟨m, ⟨s.columns[i], List.getElem_mem hi, hname, hm, hdeclared⟩, hj⟩
  · rintro ⟨m, ⟨c, hc, hsame, hm, -⟩, hj⟩
    have hcolumn : c = s.columns[i] :=
      List.inj_on_of_nodup_map hnodup hc (List.getElem_mem hi) (hsame.trans hname.symm)
    rw [hcolumn] at hm
    exact ⟨m, hm, hj⟩

/-- Where places come after those that they read, so do their names. -/
theorem follows_map_nameAt (hnodup : (s.columns.map (·.name)).Nodup) {order : List Nat}
    (horder : ∀ i ∈ order, i < s.columns.length)
    (hfollows : ∀ before i after, order = before ++ i :: after →
      ∀ j ∈ List.range s.columns.length, ReadsPlace s.sources i j → j ∈ before) :
    ∀ before n after, order.map s.nameAt = before ++ n :: after →
      ∀ m, s.Reads n m → m ∈ before := by
  intro before n after hsplit m hreads
  obtain ⟨places, more, rfl, rfl, hmore⟩ := List.map_eq_append_iff.1 hsplit
  obtain ⟨i, later, rfl, rfl, -⟩ := List.map_eq_cons_iff.1 hmore
  have hi : i < s.columns.length := horder i (by simp)
  obtain ⟨c, hc, hname, hm, hdeclared⟩ := id hreads
  obtain ⟨j, hj⟩ := List.getElem?_of_mem hdeclared
  have hbound : j < s.columns.length := by
    have := (List.getElem?_eq_some_iff.1 hj).1
    simpa using this
  have hplace := hfollows places i later rfl j (List.mem_range.2 hbound)
    ((readsPlace_iff hnodup hi).2 ⟨m, hreads, hj⟩)
  exact List.mem_map.2 ⟨j, hplace, nameAt_of_getElem? hj⟩

/-- An order of the places gives an order of the names. -/
theorem Arranges.respects (hnodup : (s.columns.map (·.name)).Nodup) {order : List Nat}
    (h : Arranges s.sources (List.range s.columns.length) order) :
    s.Respects (order.map s.nameAt) := by
  refine ⟨?_, follows_map_nameAt hnodup (fun i hi => ?_) h.follows⟩
  · rw [← map_nameAt_range]
    exact h.perm.map _
  · exact List.mem_range.1 (h.perm.mem_iff.1 hi)

/-- An order of the names gives an order of the places. -/
theorem Respects.arranges (hnodup : (s.columns.map (·.name)).Nodup) {order : List String}
    (h : s.Respects order) :
    Arranges s.sources (List.range s.columns.length) (s.placesOf order) := by
  refine ⟨?_, ?_⟩
  · rw [← placesOf_names hnodup]
    exact h.perm.map _
  · intro before i after hsplit j hj hreads
    obtain ⟨names, more, rfl, rfl, hmore⟩ := List.map_eq_append_iff.1 hsplit
    obtain ⟨n, later, rfl, rfl, -⟩ := List.map_eq_cons_iff.1 hmore
    have hn : n ∈ s.columns.map (·.name) := h.perm.mem_iff.1 (by simp)
    have hi : (s.columns.map (·.name)).idxOf n < s.columns.length := by
      simpa using List.idxOf_lt_length_of_mem hn
    obtain ⟨m, hm, hplace⟩ := (readsPlace_iff hnodup hi).1 hreads
    rw [nameAt_idxOf hn] at hm
    have hbefore := h.follows names n later rfl m hm
    exact List.mem_map.2 ⟨m, hbefore, idxOf_of_getElem? hnodup hplace⟩

/-! ## The report -/

/-- The report is made of an order of the places and of those that are left. -/
theorem exists_arranged (s : Schema) :
    ∃ order rest, Arranged s.sources (List.range s.columns.length) order rest ∧
      s.referenceReport.order? = (if rest.isEmpty then some (order.map s.nameAt) else none) ∧
      s.referenceReport.cycle? = (if rest.isEmpty then none else some (rest.map s.nameAt)) := by
  obtain ⟨order, rest, harranged, htoposort⟩ := exists_arranged_toposort s.isGraphOf_graph
  rw [length_graph] at harranged
  refine ⟨order, rest, harranged, ?_⟩
  simp only [referenceReport, htoposort]
  cases rest.isEmpty <;> exact ⟨rfl, rfl⟩

/-- The order of the report respects the references, and every other one that does comes later. -/
theorem respects_of_order? (hnodup : (s.columns.map (·.name)).Nodup) {order : List String}
    (h : s.referenceReport.order? = some order) :
    s.Respects order ∧ ∀ other, s.Respects other →
      other = order ∨ List.Lex (· < ·) (s.placesOf order) (s.placesOf other) := by
  obtain ⟨places, rest, harranged, horder, -⟩ := s.exists_arranged
  rw [h] at horder
  cases rest with
  | cons i rest => simp at horder
  | nil =>
    have hsame : order = places.map s.nameAt := by simpa using horder
    have harranges := harranged.arranges List.nodup_range
    have hplaces : s.placesOf order = places := by
      rw [hsame]
      exact placesOf_map_nameAt hnodup fun i hi => List.mem_range.1 (harranges.perm.mem_iff.1 hi)
    refine ⟨hsame ▸ harranges.respects hnodup, ?_⟩
    intro other hother
    rcases harranged.eq_or_lex List.nodup_range (hother.arranges hnodup) with heq | hlex
    · left
      rw [hsame, ← heq, map_nameAt_placesOf fun n hn => hother.perm.mem_iff.1 hn]
    · right
      rwa [hplaces]

/-- Each column that is left reads one of those left. -/
theorem Arranged.stuck_names (hnodup : (s.columns.map (·.name)).Nodup) {order rest : List Nat}
    (h : Arranged s.sources (List.range s.columns.length) order rest) :
    ∀ n ∈ rest.map s.nameAt, ∃ m ∈ rest.map s.nameAt, s.Reads n m := by
  intro n hn
  obtain ⟨k, hk, rfl⟩ := List.mem_map.1 hn
  have hbound : k < s.columns.length :=
    List.mem_range.1 (h.perm.mem_iff.1 (List.mem_append_right _ hk))
  obtain ⟨j, hj, hreads⟩ := h.stuck k hk
  obtain ⟨m, hm, hplace⟩ := (readsPlace_iff hnodup hbound).1 hreads
  exact ⟨m, List.mem_map.2 ⟨j, hj, nameAt_of_getElem? hplace⟩, hm⟩

/-- Without an order some columns are left, and each of them reads one of them. -/
theorem exists_left_of_order?_eq_none (hnodup : (s.columns.map (·.name)).Nodup)
    (h : s.referenceReport.order? = none) :
    ∃ n rest, s.referenceReport.cycle? = some (n :: rest) ∧
      ∀ reader ∈ n :: rest, ∃ source ∈ n :: rest, s.Reads reader source := by
  obtain ⟨places, rest, harranged, horder, hcycle⟩ := s.exists_arranged
  rw [h] at horder
  cases rest with
  | nil => simp at horder
  | cons i rest =>
    exact ⟨s.nameAt i, rest.map s.nameAt, by simpa using hcycle, harranged.stuck_names hnodup⟩

/-- There is an order exactly if no column comes to read itself. -/
theorem isSome_order?_iff (hnodup : (s.columns.map (·.name)).Nodup) :
    s.referenceReport.order?.isSome ↔ ∀ n, ¬ Relation.TransGen s.Reads n n := by
  constructor
  · intro hsome n
    obtain ⟨order, horder⟩ := Option.isSome_iff_exists.1 hsome
    exact (respects_of_order? hnodup horder).1.acyclic n
  · intro hacyclic
    by_contra hnone
    obtain ⟨n, rest, -, hleft⟩ :=
      exists_left_of_order?_eq_none hnodup (Option.not_isSome_iff_eq_none.1 hnone)
    obtain ⟨m, -, hcycle⟩ := exists_cycle (by simp) hleft
    exact hacyclic m hcycle

/-- If no two columns have the same name, the report gives an order exactly if the references have
no cycle, where a column that reads itself makes one. The order has all columns, each after those
that it reads, and comes before every other such order when columns are compared by their places of
declaration. Without an order, the columns left over are given instead, at least one, and each of them
reads one of them. -/
theorem order?_exact {s : Schema} (hnodup : (s.columns.map (·.name)).Nodup) :
    (s.referenceReport.order?.isSome ↔ ∀ n, ¬ Relation.TransGen s.Reads n n) ∧
    (∀ order, s.referenceReport.order? = some order → s.Respects order ∧
      ∀ other, s.Respects other →
        other = order ∨ List.Lex (· < ·) (s.placesOf order) (s.placesOf other)) ∧
    (s.referenceReport.order? = none → ∃ n rest, s.referenceReport.cycle? = some (n :: rest) ∧
      ∀ reader ∈ n :: rest, ∃ source ∈ n :: rest, s.Reads reader source) :=
  ⟨isSome_order?_iff hnodup, fun _ => respects_of_order? hnodup,
    exists_left_of_order?_eq_none hnodup⟩

end

/-- Two columns that read the one between them. -/
def crossed : Schema :=
  ⟨defaultVersion, none,
    [{ Column.plain "c" .float with derivation? := some (.formula "$b * 2") },
      Column.plain "b" .float,
      { Column.plain "a" .float with derivation? := some (.formula "$b + 1") }]⟩

/-- A column that reads itself, and one that reads it. -/
def looped : Schema :=
  ⟨defaultVersion, none,
    [{ Column.plain "a" .string with derivation? := some (.injection "${b}!") },
      { Column.plain "b" .string with derivation? := some (.injection "${b}?") }]⟩

theorem order?_exact_crossed :
    ((crossed.columns.map (·.name)).Nodup ∧
      crossed.referenceReport.order? = some ["b", "c", "a"] ∧
      crossed.Respects ["b", "c", "a"] ∧ ∀ n, ¬ Relation.TransGen crossed.Reads n n) ∧
    (looped.columns.map (·.name)).Nodup ∧
      ¬ ∀ n, ¬ Relation.TransGen looped.Reads n n := by
  have hcrossed : (crossed.columns.map (·.name)).Nodup := by decide
  have hlooped : (looped.columns.map (·.name)).Nodup := by decide
  have horder : crossed.referenceReport.order? = some ["b", "c", "a"] := by decide +kernel
  have hnone : looped.referenceReport.order? = none := by decide +kernel
  obtain ⟨hsome, hfirst, -⟩ := order?_exact hcrossed
  refine ⟨⟨hcrossed, horder, (hfirst _ horder).1, hsome.1 (by rw [horder]; rfl)⟩, hlooped, ?_⟩
  rw [← (order?_exact hlooped).1, hnone]
  exact Bool.false_ne_true

end SynthTable.Schema
