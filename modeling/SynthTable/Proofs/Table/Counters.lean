import SynthTable.Proofs.Domain.Ranges
import SynthTable.Proofs.Order.NameMap
import SynthTable.Proofs.Table.Coverage

/-!
# Numbers that workers are given

All workers of a batch take the values of a counting column from one counter. Whichever of them takes
the next step, a step either leaves the counter alone or takes its next number for the row that the
worker has begun (`Worker.Holds.step`). So at any time the numbers given so far are the first ones
after those of earlier batches, each given once, and each worker holds its own in increasing order
(`Pool.Deals.run`). When all workers have handed in their rows, the batch shows these numbers
(`HandsIn.exists_dealt`).
-/

namespace SynthTable

/-! ## The counter of a column -/

/-- The number after which the values of a counting column start. -/
def Column.countsFrom (c : Column) : Int64 := (c.min?.bind Bound.int64?).getD 0

namespace Domain

theorem eq_counter_of_build {c : Column} {assets : AssetSource} {domain : Domain}
    (h : build c assets = .ok domain)
    (hkind : c.kind = .incrementInteger ∨ c.kind = .incrementLong) :
    domain = .counter c.countsFrom := by
  rcases hkind with hkind | hkind <;>
    · simp only [build, hkind] at h
      obtain ⟨n, hn, h⟩ := exists_ok_of_bind h
      cases h
      rw [eq_of_intBound hn, Column.countsFrom]

/-- A value of a column moves no counter of another name. -/
theorem counters_generate {σ : Type} [RandomSource σ] {column name : String} (hne : column ≠ name)
    (domain : Domain) (w : World σ) :
    (domain.generate column w).2.shared.counters.get? name = w.shared.counters.get? name := by
  cases domain with
  | counter start => exact (NameMap.get?_insert _ _ _ _).trans (if_neg (Ne.symm hne))
  | timestamp values =>
    rw [generate, World.draw]
    rcases values.draw w.source with ⟨n?, source⟩
    cases n? <;> rfl
  | date values min max useNow format? => cases useNow <;> rfl
  | _ => rfl

end Domain

namespace Shared

/-- The counter of a column that starts after `start` has given some numbers. -/
def Counted (name : String) (start : Int64) (given : Nat) (s : Shared) : Prop :=
  (s.counters.get? name).getD start = start + .ofNat given

theorem counted_zero {name : String} {s : Shared} (h : s.counters.get? name = none)
    (start : Int64) : s.Counted name start 0 := by
  rw [Counted, h]
  exact (Int64.add_zero start).symm

theorem Counted.count {name : String} {start : Int64} {given : Nat} {s : Shared}
    (h : s.Counted name start given) :
    (s.count name start).1 = start + .ofNat (given + 1) ∧
      (s.count name start).2.Counted name start (given + 1) := by
  have hnext : (s.counters.get? name).getD start + 1 = start + .ofNat (given + 1) := by
    rw [h, Int64.ofNat_add, ← Int64.add_assoc]
    rfl
  refine ⟨hnext, ?_⟩
  rw [Counted, Shared.count]
  dsimp only
  rw [NameMap.get?_insert, if_pos rfl]
  exact hnext

end Shared

namespace Field

variable {σ : Type} [RandomSource σ] {f : Field} {name : String} {start : Int64} {given : Nat}

/-- A field moves no counter of another name. -/
theorem counted_valueFor (hne : f.name ≠ name) (row : Row) {w : World σ}
    (h : w.shared.Counted name start given) :
    (f.valueFor row w).2.shared.Counted name start given := by
  rw [valueFor]
  split
  · exact h
  · rw [generate]
    rcases f.content with ⟨kind, domain, computation?⟩ | source
    · rw [Shared.Counted, ← Domain.counters_generate hne domain w] at h
      dsimp only
      rcases hgenerate : domain.generate f.name w with ⟨_ | v, later⟩ <;>
        · rw [hgenerate] at h
          exact h
    · exact h

/-- A counting field takes the next number. -/
theorem exists_valueFor_of_counter {kind : ColumnKind}
    (hcontent : f.content = .declared kind (.counter start) none) (row : Row) {w : World σ}
    (h : w.shared.Counted f.name start given) :
    ∃ later, f.valueFor row w = (.ok (.ok (.int (start + .ofNat (given + 1)))), later) ∧
      later.shared.Counted f.name start (given + 1) := by
  obtain ⟨hnumber, hcounted⟩ := h.count
  refine ⟨⟨w.source, _⟩, ?_, hcounted⟩
  rw [← hnumber, valueFor, isComputed, generate, hcontent]
  rfl

end Field

/-- The fields of a plan, the one of a name among them, which counts. -/
structure Plan.Counts (p : Plan) (name : String) (start : Int64) : Prop where
  nodup : (p.fields.map (·.name)).Nodup
  mem : name ∈ p.fields.map (·.name)
  content_eq : ∀ f ∈ p.fields, f.name = name →
    ∃ kind, f.content = .declared kind (.counter start) none

namespace Batch

/-! ## One worker -/

/-- The rows that a worker has to make, and the numbers that it has been given for them. -/
structure Portion where
  rows : Nat
  numbers : List Nat

/-- The number of rows that a worker hands in if it does not crash. -/
def Worker.share (k : Worker) : Nat :=
  k.batch.rows.length + ((if k.row?.isSome then 1 else 0) + k.ahead.length)

section

variable {p : Plan} {seed : UInt64} {name : String} {start : Int64} {given : Nat}

/-- A row shows a number of a counter that starts after `start`. -/
def Shows (name : String) (start : Int64) (row : Row) (n : Nat) : Prop :=
  row.get? name = some (.int (start + .ofNat n))

/-- A row that may have been begun has been given some numbers: one if its counting field is filled.
-/
inductive OpenRow.Holds (p : Plan) (name : String) (start : Int64) :
    Option OpenRow → List Nat → Prop
  | idle : Holds p name start none []
  | before {i source result fields} (hleft : p.Left fields result.row)
    (hname : name ∈ fields.map (·.name)) :
    Holds p name start (some ⟨i, source, result, fields⟩) []
  | after {i source result fields n} (hleft : p.Left fields result.row)
    (hname : name ∉ fields.map (·.name)) (hshows : Shows name start result.row n) :
    Holds p name start (some ⟨i, source, result, fields⟩) [n]

/-- A worker has a number of rows to make, and the rows that it has made or begun show the numbers
that it has been given, in order. -/
structure Worker.Holds (p : Plan) (name : String) (start : Int64) (k : Worker) (portion : Portion) :
    Prop where
  share_eq : k.share = portion.rows
  exists_numbers : ∃ done opened, portion.numbers = done ++ opened ∧
    List.Forall₂ (Shows name start) k.batch.rows done ∧ OpenRow.Holds p name start k.row? opened

theorem Worker.holds_ofSpan (p : Plan) (name : String) (start : Int64) (span : Nat × Nat) :
    (ofSpan span).Holds p name start ⟨span.2, []⟩ := by
  refine ⟨?_, [], [], rfl, .nil, .idle⟩
  show 0 + (0 + (indices span).length) = span.2
  rw [indices, List.length_range', Nat.zero_add, Nat.zero_add]

theorem Worker.share_step {k k' : Worker} {now later : Shared}
    (h : Step p seed k now (.ok k') later) : k'.share = k.share := by
  cases h with
  | begins => simp [share, Nat.add_comm]
  | fills => rfl
  | ends => simp [share, append_def, ofRow, Nat.add_assoc]

/-- A field of a row that is filled is given the next number if it counts, and none otherwise. -/
theorem OpenRow.Holds.fill {i : Nat} {source source' : Random.Stream} {result : RowResult}
    {f : Field} {rest : List Field} {opened : List Nat} (hplan : p.Counts name start)
    (h : Holds p name start (some ⟨i, source, result, f :: rest⟩) opened)
    {w : World Random.Stream} {now : Shared} (hnow : now.Counted name start given)
    {outcome : Except CellError Value}
    (hvalue : f.valueFor result.row ⟨source', now⟩ = (.ok outcome, w)) :
    ∃ numbers, numbers = List.range' (given + 1) numbers.length ∧
      w.shared.Counted name start (given + numbers.length) ∧
      Holds p name start (some ⟨i, w.source, Plan.put result f.name outcome, rest⟩)
        (opened ++ numbers) := by
  cases h with
  | before hleft hname =>
    by_cases hf : f.name = name
    · subst hf
      obtain ⟨kind, hcontent⟩ := hplan.content_eq f hleft.mem_fields rfl
      obtain ⟨later, hnumber, hcounted⟩ :=
        Field.exists_valueFor_of_counter hcontent result.row (w := ⟨source', now⟩) hnow
      rw [hvalue] at hnumber
      cases hnumber
      refine ⟨[given + 1], rfl, hcounted, .after (hleft.put _) (hleft.name_not_mem hplan.nodup) ?_⟩
      exact (hleft.get?_push hplan.nodup _ _).trans (if_pos rfl)
    · have hcounted := Field.counted_valueFor hf result.row (w := ⟨source', now⟩) hnow
      rw [hvalue] at hcounted
      refine ⟨[], rfl, hcounted, .before (hleft.put _) ?_⟩
      exact (List.mem_cons.1 hname).resolve_left (Ne.symm hf)
  | after hleft hname hshows =>
    rw [List.map_cons, List.mem_cons, not_or] at hname
    have hcounted := Field.counted_valueFor (Ne.symm hname.1) result.row (w := ⟨source', now⟩) hnow
    rw [hvalue] at hcounted
    refine ⟨[], rfl, hcounted, .after (hleft.put _) hname.2 ?_⟩
    rw [Shows, Plan.row_put, hleft.get?_push hplan.nodup, if_neg hname.1]
    exact hshows

theorem Worker.Holds.goesOn {k k' : Worker} {portion : Portion} (hplan : p.Counts name start)
    (h : k.Holds p name start portion) {now later : Shared}
    (hnow : now.Counted name start given) (hstep : Step p seed k now (.ok k') later) :
    ∃ numbers, numbers = List.range' (given + 1) numbers.length ∧
      later.Counted name start (given + numbers.length) ∧
      k'.Holds p name start ⟨portion.rows, portion.numbers ++ numbers⟩ := by
  have hshare := (share_step hstep).trans h.share_eq
  obtain ⟨done, opened, hnumbers, hdone, hopened⟩ := h.exists_numbers
  cases hstep with
  | begins =>
    cases hopened with
    | idle =>
      refine ⟨[], rfl, hnow, hshare, done, [], ?_, hdone, .before (.empty p) hplan.mem⟩
      rw [hnumbers, List.append_nil, List.append_nil]
  | fills hvalue =>
    obtain ⟨numbers, hnext, hcounted, hopened'⟩ := hopened.fill hplan hnow hvalue
    refine ⟨numbers, hnext, hcounted, hshare, done, opened ++ numbers, ?_, hdone, hopened'⟩
    rw [hnumbers, List.append_assoc]
  | ends =>
    cases hopened with
    | before hleft hname => exact absurd hname List.not_mem_nil
    | @after _ _ _ _ n hleft hname hshows =>
      refine ⟨[], rfl, hnow, hshare, done ++ [n], [], ?_, ?_, .idle⟩
      · rw [hnumbers, List.append_nil]
      · exact List.rel_append hdone (.cons hshows .nil)

/-- A worker that crashes is given no number. -/
theorem Worker.Holds.crash {k : Worker} {portion : Portion} {crash : Crash}
    (hplan : p.Counts name start) (h : k.Holds p name start portion) {now later : Shared}
    (hnow : now.Counted name start given) (hstep : Step p seed k now (.error crash) later) :
    later.Counted name start given := by
  obtain ⟨done, opened, -, -, hopened⟩ := h.exists_numbers
  cases hstep with
  | @crashes _ _ source result f rest _ _ _ _ hvalue =>
    have hother : f.name ≠ name := by
      rintro rfl
      cases hopened with
      | before hleft hname =>
        obtain ⟨kind, hcontent⟩ := hplan.content_eq f hleft.mem_fields rfl
        obtain ⟨later, hnumber, -⟩ :=
          Field.exists_valueFor_of_counter hcontent result.row (w := ⟨source, now⟩) hnow
        rw [hvalue] at hnumber
        cases hnumber
      | after hleft hname hshows => exact hname List.mem_cons_self
    have hcounted := Field.counted_valueFor hother result.row (w := ⟨source, now⟩) hnow
    rwa [hvalue] at hcounted

/-- A step of a worker gives it the next number for the row that it has begun, or none. -/
theorem Worker.Holds.step {k : Worker} {portion : Portion} (hplan : p.Counts name start)
    (h : k.Holds p name start portion) {now later : Shared} {k' : Except Crash Worker}
    (hnow : now.Counted name start given) (hstep : Step p seed k now k' later) :
    ∃ numbers, numbers = List.range' (given + 1) numbers.length ∧
      later.Counted name start (given + numbers.length) ∧
      ∀ made, k' = .ok made → made.Holds p name start ⟨portion.rows, portion.numbers ++ numbers⟩ := by
  cases k' with
  | error crash =>
    refine ⟨[], rfl, h.crash hplan hnow hstep, ?_⟩
    intro made hmade
    cases hmade
  | ok made =>
    obtain ⟨numbers, hnext, hcounted, hheld⟩ := h.goesOn hplan hnow hstep
    refine ⟨numbers, hnext, hcounted, ?_⟩
    rintro _ ⟨⟩
    exact hheld

/-! ## All workers of a batch -/

/-- The numbers that some workers have been given, worker by worker. -/
def dealt (portions : List Portion) : List Nat := portions.flatMap (·.numbers)

theorem perm_dealt (xs ys : List Portion) (portion : Portion) (numbers : List Nat) :
    (dealt (xs ++ ⟨portion.rows, portion.numbers ++ numbers⟩ :: ys)).Perm
      (dealt (xs ++ portion :: ys) ++ numbers) := by
  simp only [dealt, List.flatMap_append, List.flatMap_cons, List.append_assoc]
  exact ((List.perm_append_comm.append_left _).append_left _)

namespace Pool

/-- The workers of a pool hold the first numbers after `before`, each given to one of them, and each
worker holds its own in increasing order. -/
structure Deals (p : Plan) (name : String) (start : Int64) (before : Nat) (portions : List Portion)
    (pool : Pool) : Prop where
  workers : List.Forall₂ (fun worker portion => ∀ k : Worker, worker = .ok k →
    k.Holds p name start portion) pool.workers portions
  counted : pool.shared.Counted name start (before + (dealt portions).length)
  perm : (dealt portions).Perm (List.range' (before + 1) (dealt portions).length)
  increasing : ∀ portion ∈ portions, portion.numbers.Pairwise (· < ·)

variable {before : Nat} {portions : List Portion}

theorem deals_start (p : Plan) {now : Shared} (hnow : now.Counted name start before)
    (parts : List (Nat × Nat)) :
    Deals p name start before (parts.map fun part => ⟨part.2, []⟩) (.start parts now) := by
  have hnone : dealt (parts.map fun part => ⟨part.2, []⟩) = [] := by
    rw [dealt, List.flatMap_eq_nil_iff]
    intro portion hportion
    obtain ⟨part, -, rfl⟩ := List.mem_map.1 hportion
    rfl
  refine ⟨?_, ?_, ?_, ?_⟩
  · rw [Pool.start, List.forall₂_map_left_iff, List.forall₂_map_right_iff, List.forall₂_same]
    intro part _ k hk
    cases hk
    exact Worker.holds_ofSpan p name start part
  · rw [hnone]
    exact hnow
  · rw [hnone]
    exact .nil
  · intro portion hportion
    obtain ⟨part, -, rfl⟩ := List.mem_map.1 hportion
    exact .nil

theorem Deals.bounds {pool : Pool} (h : Deals p name start before portions pool) {n : Nat}
    (hn : n ∈ dealt portions) : before < n ∧ n ≤ before + (dealt portions).length := by
  have hmem := h.perm.mem_iff.1 hn
  rw [List.mem_range'_1] at hmem
  omega

/-- A step of a pool gives the next number to one of the workers, or none. -/
theorem Deals.step {pool pool' : Pool} (hplan : p.Counts name start)
    (h : Deals p name start before portions pool) (hstep : Step p seed pool pool') :
    ∃ portions', portions'.map (·.rows) = portions.map (·.rows) ∧
      Deals p name start before portions' pool' := by
  obtain ⟨hworker⟩ := hstep
  obtain ⟨xs, portion, ys, rfl, hxs, hk, hys⟩ := exists_append_cons_of_forall₂ h.workers
  obtain ⟨numbers, hnext, hcounted, hheld⟩ := (hk _ rfl).step hplan h.counted hworker
  have hdealt := perm_dealt xs ys portion numbers
  have hlength := hdealt.length_eq
  rw [List.length_append] at hlength
  refine ⟨_, ?_, List.rel_append hxs (.cons hheld hys), ?_, ?_, ?_⟩
  · rw [List.map_append, List.map_cons, List.map_append, List.map_cons]
  · rw [hlength, ← Nat.add_assoc]
    exact hcounted
  · rw [hlength, ← List.range'_append_1]
    refine hdealt.trans (h.perm.append ?_)
    rw [Nat.add_right_comm, ← hnext]
  · intro other hother
    rcases List.mem_append.1 hother with hother | hother
    · exact h.increasing other (List.mem_append_left _ hother)
    · rcases List.mem_cons.1 hother with rfl | hother
      · refine List.pairwise_append.2 ⟨h.increasing portion (by simp), ?_, ?_⟩
        · rw [hnext]
          exact List.pairwise_lt_range'
        · intro a ha b hb
          have hold := h.bounds (List.mem_flatMap.2 ⟨portion, by simp, ha⟩)
          rw [hnext, List.mem_range'_1] at hb
          omega
      · exact h.increasing other (List.mem_append_right _ (List.mem_cons_of_mem _ hother))

theorem Deals.run {pool pool' : Pool} (hplan : p.Counts name start)
    (h : Deals p name start before portions pool)
    (hrun : Relation.ReflTransGen (Step p seed) pool pool') :
    ∃ portions', portions'.map (·.rows) = portions.map (·.rows) ∧
      Deals p name start before portions' pool' := by
  induction hrun with
  | refl => exact ⟨portions, rfl, h⟩
  | tail _ hstep ih =>
    obtain ⟨middle, hrows, hdeals⟩ := ih
    obtain ⟨portions', hrows', hdeals'⟩ := hdeals.step hplan hstep
    exact ⟨portions', hrows'.trans hrows, hdeals'⟩

/-- What workers hand in shows the numbers that they have been given, one for each row. -/
theorem shows_of_gathered {workers : List (Except Crash Worker)} {b : Batch}
    (h : List.Forall₂ (fun worker portion => ∀ k : Worker, worker = .ok k →
      k.Holds p name start portion) workers portions)
    (hfinished : ∀ worker : Worker, .ok worker ∈ workers → worker.row? = none ∧ worker.ahead = [])
    (hgathered : gathered workers = .ok b) :
    List.Forall₂ (Shows name start) b.rows (dealt portions) ∧
      portions.map (·.numbers.length) = portions.map (·.rows) := by
  induction h generalizing b with
  | nil =>
    cases hgathered
    exact ⟨.nil, rfl⟩
  | @cons worker portion workers portions hheld _ ih =>
    cases worker with
    | error crash => cases hgathered
    | ok k =>
      obtain ⟨later, hlater, rfl⟩ := exists_ok_of_map hgathered
      obtain ⟨hshows, hlengths⟩ := ih (fun k hk => hfinished k (List.mem_cons_of_mem _ hk)) hlater
      obtain ⟨hshare, done, opened, hnumbers, hdone, hopened⟩ := hheld k rfl
      obtain ⟨hrow, hahead⟩ := hfinished k List.mem_cons_self
      rw [hrow] at hopened
      cases hopened with
      | idle =>
        rw [List.append_nil] at hnumbers
        rw [Worker.share, hrow, hahead] at hshare
        refine ⟨?_, ?_⟩
        · rw [dealt, List.flatMap_cons, hnumbers]
          exact List.rel_append hdone hshows
        · rw [List.map_cons, List.map_cons, hlengths, hnumbers, ← hdone.length_eq, ← hshare]
          rfl

end Pool

/-- Some rows show the numbers after `before`, each once and increasing along the rows of each
worker. -/
structure Dealt (name : String) (start : Int64) (threads before : Nat) (rows : List Row)
    (numbers : List (List Nat)) : Prop where
  shows : List.Forall₂ (Shows name start) rows numbers.flatten
  shares : numbers.map List.length = shares threads rows.length
  perm : numbers.flatten.Perm (List.range' (before + 1) rows.length)
  increasing : ∀ part ∈ numbers, part.Pairwise (· < ·)

theorem map_snd_spans (first : Nat) (counts : List Nat) :
    (spans first counts).map (·.2) = counts := by
  induction counts generalizing first with
  | nil => rfl
  | cons count rest ih => rw [spans, List.map_cons, ih]

/-- In whatever order the workers of a batch take their steps, the batch that they hand in shows the
next numbers of the counter. -/
theorem HandsIn.exists_dealt {threads first count before : Nat} {now later : Shared} {b : Batch}
    (hplan : p.Counts name start) (hnow : now.Counted name start before)
    (h : HandsIn p threads seed first count now (.ok b) later) :
    ∃ numbers, Dealt name start threads before b.rows numbers ∧
      later.Counted name start (before + b.rows.length) := by
  have hlength := h.covers.length_rows
  rw [List.length_range'] at hlength
  obtain ⟨pool, hrun, hfinished, houtcome, rfl⟩ := h
  obtain ⟨portions, hrows, hdeals⟩ := (Pool.deals_start p hnow _).run hplan hrun
  obtain ⟨hshows, hlengths⟩ := Pool.shows_of_gathered hdeals.workers hfinished houtcome
  have hcounted := hdeals.counted
  have hperm := hdeals.perm
  rw [← hshows.length_eq] at hcounted hperm
  rw [dealt, List.flatMap_def] at hshows hperm
  refine ⟨portions.map (·.numbers), ⟨hshows, ?_, hperm, ?_⟩, hcounted⟩
  · rw [List.map_map]
    refine hlengths.trans (hrows.trans ?_)
    rw [List.map_map, hlength]
    exact map_snd_spans first _
  · intro part hpart
    obtain ⟨portion, hportion, rfl⟩ := List.mem_map.1 hpart
    exact hdeals.increasing portion hportion

end

end Batch

end SynthTable
