import SynthTable.Proofs.Table.Workers

/-!
# Batches cover their indices

Counters and the clock are moved by every row, so that a row may depend on what was generated before
it. What it always keeps to is the words of its own index (`IsRow`). In whatever order the workers of
a batch take their steps, they hand in one such row for each of its indices, in order, with the
notices about it (`HandsIn.covers`).
-/

namespace SynthTable

/-- Fields filled one after the other. Between two of them, other workers may have moved what rows
share. -/
inductive Plan.Fills : List Field → Random.Stream → RowResult → RowResult → Prop
  | nil {source result} : Fills [] source result result
  | cons {f rest source shared outcome w start result}
    (hvalue : Field.valueFor f start.row ⟨source, shared⟩ = (.ok outcome, w))
    (hrest : Fills rest w.source (put start f.name outcome) result) :
    Fills (f :: rest) source start result

namespace Batch

/-- A row of a plan made of the words of an index, with the errors of its cells. -/
def IsRow (p : Plan) (seed : UInt64) (index : Nat) (result : RowResult) : Prop :=
  Plan.Fills p.fields (Random.Stream.ofSeed (rowSeed seed (.ofNat index))) ⟨.empty p.layout, []⟩
    result

/-- A batch of a row for each of some indices, in their order, with the notices about them. -/
inductive Covers (p : Plan) (seed : UInt64) : List Nat → Batch → Prop
  | nil : Covers p seed [] ⟨[], []⟩
  | cons {i indices result b} (hrow : IsRow p seed i result) (hrest : Covers p seed indices b) :
    Covers p seed (i :: indices) (ofRow i result ++ b)

variable {p : Plan} {seed : UInt64} {is js : List Nat} {a b : Batch}

theorem Covers.append (ha : Covers p seed is a) (hb : Covers p seed js b) :
    Covers p seed (is ++ js) (a ++ b) := by
  induction ha with
  | nil => exact hb
  | cons hrow _ ih =>
    rw [append_assoc]
    exact .cons hrow ih

theorem Covers.length_rows (h : Covers p seed is b) : b.rows.length = is.length := by
  induction h with
  | nil => rfl
  | cons _ _ ih => exact congrArg (· + 1) ih

/-! ## What workers may hand in -/

/-- A worker may hand in a batch: what it has made, then the row it has begun and those after it. -/
inductive Worker.MayGive (p : Plan) (seed : UInt64) : Worker → Batch → Prop
  | idle {batch ahead later} (hlater : Covers p seed ahead later) :
    MayGive p seed ⟨batch, none, ahead⟩ (batch ++ later)
  | busy {batch ahead later i source start fields result}
    (hrow : Plan.Fills fields source start result) (hlater : Covers p seed ahead later) :
    MayGive p seed ⟨batch, some ⟨i, source, start, fields⟩, ahead⟩
      (batch ++ (ofRow i result ++ later))

/-- What a worker may hand in after a step, it may hand in before it. -/
theorem Worker.MayGive.of_step {k k' : Worker} {now later : Shared}
    (h : Worker.Step p seed k now (.ok k') later) (hgive : k'.MayGive p seed b) :
    k.MayGive p seed b := by
  cases h with
  | begins =>
    cases hgive with
    | busy hrow hlater => exact .idle (.cons hrow hlater)
  | fills hvalue =>
    cases hgive with
    | busy hrow hlater => exact .busy (.cons hvalue hrow) hlater
  | ends =>
    cases hgive with
    | idle hlater =>
      rw [append_assoc]
      exact .busy .nil hlater

namespace Pool

/-- Some workers, none of which has crashed, may hand in a batch. -/
inductive MayGive (p : Plan) (seed : UInt64) : List (Except Crash Worker) → Batch → Prop
  | nil : MayGive p seed [] ⟨[], []⟩
  | cons {k : Worker} {workers first rest} (hfirst : k.MayGive p seed first)
    (hrest : MayGive p seed workers rest) : MayGive p seed (.ok k :: workers) (first ++ rest)

variable {xs ys : List (Except Crash Worker)}

theorem mayGive_append_iff :
    MayGive p seed (xs ++ ys) b ↔
      ∃ first rest, MayGive p seed xs first ∧ MayGive p seed ys rest ∧ b = first ++ rest := by
  induction xs generalizing b with
  | nil =>
    constructor
    · exact fun h => ⟨_, b, .nil, h, rfl⟩
    · rintro ⟨first, rest, hfirst, hrest, rfl⟩
      cases hfirst
      exact hrest
  | cons worker others ih =>
    constructor
    · intro h
      cases h with
      | cons hworker hothers =>
        obtain ⟨first, rest, hfirst, hrest, rfl⟩ := ih.1 hothers
        exact ⟨_, rest, .cons hworker hfirst, hrest, (append_assoc _ _ _).symm⟩
    · rintro ⟨first, rest, hfirst, hrest, rfl⟩
      cases hfirst with
      | cons hworker hothers =>
        rw [append_assoc]
        exact .cons hworker (ih.2 ⟨_, rest, hothers, hrest, rfl⟩)

/-- What workers may hand in after a step, they may hand in before it. -/
theorem mayGive_of_step {pool pool' : Pool} (h : Step p seed pool pool')
    (hgive : MayGive p seed pool'.workers b) : MayGive p seed pool.workers b := by
  obtain ⟨hworker⟩ := h
  obtain ⟨first, rest, hfirst, hrest, rfl⟩ := mayGive_append_iff.1 hgive
  cases hrest with
  | cons hk hothers =>
    exact mayGive_append_iff.2 ⟨first, _, hfirst, .cons (hk.of_step hworker) hothers, rfl⟩

theorem mayGive_of_run {pool pool' : Pool} (h : Relation.ReflTransGen (Step p seed) pool pool')
    (hgive : MayGive p seed pool'.workers b) : MayGive p seed pool.workers b := by
  induction h with
  | refl => exact hgive
  | tail _ hstep ih => exact ih (mayGive_of_step hstep hgive)

/-- Workers that are done may hand in what they do hand in. -/
theorem mayGive_of_finished {workers : List (Except Crash Worker)}
    (hfinished : ∀ worker : Worker, .ok worker ∈ workers → worker.row? = none ∧ worker.ahead = [])
    (h : gathered workers = .ok b) : MayGive p seed workers b := by
  induction workers generalizing b with
  | nil =>
    cases h
    exact .nil
  | cons worker rest ih =>
    cases worker with
    | error crash => cases h
    | ok k =>
      obtain ⟨later, hlater, rfl⟩ := exists_ok_of_map h
      have hrest := ih (fun k hk => hfinished k (List.mem_cons_of_mem _ hk)) hlater
      rcases k with ⟨batch, row?, ahead⟩
      obtain ⟨hrow, hahead⟩ := hfinished _ List.mem_cons_self
      dsimp only at hrow hahead
      subst hrow hahead
      have hidle : Worker.MayGive p seed ⟨batch, none, []⟩ (batch ++ ⟨[], []⟩) := .idle .nil
      rw [append_nil] at hidle
      exact .cons hidle hrest

theorem covers_of_mayGive_start {parts : List (Nat × Nat)}
    (h : MayGive p seed (parts.map fun part => .ok (Worker.ofSpan part)) b) :
    Covers p seed (parts.flatMap indices) b := by
  induction parts generalizing b with
  | nil =>
    cases h
    exact .nil
  | cons part rest ih =>
    cases h with
    | cons hfirst hrest =>
      cases hfirst with
      | idle hlater => exact hlater.append (ih hrest)

end Pool

/-- In whatever order the workers of a batch take their steps, the batch that they hand in covers its
indices, in their order. -/
theorem HandsIn.covers {threads start count : Nat} {now later : Shared}
    (h : HandsIn p threads seed start count now (.ok b) later) :
    Covers p seed (List.range' start count) b := by
  obtain ⟨pool, hrun, hfinished, houtcome, -⟩ := h
  rw [← flatMap_indices_spans threads start count]
  exact Pool.covers_of_mayGive_start
    (Pool.mayGive_of_run hrun (Pool.mayGive_of_finished hfinished houtcome))

end Batch

end SynthTable
