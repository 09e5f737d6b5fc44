import Mathlib.Data.List.Forall2
import Mathlib.Tactic.Choose
import SynthTable.Proofs.Domain.Shared
import SynthTable.Proofs.Table.Filling

/-!
# Batches are rows in order

The shares of the workers of a batch cover its indices, each once and in order
(`flatMap_indices_spans`). Where the values of a plan are drawn from the words of each row alone,
a row depends on nothing but its index (`generateOne_eq`), so that a batch holds the rows of its
indices, whatever the number of workers (`generate_eq`).
-/

namespace SynthTable

/-! ## Rows from words alone -/

/-- A step that only draws gives the same whatever is shared, and leaves that alone. -/
theorem World.IsDraw.anywhere {σ α : Type} {step : World σ → α × World σ} (h : IsDraw step)
    {source : σ} {shared : Shared} {a : α} {w : World σ} (hstep : step ⟨source, shared⟩ = (a, w))
    (shared' : Shared) : step ⟨source, shared'⟩ = (a, ⟨w.source, shared'⟩) := by
  obtain ⟨f, hf⟩ := h
  rw [hf] at hstep ⊢
  cases hstep
  rfl

namespace Plan

variable {σ : Type} [RandomSource σ]

/-- The values of the fields are drawn from the words of a row alone, or computed. -/
def DrawsFrom (σ : Type) [RandomSource σ] (fields : List Field) : Prop :=
  ∀ f ∈ fields, ∀ row, World.IsDraw (σ := σ) (f.valueFor row)

theorem isDraw_fill {fields : List Field} (h : DrawsFrom σ fields) (start : RowResult) :
    World.IsDraw (σ := σ) (fill fields start) := by
  induction fields generalizing start with
  | nil => exact ⟨fun s => (.ok start, s), fun _ => rfl⟩
  | cons f rest ih =>
    obtain ⟨value, hvalue⟩ := h f List.mem_cons_self start.row
    choose later hlater using ih fun g hg => h g (List.mem_cons_of_mem _ hg)
    refine ⟨fun s =>
      match value s with
      | (.error crash, s) => (.error crash, s)
      | (.ok outcome, s) => later (put start f.name outcome) s, fun w => ?_⟩
    rw [fill, hvalue, World.draw, World.draw]
    rcases value w.source with ⟨crash | (e | v), s⟩
    · rfl
    · exact hlater _ _
    · exact hlater _ _

theorem isDraw_generateRow {p : Plan} (h : DrawsFrom σ p.fields) :
    World.IsDraw (σ := σ) p.generateRow :=
  isDraw_fill h _

end Plan

namespace Batch

variable {p : Plan} {seed : UInt64}

theorem generateOne_eq (h : Plan.DrawsFrom Random.Stream p.fields) (index : Nat)
    (shared shared' : Shared) :
    generateOne p seed index shared' = ((generateOne p seed index shared).1, shared') := by
  rw [generateOne, (Plan.isDraw_generateRow h).anywhere
    (Eq.refl (p.generateRow ⟨Random.Stream.ofSeed (rowSeed seed (.ofNat index)), shared⟩)) shared']
  rfl

/-! ## Indices -/

/-- The indices of the rows of a worker. -/
def indices (span : Nat × Nat) : List Nat := List.range' span.1 span.2

/-- Workers with the same number of rows cover all of them. -/
theorem flatMap_indices_replicate (start others count : Nat) :
    (spans start (List.replicate others count)).flatMap indices =
      List.range' start (others * count) := by
  induction others generalizing start with
  | zero => rw [Nat.zero_mul]; rfl
  | succ others ih =>
    rw [List.replicate_succ, spans, List.flatMap_cons, ih, indices, List.range'_append_1,
      Nat.succ_mul, Nat.add_comm count]

/-- The shares of the workers cover the indices of a batch, each once and in order. -/
theorem flatMap_indices_spans (threads start count : Nat) :
    (spans start (shares threads count)).flatMap indices = List.range' start count := by
  rw [shares]
  by_cases hcount : count = 0
  · rw [if_pos hcount, hcount]
    rfl
  · rw [if_neg hcount]
    dsimp only
    rw [spans, List.flatMap_cons, flatMap_indices_replicate, indices, List.range'_append_1]
    have hworkers : 0 < min (max threads 1) count := by omega
    obtain ⟨others, hothers⟩ := Nat.exists_eq_succ_of_ne_zero (Nat.ne_of_gt hworkers)
    -- the even share of each worker and what is left over make up the count
    have hdivide := Nat.div_add_mod count (min (max threads 1) count)
    rw [hothers, Nat.succ_mul] at hdivide
    rw [hothers, Nat.succ_sub_one]
    congr 1
    omega

example : spans 5 (shares 3 8) = [(5, 4), (9, 2), (11, 2)] := by decide

/-! ## Rows of some indices -/

instance : Append Batch := ⟨fun a b => ⟨a.rows ++ b.rows, a.notices ++ b.notices⟩⟩

theorem append_def (a b : Batch) : a ++ b = ⟨a.rows ++ b.rows, a.notices ++ b.notices⟩ := rfl

theorem nil_append (b : Batch) : (⟨[], []⟩ : Batch) ++ b = b := rfl

theorem append_nil (b : Batch) : b ++ (⟨[], []⟩ : Batch) = b := by
  rw [append_def, List.append_nil, List.append_nil]

theorem append_assoc (a b c : Batch) : a ++ b ++ c = a ++ (b ++ c) := by
  simp only [append_def, List.append_assoc]

/-- The batch of a single row. -/
def ofRow (index : Nat) (result : RowResult) : Batch :=
  ⟨[result.row], result.errors.map (noticeOf index)⟩

/-- A batch and what follows it, unless the generation of one of them crashes. -/
def followedBy (first : Except Crash Batch) (later : Except Crash Batch) : Except Crash Batch :=
  match first with
  | .error crash => .error crash
  | .ok batch => later.map (batch ++ ·)

theorem nil_followedBy (later : Except Crash Batch) : followedBy (.ok ⟨[], []⟩) later = later := by
  cases later <;> rfl

theorem followedBy_nil (first : Except Crash Batch) : followedBy first (.ok ⟨[], []⟩) = first := by
  cases first with
  | error crash => rfl
  | ok batch => exact congrArg Except.ok (append_nil batch)

theorem followedBy_assoc (a b c : Except Crash Batch) :
    followedBy (followedBy a b) c = followedBy a (followedBy b c) := by
  cases a with
  | error crash => rfl
  | ok a =>
    cases b with
    | error crash => rfl
    | ok b =>
      cases c with
      | error crash => rfl
      | ok c => exact congrArg Except.ok (append_assoc a b c)

/-- The rows of some indices as a batch. -/
def collect (row : Nat → Except Crash RowResult) : List Nat → Except Crash Batch
  | [] => .ok ⟨[], []⟩
  | i :: rest => followedBy ((row i).map (ofRow i)) (collect row rest)

variable {row : Nat → Except Crash RowResult}

theorem collect_append (xs ys : List Nat) :
    collect row (xs ++ ys) = followedBy (collect row xs) (collect row ys) := by
  induction xs with
  | nil => rw [List.nil_append, collect, nil_followedBy]
  | cons i rest ih => rw [List.cons_append, collect, ih, collect, followedBy_assoc]

/-- Each row of a batch is that of its index. -/
theorem rows_of_collect {is : List Nat} {b : Batch} (h : collect row is = .ok b) :
    List.Forall₂ (fun i r => ∃ errors, row i = .ok ⟨r, errors⟩) is b.rows := by
  induction is generalizing b with
  | nil =>
    cases h
    exact .nil
  | cons i rest ih =>
    rw [collect] at h
    cases hrow : row i with
    | error crash =>
      rw [hrow] at h
      cases h
    | ok result =>
      rw [hrow] at h
      obtain ⟨later, hlater, hb⟩ := exists_ok_of_map h
      rw [← hb]
      exact .cons ⟨result.errors, hrow⟩ (ih hlater)

/-! ## Batches of plans that only draw -/

theorem generateShare_eq (h : Plan.DrawsFrom Random.Stream p.fields) (start count : Nat)
    (shared shared' : Shared) :
    generateShare p seed start count shared' =
      (collect (fun i => (generateOne p seed i shared).1) (List.range' start count), shared') := by
  induction count generalizing start with
  | zero => rfl
  | succ count ih =>
    rw [generateShare, generateOne_eq h start shared, List.range'_succ, collect]
    cases (generateOne p seed start shared).1 with
    | error crash => rfl
    | ok result =>
      dsimp only
      rw [ih]
      cases collect (fun i => (generateOne p seed i shared).1) (List.range' (start + 1) count) <;>
        rfl

theorem generateSpans_eq (h : Plan.DrawsFrom Random.Stream p.fields) (parts : List (Nat × Nat))
    (shared shared' : Shared) :
    generateSpans p seed parts shared' =
      (collect (fun i => (generateOne p seed i shared).1) (parts.flatMap indices), shared') := by
  induction parts with
  | nil => rfl
  | cons part rest ih =>
    rw [generateSpans, generateShare_eq h part.1 part.2 shared, List.flatMap_cons, collect_append,
      indices]
    cases collect (fun i => (generateOne p seed i shared).1) (List.range' part.1 part.2) with
    | error crash => rfl
    | ok batch =>
      dsimp only
      rw [ih]
      cases collect (fun i => (generateOne p seed i shared).1) (rest.flatMap indices) <;> rfl

/-- A batch holds the rows of its indices, whatever the number of workers. -/
theorem generate_eq (h : Plan.DrawsFrom Random.Stream p.fields) (threads start count : Nat)
    (shared shared' : Shared) :
    generate p threads seed start count shared' =
      (collect (fun i => (generateOne p seed i shared).1) (List.range' start count), shared') := by
  rw [generate, generateSpans_eq h _ shared, flatMap_indices_spans]

end Batch

end SynthTable
