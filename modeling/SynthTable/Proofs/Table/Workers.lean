import Mathlib.Logic.Relation
import SynthTable.Proofs.Table.Batches

/-!
# Workers in any order

The workers of a batch run at the same time. Each fills its rows field by field, and between two of
its steps the others may have moved the counters and the clock. A pool of workers takes one step of
any of them at a time, so its runs are all the interleavings. Where the values of a plan are drawn
from the words of each row alone, what a worker will hand in is settled from the start
(`promise_step`), so that every run of the pool ends with the batch that one worker after another
would make (`outcome_of_finished`). For other plans that is one of the batches that the workers may
hand in (`exists_handsIn_generate`).
-/

namespace SynthTable.Batch

/-- A row that a worker has begun. -/
structure OpenRow where
  index : Nat
  source : Random.Stream
  result : RowResult
  /-- The fields that are left. -/
  fields : List Field

/-- The row of an index before its first field. -/
def OpenRow.start (p : Plan) (seed : UInt64) (index : Nat) : OpenRow :=
  ⟨index, Random.Stream.ofSeed (rowSeed seed (.ofNat index)), ⟨.empty p.layout, []⟩, p.fields⟩

/-- A worker: what it has made, the row it has begun, and the indices of the rows after it. -/
structure Worker where
  batch : Batch
  row? : Option OpenRow
  ahead : List Nat

/-- A worker before its first row. -/
def Worker.ofSpan (span : Nat × Nat) : Worker := ⟨⟨[], []⟩, none, indices span⟩

/-- A step of a worker, with what all rows share before and after it. -/
inductive Worker.Step (p : Plan) (seed : UInt64) :
    Worker → Shared → Except Crash Worker → Shared → Prop
  | begins {batch i ahead shared} :
    Step p seed ⟨batch, none, i :: ahead⟩ shared (.ok ⟨batch, some (.start p seed i), ahead⟩) shared
  | fills {batch i source result f rest ahead shared outcome w}
    (h : Field.valueFor f result.row ⟨source, shared⟩ = (.ok outcome, w)) :
    Step p seed ⟨batch, some ⟨i, source, result, f :: rest⟩, ahead⟩ shared
      (.ok ⟨batch, some ⟨i, w.source, Plan.put result f.name outcome, rest⟩, ahead⟩) w.shared
  | crashes {batch i source result f rest ahead shared crash w}
    (h : Field.valueFor f result.row ⟨source, shared⟩ = (.error crash, w)) :
    Step p seed ⟨batch, some ⟨i, source, result, f :: rest⟩, ahead⟩ shared (.error crash) w.shared
  | ends {batch i source result ahead shared} :
    Step p seed ⟨batch, some ⟨i, source, result, []⟩, ahead⟩ shared
      (.ok ⟨batch ++ ofRow i result, none, ahead⟩) shared

/-- The workers of a batch, some of which may have crashed, and what all rows share. -/
structure Pool where
  workers : List (Except Crash Worker)
  shared : Shared

namespace Pool

/-- The workers before their first rows. -/
def start (parts : List (Nat × Nat)) (shared : Shared) : Pool :=
  ⟨parts.map fun part => .ok (.ofSpan part), shared⟩

/-- One of the workers takes a step. -/
inductive Step (p : Plan) (seed : UInt64) : Pool → Pool → Prop
  | mk {before after worker shared worker' shared'}
    (h : Worker.Step p seed worker shared worker' shared') :
    Step p seed ⟨before ++ .ok worker :: after, shared⟩ ⟨before ++ worker' :: after, shared'⟩

/-- Every worker has handed in its rows or has crashed. -/
def Finished (pool : Pool) : Prop :=
  ∀ worker : Worker, .ok worker ∈ pool.workers → worker.row? = none ∧ worker.ahead = []

/-- What some workers hand in, in their order: all rows, or the crash of the first worker that has
crashed. -/
def gathered : List (Except Crash Worker) → Except Crash Batch
  | [] => .ok ⟨[], []⟩
  | worker :: rest => followedBy (worker.map (·.batch)) (gathered rest)

/-- What the workers hand in. -/
def outcome (pool : Pool) : Except Crash Batch := gathered pool.workers

end Pool

/-! ## What a worker will hand in -/

section

variable {p : Plan} {seed : UInt64} {shared : Shared}

/-- The row that comes of a begun one if nothing else moves what rows share. -/
def OpenRow.promise (shared : Shared) (r : OpenRow) : Except Crash Batch :=
  (Plan.fill r.fields r.result ⟨r.source, shared⟩).1.map (ofRow r.index)

/-- What a worker hands in if nothing else moves what rows share. -/
def Worker.promise (p : Plan) (seed : UInt64) (shared : Shared) (k : Worker) : Except Crash Batch :=
  let later := collect (fun i => (generateOne p seed i shared).1) k.ahead
  match k.row? with
  | none => followedBy (.ok k.batch) later
  | some r => followedBy (.ok k.batch) (followedBy (r.promise shared) later)

/-- The fields left of the row of a worker only draw. -/
def Worker.Draws (k : Worker) : Prop :=
  ∀ r, k.row? = some r → Plan.DrawsFrom Random.Stream r.fields

/-- No step changes what a worker will hand in, whatever the other workers have done. -/
theorem Worker.promise_step {k : Worker} {now later : Shared} {k' : Except Crash Worker}
    (h : Worker.Step p seed k now k' later) (hdraws : k.Draws) :
    k'.bind (Worker.promise p seed shared) = k.promise p seed shared := by
  cases h with
  | begins => rfl
  | fills hvalue =>
    have hdraw := (hdraws _ rfl _ List.mem_cons_self _).anywhere hvalue shared
    simp only [Except.bind, promise, OpenRow.promise]
    rw [Plan.fill_cons_of_ok hdraw]
  | crashes hvalue =>
    have hdraw := (hdraws _ rfl _ List.mem_cons_self _).anywhere hvalue shared
    simp only [Except.bind, promise, OpenRow.promise]
    rw [Plan.fill_cons_of_crash hdraw]
    rfl
  | ends => exact followedBy_assoc (.ok _) (.ok _) _

theorem Worker.draws_step {k k' : Worker} {now later : Shared}
    (h : Worker.Step p seed k now (.ok k') later) (hdraws : k.Draws)
    (hplan : Plan.DrawsFrom Random.Stream p.fields) : k'.Draws := by
  intro r hr
  cases h with
  | begins =>
    cases hr
    exact hplan
  | fills hvalue =>
    cases hr
    exact fun g hg => hdraws _ rfl g (List.mem_cons_of_mem _ hg)
  | ends => cases hr

theorem Worker.promise_of_finished {k : Worker} (h : k.row? = none ∧ k.ahead = []) (p : Plan)
    (seed : UInt64) (shared : Shared) : k.promise p seed shared = .ok k.batch := by
  rw [promise, h.1, h.2]
  exact followedBy_nil _

namespace Pool

/-- What some workers will hand in. -/
def promises (p : Plan) (seed : UInt64) (shared : Shared) :
    List (Except Crash Worker) → Except Crash Batch
  | [] => .ok ⟨[], []⟩
  | worker :: rest =>
    followedBy (worker.bind (Worker.promise p seed shared)) (promises p seed shared rest)

theorem promises_append (xs ys : List (Except Crash Worker)) :
    promises p seed shared (xs ++ ys) =
      followedBy (promises p seed shared xs) (promises p seed shared ys) := by
  induction xs with
  | nil => rw [List.nil_append, promises, nil_followedBy]
  | cons worker rest ih => rw [List.cons_append, promises, ih, promises, followedBy_assoc]

theorem promises_of_finished {workers : List (Except Crash Worker)}
    (h : ∀ worker : Worker, .ok worker ∈ workers → worker.row? = none ∧ worker.ahead = []) :
    promises p seed shared workers = gathered workers := by
  induction workers with
  | nil => rfl
  | cons worker rest ih =>
    rw [promises, gathered, ih fun k hk => h k (List.mem_cons_of_mem _ hk)]
    cases worker with
    | error crash => rfl
    | ok k =>
      rw [Except.bind, Worker.promise_of_finished (h k List.mem_cons_self)]
      rfl

theorem promises_start (parts : List (Nat × Nat)) :
    promises p seed shared (parts.map fun part => .ok (Worker.ofSpan part)) =
      collect (fun i => (generateOne p seed i shared).1) (parts.flatMap indices) := by
  induction parts with
  | nil => rfl
  | cons part rest ih =>
    rw [List.map_cons, promises, ih, List.flatMap_cons, collect_append]
    exact congrArg (followedBy · _) (nil_followedBy _)

/-- What holds of a pool at any time: its begun rows only draw, and it will hand in a batch that was
settled before the first step. -/
structure Bound (p : Plan) (seed : UInt64) (shared : Shared) (batch : Except Crash Batch)
    (pool : Pool) : Prop where
  draws : ∀ worker : Worker, .ok worker ∈ pool.workers → worker.Draws
  promises_eq : promises p seed shared pool.workers = batch

variable {batch : Except Crash Batch}

theorem Bound.step {pool pool' : Pool} (hbound : Bound p seed shared batch pool)
    (hplan : Plan.DrawsFrom Random.Stream p.fields) (h : Step p seed pool pool') :
    Bound p seed shared batch pool' := by
  obtain ⟨hworker⟩ := h
  have hdraws := hbound.draws _ (List.mem_append_right _ List.mem_cons_self)
  refine ⟨fun k hk => ?_, ?_⟩
  · rcases List.mem_append.1 hk with hk | hk
    · exact hbound.draws k (List.mem_append_left _ hk)
    · rcases List.mem_cons.1 hk with rfl | hk
      · exact Worker.draws_step hworker hdraws hplan
      · exact hbound.draws k (List.mem_append_right _ (List.mem_cons_of_mem _ hk))
  · rw [← hbound.promises_eq, promises_append, promises_append, promises, promises,
      Worker.promise_step hworker hdraws]
    rfl

theorem Bound.run {pool pool' : Pool} (hbound : Bound p seed shared batch pool)
    (hplan : Plan.DrawsFrom Random.Stream p.fields)
    (h : Relation.ReflTransGen (Step p seed) pool pool') : Bound p seed shared batch pool' := by
  induction h with
  | refl => exact hbound
  | tail _ hstep ih => exact ih.step hplan hstep

theorem bound_start (p : Plan) (seed : UInt64) (parts : List (Nat × Nat)) (shared now : Shared) :
    Bound p seed shared (collect (fun i => (generateOne p seed i shared).1) (parts.flatMap indices))
      (start parts now) := by
  refine ⟨fun k hk r hr => ?_, promises_start parts⟩
  obtain ⟨part, -, hpart⟩ := List.mem_map.1 hk
  cases hpart
  cases hr

/-- In whatever order the workers of a batch take their steps, they hand in the batch that is made by
one worker after another. -/
theorem outcome_of_finished (hplan : Plan.DrawsFrom Random.Stream p.fields)
    {threads first count : Nat} {now : Shared} {pool : Pool}
    (h : Relation.ReflTransGen (Step p seed) (start (spans first (shares threads count)) now) pool)
    (hfinished : pool.Finished) (shared : Shared) :
    pool.outcome = (generate p threads seed first count shared).1 := by
  have hbound := (bound_start p seed (spans first (shares threads count)) shared now).run hplan h
  rw [outcome, ← promises_of_finished hfinished, hbound.promises_eq,
    generate_eq hplan threads first count shared, flatMap_indices_spans]

end Pool

/-! ## Every run comes to an end -/

/-- The number of steps that a worker has to take. -/
def Worker.work (p : Plan) (k : Worker) : Nat :=
  (k.row?.map (·.fields.length + 1)).getD 0 + k.ahead.length * (p.fields.length + 2)

/-- The number of steps that a worker has to take unless it has crashed. -/
def Worker.workLeft (p : Plan) : Except Crash Worker → Nat
  | .error _ => 0
  | .ok k => k.work p

theorem Worker.work_step {k : Worker} {now later : Shared} {k' : Except Crash Worker}
    (h : Worker.Step p seed k now k' later) : Worker.workLeft p k' < k.work p := by
  cases h with
  | @begins batch i ahead =>
    have hahead : (ahead.length + 1) * (p.fields.length + 2) =
        ahead.length * (p.fields.length + 2) + (p.fields.length + 2) := Nat.succ_mul _ _
    simp only [workLeft, work, OpenRow.start, Option.map_some, Option.getD_some, Option.map_none,
      Option.getD_none, List.length_cons]
    omega
  | fills _ =>
    simp only [workLeft, work, Option.map_some, Option.getD_some, List.length_cons]
    omega
  | crashes _ =>
    simp only [workLeft, work, Option.map_some, Option.getD_some]
    omega
  | ends =>
    simp only [workLeft, work, Option.map_some, Option.getD_some, Option.map_none,
      Option.getD_none]
    omega

/-- A worker that has something to do can do it. -/
theorem Worker.exists_step {k : Worker} (h : ¬(k.row? = none ∧ k.ahead = [])) (p : Plan)
    (seed : UInt64) (now : Shared) : ∃ k' later, Worker.Step p seed k now k' later := by
  rcases k with ⟨batch, row?, ahead⟩
  cases row? with
  | none =>
    cases ahead with
    | nil => exact absurd ⟨rfl, rfl⟩ h
    | cons i ahead => exact ⟨_, _, .begins⟩
  | some r =>
    rcases r with ⟨i, source, result, fields⟩
    cases fields with
    | nil => exact ⟨_, _, .ends⟩
    | cons f rest =>
      rcases hvalue : f.valueFor result.row ⟨source, now⟩ with ⟨crash | outcome, w⟩
      · exact ⟨_, _, .crashes hvalue⟩
      · exact ⟨_, _, .fills hvalue⟩

namespace Pool

/-- The number of steps that some workers have to take. -/
def workOf (p : Plan) : List (Except Crash Worker) → Nat
  | [] => 0
  | worker :: rest => Worker.workLeft p worker + workOf p rest

theorem workOf_append (xs ys : List (Except Crash Worker)) :
    workOf p (xs ++ ys) = workOf p xs + workOf p ys := by
  induction xs with
  | nil => rw [List.nil_append, workOf, Nat.zero_add]
  | cons worker rest ih => rw [List.cons_append, workOf, workOf, ih, Nat.add_assoc]

/-- The number of steps that the workers have to take. -/
def work (p : Plan) (pool : Pool) : Nat := workOf p pool.workers

theorem work_step {pool pool' : Pool} (h : Step p seed pool pool') : pool'.work p < pool.work p := by
  obtain ⟨hworker⟩ := h
  have hless : Worker.workLeft p _ < Worker.workLeft p (.ok _) := Worker.work_step hworker
  rw [work, work, workOf_append, workOf_append, workOf, workOf]
  omega

/-- No run of a pool goes on for ever. -/
theorem wellFounded_step (p : Plan) (seed : UInt64) : WellFounded (flip (Step p seed)) :=
  Subrelation.wf (fun h => work_step h) (measure (work p)).wf

/-- From any pool the workers can go on until all have handed in their rows or crashed. -/
theorem exists_finished (p : Plan) (seed : UInt64) (pool : Pool) :
    ∃ final, Relation.ReflTransGen (Step p seed) pool final ∧ final.Finished := by
  induction hwork : pool.work p using Nat.strongRecOn generalizing pool with
  | ind n ih =>
    by_cases hfinished : pool.Finished
    · exact ⟨pool, .refl, hfinished⟩
    · simp only [Finished, not_forall] at hfinished
      obtain ⟨k, hk, hbusy⟩ := hfinished
      obtain ⟨before, after, hworkers⟩ := List.append_of_mem hk
      obtain ⟨k', later, hworker⟩ := Worker.exists_step hbusy p seed pool.shared
      have hstep : Step p seed pool ⟨before ++ k' :: after, later⟩ := by
        rcases pool with ⟨workers, now⟩
        cases hworkers
        exact .mk hworker
      obtain ⟨final, hrun, hfinal⟩ := ih _ (hwork ▸ work_step hstep) _ rfl
      exact ⟨final, .head hstep hrun, hfinal⟩

end Pool

/-! ## One worker after another -/

section

variable {start count : Nat} {now later : Shared} {crash : Crash} {result : RowResult}
  {part : Nat × Nat} {rest : List (Nat × Nat)} {made : Batch}

theorem generateShare_of_crash (h : generateOne p seed start now = (.error crash, later)) :
    generateShare p seed start (count + 1) now = (.error crash, later) := by
  rw [generateShare, h]

theorem generateShare_of_ok (h : generateOne p seed start now = (.ok result, later)) :
    generateShare p seed start (count + 1) now =
      (followedBy (.ok (ofRow start result)) (generateShare p seed (start + 1) count later).1,
        (generateShare p seed (start + 1) count later).2) := by
  rw [generateShare, h]
  dsimp only
  rcases generateShare p seed (start + 1) count later with ⟨crash | made, last⟩ <;> rfl

theorem generateSpans_of_crash (h : generateShare p seed part.1 part.2 now = (.error crash, later)) :
    generateSpans p seed (part :: rest) now = (.error crash, later) := by
  rw [generateSpans, h]

theorem generateSpans_of_ok (h : generateShare p seed part.1 part.2 now = (.ok made, later)) :
    generateSpans p seed (part :: rest) now =
      (followedBy (.ok made) (generateSpans p seed rest later).1,
        (generateSpans p seed rest later).2) := by
  rw [generateSpans, h]
  dsimp only
  rcases generateSpans p seed rest later with ⟨crash | others, last⟩ <;> rfl

end

namespace Pool

variable {after : List (Except Crash Worker)}

theorem run_prepend {pool final : Pool} (before : List (Except Crash Worker))
    (h : Relation.ReflTransGen (Step p seed) pool final) :
    Relation.ReflTransGen (Step p seed) ⟨before ++ pool.workers, pool.shared⟩
      ⟨before ++ final.workers, final.shared⟩ := by
  induction h with
  | refl => exact .refl
  | tail _ hstep ih =>
    obtain ⟨hworker⟩ := hstep
    refine ih.tail ?_
    dsimp only
    rw [← List.append_assoc, ← List.append_assoc]
    exact .mk hworker

theorem step_first {k : Worker} {k' : Except Crash Worker} {now later : Shared}
    (h : Worker.Step p seed k now k' later) :
    Step p seed ⟨.ok k :: after, now⟩ ⟨k' :: after, later⟩ :=
  @Step.mk p seed [] after k now k' later h

/-- The first of some workers fills the row that it has begun. -/
theorem run_row (after : List (Except Crash Worker)) (batch : Batch) (index : Nat)
    (ahead : List Nat) (fields : List Field) (source : Random.Stream) (start : RowResult)
    (now : Shared) :
    let row := Plan.fill fields start ⟨source, now⟩
    Relation.ReflTransGen (Step p seed)
      ⟨.ok ⟨batch, some ⟨index, source, start, fields⟩, ahead⟩ :: after, now⟩
      ⟨row.1.map (fun result => ⟨batch ++ ofRow index result, none, ahead⟩) :: after,
        row.2.shared⟩ := by
  induction fields generalizing source start now with
  | nil => exact .single (step_first .ends)
  | cons f rest ih =>
    rcases hvalue : f.valueFor start.row ⟨source, now⟩ with ⟨crash | outcome, w⟩
    · rw [Plan.fill_cons_of_crash hvalue]
      exact .single (step_first (.crashes hvalue))
    · rw [Plan.fill_cons_of_ok hvalue]
      exact .head (step_first (.fills hvalue)) (ih w.source _ w.shared)

/-- The first of some workers makes its share. -/
theorem run_share (after : List (Except Crash Worker)) (batch : Batch) (start count : Nat)
    (now : Shared) :
    let share := generateShare p seed start count now
    Relation.ReflTransGen (Step p seed)
      ⟨.ok ⟨batch, none, List.range' start count⟩ :: after, now⟩
      ⟨share.1.map (fun made => ⟨batch ++ made, none, []⟩) :: after, share.2⟩ := by
  induction count generalizing batch start now with
  | zero =>
    show Relation.ReflTransGen (Step p seed) _ ⟨.ok ⟨batch ++ ⟨[], []⟩, none, []⟩ :: after, now⟩
    rw [append_nil]
    exact .refl
  | succ count ih =>
    have hrow : Relation.ReflTransGen (Step p seed) _
        ⟨(generateOne p seed start now).1.map
          (fun result => ⟨batch ++ ofRow start result, none, List.range' (start + 1) count⟩) :: after,
          (generateOne p seed start now).2⟩ :=
      run_row after batch start _ p.fields (.ofSeed (rowSeed seed (.ofNat start)))
        ⟨.empty p.layout, []⟩ now
    refine .head (step_first .begins) (hrow.trans ?_)
    rcases hone : generateOne p seed start now with ⟨crash | result, later⟩
    · rw [generateShare_of_crash hone]
      exact .refl
    · refine (ih (batch ++ ofRow start result) (start + 1) later).trans ?_
      rw [generateShare_of_ok hone]
      rcases generateShare p seed (start + 1) count later with ⟨crash | made, last⟩
      · exact .refl
      · dsimp only [Except.map, followedBy]
        rw [append_assoc]

/-- The workers may make their shares one after another. -/
theorem exists_run_spans (p : Plan) (seed : UInt64) (parts : List (Nat × Nat)) (now : Shared) :
    ∃ final, Relation.ReflTransGen (Step p seed) (start parts now) final ∧ final.Finished ∧
      final.outcome = (generateSpans p seed parts now).1 ∧
      ∀ b, (generateSpans p seed parts now).1 = .ok b →
        final.shared = (generateSpans p seed parts now).2 := by
  induction parts generalizing now with
  | nil => exact ⟨_, .refl, fun k hk => absurd hk List.not_mem_nil, rfl, fun _ _ => rfl⟩
  | cons part rest ih =>
    have hshare : Relation.ReflTransGen (Step p seed) _ _ :=
      run_share (start rest now).workers ⟨[], []⟩ part.1 part.2 now
    rcases hfirst : generateShare p seed part.1 part.2 now with ⟨crash | made, later⟩
    · rw [hfirst] at hshare
      -- the others take their steps in spite of the crash
      obtain ⟨final, hrun, hfinished⟩ := exists_finished p seed (start rest later)
      rw [generateSpans_of_crash hfirst]
      refine ⟨⟨.error crash :: final.workers, final.shared⟩,
        hshare.trans (run_prepend [.error crash] hrun), ?_, rfl, ?_⟩
      · intro k hk
        exact hfinished k (List.mem_of_ne_of_mem (by simp) hk)
      · intro b hb
        cases hb
    · rw [hfirst] at hshare
      obtain ⟨final, hrun, hfinished, houtcome, hshared⟩ := ih later
      rw [generateSpans_of_ok hfirst]
      refine ⟨⟨.ok ⟨made, none, []⟩ :: final.workers, final.shared⟩,
        hshare.trans (run_prepend [.ok ⟨made, none, []⟩] hrun), ?_, ?_, ?_⟩
      · intro k hk
        rcases List.mem_cons.1 hk with hk | hk
        · cases hk
          exact ⟨rfl, rfl⟩
        · exact hfinished k hk
      · rw [← houtcome]
        rfl
      · intro b hb
        obtain ⟨others, hothers, -⟩ := exists_ok_of_map hb
        exact hshared others hothers

end Pool

end

/-- What the workers of a batch hand in after taking their steps in some order, and what rows share
then. -/
def HandsIn (p : Plan) (threads : Nat) (seed : UInt64) (start count : Nat) (now : Shared)
    (outcome : Except Crash Batch) (later : Shared) : Prop :=
  ∃ pool : Pool, Relation.ReflTransGen (Pool.Step p seed)
    (.start (spans start (shares threads count)) now) pool ∧
    pool.Finished ∧ pool.outcome = outcome ∧ pool.shared = later

/-- The workers may hand in what they make one after another. -/
theorem exists_handsIn_generate (p : Plan) (threads : Nat) (seed : UInt64) (start count : Nat)
    (now : Shared) :
    ∃ later,
      HandsIn p threads seed start count now (generate p threads seed start count now).1 later ∧
      ∀ b, (generate p threads seed start count now).1 = .ok b →
        later = (generate p threads seed start count now).2 := by
  obtain ⟨pool, hrun, hfinished, houtcome, hshared⟩ :=
    Pool.exists_run_spans p seed (spans start (shares threads count)) now
  exact ⟨pool.shared, ⟨pool, hrun, hfinished, houtcome, rfl⟩, hshared⟩

end SynthTable.Batch
