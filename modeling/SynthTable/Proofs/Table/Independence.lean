import SynthTable.Proofs.Table.Reports
import SynthTable.Proofs.Table.Runs
import SynthTable.Proofs.Table.Survival
import SynthTable.Proofs.Table.Workers

/-!
# Runs do not depend on threads and batches

A plan whose columns use nothing that rows share makes every row from the seed and the index alone
(`drawsFrom_of_build`). So a run into a collector is decided by its rows and its seed: it ends in
success exactly if no row crashes, with the rows of all indices in order and the notices about them
(`run_of_rows`, `run_of_crash`), however the rows are cut into batches and shared among workers. The
main result is `run_independent`.
-/

namespace SynthTable

/-! ## Fields that use nothing shared -/

theorem Field.isDraw_valueFor {σ : Type} [RandomSource σ] {c : Column} {assets : AssetSource}
    {f : Field} (h : build c assets = .ok f) (hshared : c.usesShared = false) (row : Row) :
    World.IsDraw (σ := σ) (f.valueFor row) := by
  have hcomputed := isComputed_of_build h
  obtain ⟨domain, computation?, rfl, hdomain, -⟩ := eq_of_build h
  cases computation? with
  | some computation => exact ⟨fun s => (Field.compute _ row, s), fun _ => rfl⟩
  | none =>
    obtain ⟨value, hvalue⟩ := Domain.isDraw_generate (σ := σ)
      (Domain.draws_of_build hdomain hcomputed.symm hshared) c.name
    refine ⟨fun s => ((value s).1.map .ok, (value s).2), fun w => ?_⟩
    have hdrawn : isComputed ⟨c.name, c.ghost, .declared c.kind domain none⟩ = false := rfl
    have hgenerate : generate ⟨c.name, c.ghost, .declared c.kind domain none⟩ w = w.draw value :=
      hvalue w
    rw [valueFor, hdrawn, if_neg Bool.false_ne_true, hgenerate, World.draw, World.draw]
    rcases value w.source with ⟨crash | v, s⟩ <;> rfl

theorem Plan.drawsFrom_of_build {s : Schema} {assets : AssetSource} {p : Plan}
    (h : build s assets = .ok p) (hshared : ∀ c ∈ s.columns, c.usesShared = false)
    (σ : Type) [RandomSource σ] : DrawsFrom σ p.fields := by
  intro f hf row
  obtain ⟨before, after, hfields⟩ := List.append_of_mem hf
  obtain ⟨earlier, c, later, hcolumns, hbuild, -⟩ := column_of_field h hfields
  have hc : c ∈ s.columns := by
    rw [hcolumns]
    simp
  exact Field.isDraw_valueFor hbuild (hshared c hc) row

/-! ## Batch by batch -/

namespace Run

/-- What a collector and a report have after a batch more. -/
structure Took (progress progress' : Progress Collector) (b : Batch) : Prop where
  report_eq : progress'.report =
    { progress.report.recordAll b.notices with
      rowsGenerated := progress'.report.rowsGenerated
      batches := progress'.report.batches }
  sink_eq : progress'.sink = ⟨progress.sink.columns, progress.sink.rows ++ b.rows⟩

theorem Took.refl (progress : Progress Collector) : Took progress progress ⟨[], []⟩ :=
  ⟨rfl, by rw [List.append_nil]⟩

theorem Took.trans {first second third : Progress Collector} {b c : Batch}
    (hb : Took first second b) (hc : Took second third c) : Took first third (b ++ c) := by
  constructor
  · rw [hc.report_eq, hb.report_eq, Batch.append_def, Report.recordAll_append]
    simp only [Report.recordAll_eq]
    rfl
  · rw [hc.sink_eq, hb.sink_eq, Batch.append_def, List.append_assoc]

/-- How a run into a collector goes on if it makes some rows: it takes them, or it crashes as they
do. -/
def Settles (rows : Except Crash Batch) (progress : Progress Collector)
    (reached : Except (Stop SinkError) Unit × Progress Collector) : Prop :=
  match rows with
  | .error crash => reached.1 = .error (.crash crash)
  | .ok b => reached.1 = .ok () ∧ Took progress reached.2 b

/-- A run that has made some rows makes later ones if it did not stop. -/
theorem Settles.andThen {rows later : Except Crash Batch} {progress : Progress Collector}
    {reached next result : Except (Stop SinkError) Unit × Progress Collector}
    (hrows : Settles rows progress reached) (hlater : Settles later reached.2 next)
    (hstop : ∀ stop, reached.1 = .error stop → result.1 = .error stop)
    (hgo : reached.1 = .ok () → result = next) :
    Settles (Batch.followedBy rows later) progress result := by
  cases rows with
  | error crash => exact hstop _ hrows
  | ok b =>
    rw [hgo hrows.1]
    cases later with
    | error crash => exact hlater
    | ok c => exact ⟨hlater.1, hrows.2.trans hlater.2⟩

variable {p : Plan}

theorem oneBatch_settles (h : Plan.DrawsFrom Random.Stream p.fields) (request : RunRequest)
    (shared : Shared) (start count : Nat) (progress : Progress Collector) :
    Settles (Batch.collect (fun i => (Batch.generateOne p request.seed i shared).1)
      (List.range' start count)) progress (oneBatch p request start count progress) := by
  rw [oneBatch, Batch.generate_eq h request.threads start count shared progress.shared]
  cases Batch.collect (fun i => (Batch.generateOne p request.seed i shared).1)
      (List.range' start count) with
  | error crash => rfl
  | ok b => exact ⟨rfl, rfl, rfl⟩

/-- The batches of a run make the rows of all indices. -/
theorem batches_settles (h : Plan.DrawsFrom Random.Stream p.fields) (request : RunRequest)
    (shared : Shared) (start left : Nat) (progress : Progress Collector) :
    Settles (Batch.collect (fun i => (Batch.generateOne p request.seed i shared).1)
      (List.range' start left)) progress (batches p request start left progress) := by
  induction left using Nat.strongRecOn generalizing start progress with
  | ind left ih =>
    by_cases hleft : left = 0
    · rw [batches, dif_pos hleft, hleft]
      exact ⟨rfl, .refl progress⟩
    · have hsize := batchSize_pos request
      have hcut : List.range' start left = List.range' start (min left (batchSize request)) ++
          List.range' (start + min left (batchSize request))
            (left - min left (batchSize request)) := by
        rw [List.range'_append_1]
        congr 1
        omega
      rw [hcut, Batch.collect_append]
      have hfirst := oneBatch_settles h request shared start (min left (batchSize request)) progress
      have hrest := fun next => ih (left - min left (batchSize request)) (by omega)
        (start + min left (batchSize request)) next
      rcases hone : oneBatch p request start (min left (batchSize request)) progress with
        ⟨stop | _, next⟩
      · rw [hone] at hfirst
        rw [batches_of_error hleft hone]
        refine hfirst.andThen (hrest next) (fun _ h => h) fun h => ?_
        cases h
      · rw [hone] at hfirst
        rw [batches_of_ok hleft hone]
        refine hfirst.andThen (hrest next) (fun _ h => ?_) fun _ => rfl
        cases h

end Run

namespace Plan

/-! ## Whole runs -/

section

variable {p : Plan}

/-- The progress of a run into a collector after the start. -/
def begun (p : Plan) (request : RunRequest) (shared : Shared) : Run.Progress Collector :=
  ⟨Run.firstReport p request, shared, ⟨p.layout.visibleNames, []⟩,
    [.generationStarted (Run.firstReport p request) (Run.batchSize request) p.fields.length]⟩

theorem run_of_batches {request : RunRequest} {shared : Shared} {stopped : Except (Stop SinkError) Unit}
    {progress : Run.Progress Collector}
    (h : Run.batches p request 0 request.rows (begun p request shared) = (stopped, progress)) :
    p.run request shared Collector.empty =
      ((Run.conclude request (stopped.map fun _ => 0, progress)).1,
        (Run.conclude request (stopped.map fun _ => 0, progress)).2.2.sink) := by
  rw [run, Run.outcome, Run.steps]
  dsimp only [Sink.start, Collector.empty]
  rw [begun] at h
  rw [h]
  cases stopped <;> rfl

variable (h : DrawsFrom Random.Stream p.fields) (request : RunRequest)

/-- The rows of a run, as each is made by itself. -/
def rowsOf (p : Plan) (seed : UInt64) (shared : Shared) (count : Nat) : Except Crash Batch :=
  Batch.collect (fun i => (Batch.generateOne p seed i shared).1) (List.range' 0 count)

include h

theorem settles_rowsOf (shared shared' : Shared) :
    Run.Settles (rowsOf p request.seed shared request.rows) (begun p request shared')
      (Run.batches p request 0 request.rows (begun p request shared')) :=
  Run.batches_settles h request shared 0 request.rows (begun p request shared')

/-- If no row crashes, a run takes all rows and reports the notices about them. -/
theorem run_of_rows {shared : Shared} {b : Batch}
    (hrows : rowsOf p request.seed shared request.rows = .ok b) (shared' : Shared) :
    ∃ report, p.run request shared' Collector.empty = (.ok report, ⟨p.layout.visibleNames, b.rows⟩) ∧
      report.recorded = b.notices.take request.noticeLimit ∧
      report.counts = Report.tally b.notices [] ∧
      report.suppressed = b.notices.length - request.noticeLimit := by
  have hsettles := settles_rowsOf h request shared shared'
  rw [hrows] at hsettles
  obtain ⟨hok, htook⟩ := hsettles
  rcases hreached : Run.batches p request 0 request.rows (begun p request shared') with
    ⟨stopped, progress⟩
  rw [hreached] at hok htook
  cases hok
  refine ⟨{ progress.report with bytesWritten := 0 }, ?_, ?_⟩
  · rw [run_of_batches hreached]
    exact congrArg (Prod.mk _) htook.sink_eq
  · have hreport := htook.report_eq
    rw [Report.recordAll_eq] at hreport
    refine ⟨?_, ?_, ?_⟩
    · show progress.report.recorded = _
      rw [hreport]
      rfl
    · show progress.report.counts = _
      rw [hreport]
      rfl
    · show progress.report.suppressed = _
      rw [hreport]
      exact Nat.zero_add _

/-- If a row crashes, a run does not complete. -/
theorem run_of_crash {shared : Shared} {crash : Crash}
    (hrows : rowsOf p request.seed shared request.rows = .error crash) (shared' : Shared) :
    ∃ report, (p.run request shared' Collector.empty).1 = .error (.failed report) := by
  have hsettles := settles_rowsOf h request shared shared'
  rw [hrows] at hsettles
  rcases hreached : Run.batches p request 0 request.rows (begun p request shared') with
    ⟨stopped, progress⟩
  rw [hreached] at hsettles
  cases hsettles
  exact ⟨_, congrArg Prod.fst (run_of_batches hreached)⟩

/-- The rows do not depend on what is shared. -/
theorem rowsOf_eq (seed : UInt64) (shared shared' : Shared) (count : Nat) :
    rowsOf p seed shared' count = rowsOf p seed shared count := by
  have hrows : (fun i => (Batch.generateOne p seed i shared').1) =
      fun i => (Batch.generateOne p seed i shared).1 := by
    funext i
    rw [Batch.generateOne_eq h i shared shared']
  rw [rowsOf, rowsOf, hrows]

omit h in
theorem getElem_of_rowsOf {seed : UInt64} {shared : Shared} {count : Nat} {b : Batch}
    (hrows : rowsOf p seed shared count = .ok b) :
    b.rows.length = count ∧ ∀ i (hi : i < b.rows.length), ∃ errors,
      (p.generateRow ⟨Random.Stream.ofSeed (rowSeed seed (.ofNat i)), shared⟩).1 =
        .ok ⟨b.rows[i], errors⟩ := by
  have hall := List.forall₂_iff_get.1 (Batch.rows_of_collect hrows)
  have hlength : b.rows.length = count := by
    rw [← hall.1, List.length_range']
  refine ⟨hlength, fun i hi => ?_⟩
  have hindex : i < (List.range' 0 count).length := by
    rwa [hall.1]
  obtain ⟨errors, hrow⟩ := hall.2 i hindex hi
  rw [List.get_eq_getElem, List.getElem_range', Nat.zero_add, Nat.one_mul] at hrow
  exact ⟨errors, hrow⟩

end

/-- Of a plan whose columns use nothing that rows share, each run into a collector that completes
tells how every other one ends with the same rows, seed and limit of notices, whatever its threads
and its batches are: it completes, too, with the same rows in the same order, each of which is made
by the seed and its index alone, and with the same notices, counts and number of suppressed notices.
In each batch this holds for all orders in which the workers may take their steps, and their shares
cover the indices of the batch, each once and in order. -/
theorem run_independent {s : Schema} {assets : AssetSource} {p : Plan}
    (hbuild : build s assets = .ok p) (hshared : ∀ c ∈ s.columns, c.usesShared = false) :
    (∀ (request request' : RunRequest) (shared shared' : Shared) (report : Report)
        (sink : Collector), request'.rows = request.rows → request'.seed = request.seed →
      request'.noticeLimit = request.noticeLimit →
      p.run request shared Collector.empty = (.ok report, sink) →
      (∃ report', p.run request' shared' Collector.empty = (.ok report', sink) ∧
        report'.recorded = report.recorded ∧ report'.counts = report.counts ∧
        report'.suppressed = report.suppressed) ∧
      sink.rows.length = request.rows ∧
      ∀ i (hi : i < sink.rows.length) (now : Shared), ∃ errors,
        (p.generateRow ⟨Random.Stream.ofSeed (rowSeed request.seed (.ofNat i)), now⟩).1 =
          .ok ⟨sink.rows[i], errors⟩) ∧
    (∀ (seed : UInt64) (threads start count : Nat) (now : Shared) (pool : Batch.Pool),
      Relation.ReflTransGen (Batch.Pool.Step p seed)
        (.start (Batch.spans start (Batch.shares threads count)) now) pool → pool.Finished →
      pool.outcome = (Batch.generate p threads seed start count now).1) ∧
    ∀ threads start count : Nat,
      (Batch.spans start (Batch.shares threads count)).flatMap Batch.indices =
        List.range' start count := by
  have hdraws := drawsFrom_of_build hbuild hshared Random.Stream
  refine ⟨?_, ?_, Batch.flatMap_indices_spans⟩
  · intro request request' shared shared' report sink hcount hseed hlimit hcompleted
    cases hrows : rowsOf p request.seed shared request.rows with
    | error crash =>
      obtain ⟨failure, hfailed⟩ := run_of_crash hdraws request hrows shared
      rw [hcompleted] at hfailed
      cases hfailed
    | ok b =>
      obtain ⟨_, hrun, hrecorded, hcounts, hsuppressed⟩ := run_of_rows hdraws request hrows shared
      rw [hcompleted] at hrun
      cases hrun
      have hrows' : rowsOf p request'.seed shared request'.rows = .ok b := by
        rw [hseed, hcount, hrows]
      obtain ⟨report', hrun', hrecorded', hcounts', hsuppressed'⟩ :=
        run_of_rows hdraws request' hrows' shared'
      refine ⟨⟨report', hrun', ?_, ?_, ?_⟩, (getElem_of_rowsOf hrows).1, fun i hi now => ?_⟩
      · rw [hrecorded', hrecorded, hlimit]
      · rw [hcounts', hcounts]
      · rw [hsuppressed', hsuppressed, hlimit]
      · have hnow : rowsOf p request.seed now request.rows = .ok b := by
          rw [rowsOf_eq hdraws request.seed shared now, hrows]
        exact (getElem_of_rowsOf hnow).2 i hi
  · intro seed threads start count now pool hrun hfinished
    exact Batch.Pool.outcome_of_finished hdraws hrun hfinished now

/-- A drawn number, and a text that is no number where one is due. -/
def misfits : Schema :=
  ⟨Schema.defaultVersion, none,
    [Column.plain "a" .integer,
      { Column.plain "b" .integer with derivation? := some (.injection "no. ${a}") }]⟩

/-- Three rows, with room for two notices. -/
def threeRows (threads batchSize : Nat) : RunRequest := ⟨"", 3, 7, threads, batchSize, 2⟩

/-- No counters, and a clock that has been read some times. -/
def untouched (taken : Nat) : Shared := ⟨[], ⟨fun _ => .midnight .epoch, taken⟩⟩

theorem run_independent_misfits :
    ∃ p report report' sink, build misfits noFiles = .ok p ∧
      (∀ c ∈ misfits.columns, c.usesShared = false) ∧
      p.run (threeRows 2 2) (untouched 0) Collector.empty = (.ok report, sink) ∧
      p.run (threeRows 0 0) (untouched 9) Collector.empty = (.ok report', sink) ∧
      report'.suppressed = 1 := by
  have hshared : ∀ c ∈ misfits.columns, c.usesShared = false := by decide
  have hrun : (build misfits noFiles).toOption.bind (fun p =>
      (p.run (threeRows 2 2) (untouched 0) Collector.empty).1.toOption.map (·.suppressed)) =
      some 1 := by
    decide +kernel
  cases hbuild : build misfits noFiles with
  | error fault => simp [hbuild, Except.toOption] at hrun
  | ok p =>
    rcases hcompleted : p.run (threeRows 2 2) (untouched 0) Collector.empty with
      ⟨failure | report, sink⟩
    · simp [hbuild, hcompleted, Except.toOption] at hrun
    · have hsuppressed : report.suppressed = 1 := by
        simpa [hbuild, hcompleted, Except.toOption] using hrun
      obtain ⟨⟨report', hrun', -, -, hsame⟩, -, -⟩ :=
        (run_independent hbuild hshared).1 (threeRows 2 2) (threeRows 0 0) (untouched 0)
          (untouched 9) report sink rfl rfl rfl hcompleted
      exact ⟨p, report, report', sink, rfl, hshared, hcompleted, hrun', hsame.trans hsuppressed⟩

end Plan

end SynthTable
