import SynthTable.Proofs.Table.Runs
import SynthTable.Proofs.Table.Workers

/-!
# Runs with workers in any order

The workers of each batch may take their steps in any order, and so a run may end in more than one
way (`Plan.MayEnd`). The run of one worker after another is one of them (`Plan.mayEnd_run`). Whatever
the order is, a sink can be replaced by its recorder (`Plan.MayEnd.recorded`).
-/

namespace SynthTable

variable {ε τ : Type} [Sink ε τ]

namespace Run

/-- The report so far, what all rows share, and the sink. -/
structure Stage (τ : Type) where
  report : Report
  shared : Shared
  sink : τ

/-- The progress without its journal. -/
def Progress.stage (progress : Progress τ) : Stage τ :=
  ⟨progress.report, progress.shared, progress.sink⟩

/-- The number of rows of the batch that begins at an index. -/
def countAt (request : RunRequest) (start : Nat) : Nat :=
  min (request.rows - start) (batchSize request)

/-- The ways in which a batch may end that begins at an index. -/
inductive BatchEnds (p : Plan) (request : RunRequest) (start : Nat) :
    Stage τ → Except (Stop ε) Unit → Stage τ → Prop
  | crashed {report now later s crash}
    (hgenerate : Batch.HandsIn p request.threads request.seed start (countAt request start) now
      (.error crash) later) :
    BatchEnds p request start ⟨report, now, s⟩ (.error (.crash crash)) ⟨report, later, s⟩
  | refused {report now later s s' stop} {batch : Batch}
    (hgenerate : Batch.HandsIn p request.threads request.seed start (countAt request start) now
      (.ok batch) later)
    (hwrite : Sink.write batch.rows s = (.error stop, s')) :
    BatchEnds p request start ⟨report, now, s⟩ (.error stop)
      ⟨report.recordAll batch.notices, later, s'⟩
  | accepted {report now later s s'} {batch : Batch}
    (hgenerate : Batch.HandsIn p request.threads request.seed start (countAt request start) now
      (.ok batch) later)
    (hwrite : Sink.write batch.rows s = (.ok (), s')) :
    BatchEnds p request start ⟨report, now, s⟩ (.ok ())
      ⟨{ report.recordAll batch.notices with
          rowsGenerated := start + batch.rows.length
          batches := (report.recordAll batch.notices).batches + 1 }, later, s'⟩

/-- The ways in which the batches may end from an index on. -/
inductive BatchesEnd (p : Plan) (request : RunRequest) :
    Nat → Stage τ → Except (Stop ε) Unit → Stage τ → Prop
  | done {stage} : BatchesEnd p request request.rows stage (.ok ()) stage
  | stopped {start stage later stop} (hlt : start < request.rows)
    (hbatch : BatchEnds p request start stage (.error stop) later) :
    BatchesEnd p request start stage (.error stop) later
  | goesOn {start stage next later result} (hlt : start < request.rows)
    (hbatch : BatchEnds p request start stage (.ok ()) next)
    (hrest : BatchesEnd p request (start + countAt request start) next result later) :
    BatchesEnd p request start stage result later

/-- The ways in which the steps of a run may end, with the report and the sink that they leave. -/
inductive StepsEnd (p : Plan) (request : RunRequest) (shared : Shared) :
    τ → Except (Stop ε) Nat → Report → τ → Prop
  | unstarted {s s' stop} (hstart : Sink.start p.layout s = (.error stop, s')) :
    StepsEnd p request shared s (.error stop) (firstReport p request) s'
  | stopped {s s₁ later stop} (hstart : Sink.start p.layout s = (.ok (), s₁))
    (hbatches : BatchesEnd p request 0 ⟨firstReport p request, shared, s₁⟩ (.error stop) later) :
    StepsEnd p request shared s (.error stop) later.report later.sink
  | ended {s s₁ s' later result} (hstart : Sink.start p.layout s = (.ok (), s₁))
    (hbatches : BatchesEnd p request 0 ⟨firstReport p request, shared, s₁⟩ (.ok ()) later)
    (hfinish : Sink.finish later.sink = (result, s')) :
    StepsEnd p request shared s result later.report s'

/-- The result of a run whose steps left a report. -/
def resultOf (report : Report) : Except (Stop ε) Nat → Except (RunError ε) Report
  | .ok bytes => .ok { report with bytesWritten := bytes }
  | .error (.sink e) => .error (.sink e)
  | .error (.crash crash) => .error (.failed (report.fail crash.message))

end Run

/-- A run may end with a result and leave a sink behind, for some order of the steps of its workers.
-/
def Plan.MayEnd (p : Plan) (request : RunRequest) (shared : Shared) (s : τ)
    (result : Except (RunError ε) Report) (s' : τ) : Prop :=
  ∃ outcome report, Run.StepsEnd p request shared s outcome report s' ∧
    result = Run.resultOf report outcome

namespace Run

/-! ## The run of one worker after another -/

variable {p : Plan} {request : RunRequest}

theorem exists_batchEnds (p : Plan) (request : RunRequest) (start : Nat) (progress : Progress τ) :
    let outcome := oneBatch p request start (countAt request start) progress
    ∃ stage, BatchEnds p request start progress.stage outcome.1 stage ∧
      stage.report = outcome.2.report ∧ stage.sink = outcome.2.sink ∧
      (outcome.1 = .ok () → stage = outcome.2.stage) := by
  intro outcome
  obtain ⟨later, hhands, hshared⟩ := Batch.exists_handsIn_generate p request.threads request.seed
    start (countAt request start) progress.shared
  rcases hgenerate : Batch.generate p request.threads request.seed start (countAt request start)
    progress.shared with ⟨crash | batch, shared⟩
  · rw [hgenerate] at hhands
    have houtcome : outcome = _ := oneBatch_of_crash progress hgenerate
    rw [houtcome]
    -- the workers after the crashed one still take their steps, so only report and sink agree
    refine ⟨_, .crashed hhands, rfl, rfl, fun h => ?_⟩
    cases h
  · rw [hgenerate] at hhands hshared
    obtain rfl : later = shared := hshared batch rfl
    rcases hwrite : Sink.write batch.rows progress.sink with ⟨stop | _, s⟩
    · have houtcome : outcome = _ := oneBatch_of_refusal progress hgenerate hwrite
      rw [houtcome]
      refine ⟨_, .refused hhands hwrite, rfl, rfl, fun h => ?_⟩
      cases h
    · have houtcome : outcome = _ := oneBatch_of_acceptance progress hgenerate hwrite
      rw [houtcome]
      exact ⟨_, .accepted hhands hwrite, rfl, rfl, fun _ => rfl⟩

theorem exists_batchesEnd (p : Plan) (request : RunRequest) {start : Nat}
    (hstart : start ≤ request.rows) (progress : Progress τ) :
    let outcome := batches p request start (request.rows - start) progress
    ∃ stage, BatchesEnd p request start progress.stage outcome.1 stage ∧
      stage.report = outcome.2.report ∧ stage.sink = outcome.2.sink := by
  induction hleft : request.rows - start using Nat.strongRecOn generalizing start progress with
  | ind left ih =>
    intro outcome
    by_cases hnone : left = 0
    · subst hnone
      obtain rfl : start = request.rows := by omega
      have houtcome : outcome = (.ok (), progress) := by
        show batches p request request.rows 0 progress = _
        rw [batches, dif_pos rfl]
      rw [houtcome]
      exact ⟨_, .done, rfl, rfl⟩
    · have hlt : start < request.rows := by omega
      have hsize := batchSize_pos request
      obtain ⟨stage, hends, hreport, hsink, hstage⟩ := exists_batchEnds p request start progress
      rw [countAt, hleft] at hends hreport hsink hstage
      rcases hone : oneBatch p request start (min left (batchSize request)) progress with
        ⟨stop | _, later⟩
      · rw [hone] at hends hreport hsink
        have houtcome : outcome = (.error stop, later) := batches_of_error hnone hone
        rw [houtcome]
        exact ⟨stage, .stopped hlt hends, hreport, hsink⟩
      · rw [hone] at hends hstage
        have houtcome : outcome = _ := batches_of_ok hnone hone
        rw [houtcome]
        obtain rfl := hstage rfl
        obtain ⟨last, hrest, hkept⟩ := ih (left - min left (batchSize request)) (by omega)
          (show start + min left (batchSize request) ≤ request.rows by omega) later (by omega)
        refine ⟨last, .goesOn hlt hends ?_, hkept⟩
        rw [countAt, hleft]
        exact hrest

theorem stepsEnd_steps (p : Plan) (request : RunRequest) (shared : Shared) (s : τ)
    (journal : List Event) :
    let outcome := steps p request ⟨firstReport p request, shared, s, journal⟩
    StepsEnd p request shared s outcome.1 outcome.2.report outcome.2.sink := by
  intro outcome
  let first : Progress τ := ⟨firstReport p request, shared, s, journal⟩
  rcases hstart : Sink.start p.layout s with ⟨stop | _, s₁⟩
  · have houtcome : outcome = _ := steps_of_start_error first hstart
    rw [houtcome]
    exact .unstarted hstart
  · let begun : Progress τ := { first with sink := s₁ }
    obtain ⟨stage, hends, hreport, hsink⟩ := exists_batchesEnd p request (Nat.zero_le _) begun
    rw [Nat.sub_zero] at hends hreport hsink
    rcases hbatches : batches p request 0 request.rows begun with ⟨stop | _, later⟩
    · rw [hbatches] at hends hreport hsink
      have houtcome : outcome = _ := steps_of_batches_error first hstart hbatches
      rw [houtcome, ← hreport, ← hsink]
      exact .stopped hstart hends
    · rw [hbatches] at hends hreport hsink
      have houtcome : outcome = _ := steps_of_batches first hstart hbatches
      rw [houtcome]
      dsimp only
      rw [← hreport, ← hsink]
      exact .ended hstart hends rfl

theorem fst_conclude (outcome : Except (Stop ε) Nat × Progress τ) :
    (conclude request outcome).1 = resultOf outcome.2.report outcome.1 := by
  rcases outcome with ⟨(e | crash) | bytes, progress⟩ <;> rfl

theorem sink_conclude (outcome : Except (Stop ε) Nat × Progress τ) :
    (conclude request outcome).2.2.sink = outcome.2.sink := by
  rcases outcome with ⟨(e | crash) | bytes, progress⟩ <;> rfl

end Run

/-- A run may end as it does when one worker makes its share after another. -/
theorem Plan.mayEnd_run (p : Plan) (request : RunRequest) (shared : Shared) (s : τ) :
    p.MayEnd request shared s (p.run request shared s).1 (p.run request shared s).2 := by
  have hsteps := Run.stepsEnd_steps p request shared s
    [.generationStarted (Run.firstReport p request) (Run.batchSize request) p.fields.length]
  refine ⟨_, _, ?_, Run.fst_conclude _⟩
  rw [run, Run.outcome]
  dsimp only
  rw [Run.sink_conclude]
  exact hsteps

/-! ## Runs into recorders -/

namespace Run

variable {p : Plan} {request : RunRequest}

/-- The stage with a recorder that has had some calls in place of its sink. -/
def Stage.recorded (stage : Stage τ) (calls : List (CallRecord ε)) : Stage (Recorder ε τ) :=
  ⟨stage.report, stage.shared, ⟨stage.sink, calls⟩⟩

theorem BatchEnds.recorded {start : Nat} {stage later : Stage τ} {result : Except (Stop ε) Unit}
    (h : BatchEnds p request start stage result later) (calls : List (CallRecord ε)) :
    ∃ calls', BatchEnds p request start (stage.recorded calls) result (later.recorded calls') := by
  cases h with
  | crashed hgenerate => exact ⟨calls, .crashed hgenerate⟩
  | refused hgenerate hwrite =>
    exact ⟨_, .refused hgenerate (congrArg (Recorder.note calls (.write _)) hwrite)⟩
  | accepted hgenerate hwrite =>
    exact ⟨_, .accepted hgenerate (congrArg (Recorder.note calls (.write _)) hwrite)⟩

theorem BatchesEnd.recorded {start : Nat} {stage later : Stage τ} {result : Except (Stop ε) Unit}
    (h : BatchesEnd p request start stage result later) (calls : List (CallRecord ε)) :
    ∃ calls', BatchesEnd p request start (stage.recorded calls) result (later.recorded calls') := by
  induction h generalizing calls with
  | done => exact ⟨calls, .done⟩
  | stopped hlt hbatch =>
    obtain ⟨calls', hrecorded⟩ := hbatch.recorded calls
    exact ⟨calls', .stopped hlt hrecorded⟩
  | goesOn hlt hbatch _ ih =>
    obtain ⟨calls', hrecorded⟩ := hbatch.recorded calls
    obtain ⟨calls'', hrest⟩ := ih calls'
    exact ⟨calls'', .goesOn hlt hrecorded hrest⟩

theorem StepsEnd.recorded {shared : Shared} {s s' : τ} {result : Except (Stop ε) Nat} {report : Report}
    (h : StepsEnd p request shared s result report s') (calls : List (CallRecord ε)) :
    ∃ calls', StepsEnd p request shared (⟨s, calls⟩ : Recorder ε τ) result report ⟨s', calls'⟩ := by
  cases h with
  | unstarted hstart =>
    exact ⟨_, .unstarted (congrArg (Recorder.note calls (.start p.layout)) hstart)⟩
  | stopped hstart hbatches =>
    obtain ⟨calls', hrecorded⟩ := hbatches.recorded (calls ++ [⟨.start p.layout, none⟩])
    exact ⟨calls', .stopped (congrArg (Recorder.note calls (.start p.layout)) hstart) hrecorded⟩
  | ended hstart hbatches hfinish =>
    obtain ⟨calls', hrecorded⟩ := hbatches.recorded (calls ++ [⟨.start p.layout, none⟩])
    have hended := congrArg (Recorder.note calls' .finish) hfinish
    rcases result with stop | bytes <;>
      exact ⟨_, .ended (congrArg (Recorder.note calls (.start p.layout)) hstart) hrecorded hended⟩

end Run

/-- However a run may end, its sink has had some calls. -/
theorem Plan.MayEnd.recorded {p : Plan} {request : RunRequest} {shared : Shared} {s s' : τ}
    {result : Except (RunError ε) Report} (h : p.MayEnd request shared s result s') :
    ∃ calls, p.MayEnd request shared (Recorder.ofSink s) result ⟨s', calls⟩ := by
  obtain ⟨outcome, report, hsteps, hresult⟩ := h
  obtain ⟨calls, hrecorded⟩ := hsteps.recorded []
  exact ⟨calls, outcome, report, hrecorded, hresult⟩

end SynthTable
