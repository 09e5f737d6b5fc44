import SynthTable.Proofs.Sink.Recorder
import SynthTable.Table.Run

/-!
# Runs step by step

A batch ends in one of three ways: its generation crashes (`oneBatch_of_crash`), the sink refuses it
(`oneBatch_of_refusal`) or the sink accepts it (`oneBatch_of_acceptance`). A run into a recorder gives
the same result as the run into its sink and leaves the same sink behind (`Plan.run_recorder`), so
that what a run asks of any sink can be read off the calls of a recorder.
-/

namespace SynthTable

variable {ε τ : Type} [Sink ε τ] {p : Plan} {request : RunRequest}

namespace Run

/-! ## The steps of a run -/

section

variable {start count : Nat} {shared : Shared} {batch : Batch} {crash : Crash} {stop : Stop ε} {s : τ}

theorem oneBatch_of_crash (progress : Progress τ)
    (hgenerate : Batch.generate p request.threads request.seed start count progress.shared =
      (.error crash, shared)) :
    oneBatch p request start count progress =
      (.error (.crash crash),
        { progress.note (Batch.crashEvents p request.seed start count progress.shared) with
          shared }) := by
  rw [oneBatch, hgenerate]

theorem oneBatch_of_refusal (progress : Progress τ)
    (hgenerate : Batch.generate p request.threads request.seed start count progress.shared =
      (.ok batch, shared))
    (hwrite : Sink.write batch.rows progress.sink = (.error stop, s)) :
    oneBatch p request start count progress =
      (.error stop,
        { progress.note (batch.events p) with
          report := progress.report.recordAll batch.notices
          shared
          sink := s }) := by
  rw [oneBatch, hgenerate]
  dsimp only [Progress.note]
  rw [hwrite]

theorem oneBatch_of_acceptance (progress : Progress τ)
    (hgenerate : Batch.generate p request.threads request.seed start count progress.shared =
      (.ok batch, shared))
    (hwrite : Sink.write batch.rows progress.sink = (.ok (), s)) :
    oneBatch p request start count progress =
      (.ok (),
        { (progress.note (batch.events p)).note
            [.batchGenerated request.runId ((progress.report.recordAll batch.notices).batches + 1)
              batch.rows.length] with
          report := { progress.report.recordAll batch.notices with
            rowsGenerated := start + batch.rows.length
            batches := (progress.report.recordAll batch.notices).batches + 1 }
          shared
          sink := s }) := by
  rw [oneBatch, hgenerate]
  dsimp only [Progress.note]
  rw [hwrite]

theorem batches_of_ok {left : Nat} {progress later : Progress τ} (hleft : left ≠ 0)
    (hone : oneBatch p request start (min left (batchSize request)) progress = (.ok (), later)) :
    batches p request start left progress =
      batches p request (start + min left (batchSize request))
        (left - min left (batchSize request)) later := by
  rw [batches, dif_neg hleft]
  dsimp only
  rw [hone]

theorem batches_of_error {left : Nat} {progress later : Progress τ} (hleft : left ≠ 0)
    (hone : oneBatch p request start (min left (batchSize request)) progress =
      (.error stop, later)) : batches p request start left progress = (.error stop, later) := by
  rw [batches, dif_neg hleft]
  dsimp only
  rw [hone]

theorem batchSize_pos (request : RunRequest) : 0 < batchSize request := by
  rw [batchSize]
  omega

theorem steps_of_start_error (progress : Progress τ)
    (hstart : Sink.start p.layout progress.sink = (.error stop, s)) :
    steps p request progress = (.error stop, { progress with sink := s }) := by
  rw [steps, hstart]

theorem steps_of_batches_error (progress : Progress τ) {later : Progress τ}
    (hstart : Sink.start p.layout progress.sink = (.ok (), s))
    (hbatches : batches p request 0 request.rows { progress with sink := s } =
      (.error stop, later)) : steps p request progress = (.error stop, later) := by
  rw [steps, hstart]
  dsimp only
  rw [hbatches]

theorem steps_of_batches (progress : Progress τ) {later : Progress τ}
    (hstart : Sink.start p.layout progress.sink = (.ok (), s))
    (hbatches : batches p request 0 request.rows { progress with sink := s } = (.ok (), later)) :
    steps p request progress =
      ((Sink.finish later.sink).1, { later with sink := (Sink.finish later.sink).2 }) := by
  rw [steps, hstart]
  dsimp only
  rw [hbatches]

end

/-! ## Runs into recorders -/

/-- The progress with the sink in place of its recorder. -/
def Progress.bare (progress : Progress (Recorder ε τ)) : Progress τ :=
  ⟨progress.report, progress.shared, progress.sink.sink, progress.journal⟩

/-- An outcome with the sink in place of its recorder. -/
def bareOutcome {α : Type} (outcome : α × Progress (Recorder ε τ)) : α × Progress τ :=
  (outcome.1, outcome.2.bare)

theorem oneBatch_bare (start count : Nat) (progress : Progress (Recorder ε τ)) :
    oneBatch p request start count progress.bare =
      bareOutcome (oneBatch p request start count progress) := by
  rcases hgenerate : Batch.generate p request.threads request.seed start count progress.shared with
    ⟨crash | batch, shared⟩
  · rw [oneBatch_of_crash progress hgenerate, oneBatch_of_crash progress.bare hgenerate]
    rfl
  · rcases hwrite : Sink.write batch.rows progress.sink.sink with ⟨stop | _, s⟩
    · have hrecorded := congrArg (Recorder.note progress.sink.calls (.write batch.rows)) hwrite
      rw [oneBatch_of_refusal progress hgenerate hrecorded,
        oneBatch_of_refusal progress.bare hgenerate hwrite]
      rfl
    · have hrecorded := congrArg (Recorder.note progress.sink.calls (.write batch.rows)) hwrite
      rw [oneBatch_of_acceptance progress hgenerate hrecorded,
        oneBatch_of_acceptance progress.bare hgenerate hwrite]
      rfl

theorem batches_bare (start left : Nat) (progress : Progress (Recorder ε τ)) :
    batches p request start left progress.bare =
      bareOutcome (batches p request start left progress) := by
  induction left using Nat.strongRecOn generalizing start progress with
  | ind left ih =>
    by_cases hleft : left = 0
    · subst hleft
      rw [batches, batches, dif_pos rfl, dif_pos rfl]
      rfl
    · have hbare : oneBatch p request start (min left (batchSize request)) progress.bare = _ :=
        oneBatch_bare start _ progress
      rcases hone : oneBatch p request start (min left (batchSize request)) progress with
        ⟨stop | _, later⟩
      · rw [hone] at hbare
        rw [batches_of_error hleft hone, batches_of_error hleft hbare]
        rfl
      · rw [hone] at hbare
        have hsize := batchSize_pos request
        rw [batches_of_ok hleft hone, batches_of_ok hleft hbare]
        exact ih _ (by omega) _ later

theorem steps_bare (progress : Progress (Recorder ε τ)) :
    steps p request progress.bare = bareOutcome (steps p request progress) := by
  rcases hstart : Sink.start p.layout progress.sink.sink with ⟨stop | _, s⟩
  · have hrecorded := congrArg (Recorder.note progress.sink.calls (.start p.layout)) hstart
    rw [steps_of_start_error progress hrecorded, steps_of_start_error progress.bare hstart]
    rfl
  · have hrecorded := congrArg (Recorder.note progress.sink.calls (.start p.layout)) hstart
    let begun : Progress (Recorder ε τ) := { progress with
      sink := (⟨s, progress.sink.calls ++ [⟨.start p.layout, none⟩]⟩ : Recorder ε τ) }
    have hbare : batches p request 0 request.rows begun.bare = _ := batches_bare 0 request.rows begun
    rcases hbatches : batches p request 0 request.rows begun with ⟨stop | _, later⟩
    · rw [hbatches] at hbare
      rw [steps_of_batches_error progress hrecorded hbatches,
        steps_of_batches_error progress.bare hstart hbare]
      rfl
    · rw [hbatches] at hbare
      rw [steps_of_batches progress hrecorded hbatches,
        steps_of_batches progress.bare hstart hbare, bareOutcome, Progress.bare]
      show _ = ((Recorder.note later.sink.calls .finish (Sink.finish later.sink.sink)).1, _)
      rw [Recorder.fst_note]
      congr 2
      exact (Recorder.sink_note later.sink.calls .finish _).symm

theorem conclude_bare (outcome : Except (Stop ε) Nat × Progress (Recorder ε τ)) :
    conclude request (bareOutcome outcome) =
      ((conclude request outcome).1, bareOutcome (conclude request outcome).2) := by
  rcases outcome with ⟨(e | crash) | bytes, progress⟩ <;> rfl

end Run

/-- A run cannot tell a recorder from its sink. -/
theorem Plan.run_recorder (p : Plan) (request : RunRequest) (shared : Shared) (s : τ) :
    p.run request shared s =
      ((p.run request shared (Recorder.ofSink s)).1,
        (p.run request shared (Recorder.ofSink s)).2.sink) := by
  let first : Run.Progress (Recorder ε τ) := ⟨Run.firstReport p request, shared, Recorder.ofSink s,
    [.generationStarted (Run.firstReport p request) (Run.batchSize request) p.fields.length]⟩
  show ((Run.conclude request (Run.steps p request first.bare)).1,
    (Run.conclude request (Run.steps p request first.bare)).2.2.sink) = _
  rw [Run.steps_bare, Run.conclude_bare]
  rfl

end SynthTable
