import Mathlib.Data.List.Infix
import SynthTable.Proofs.Table.Coverage
import SynthTable.Proofs.Table.Reports
import SynthTable.Proofs.Table.Schedules

/-!
# Runs account for every row

A run keeps an account of the batches that its sink accepted (`Taken`): their rows are those of the
first indices, and its report counts them with their notices. Each accepted batch keeps the account
up (`Taken.add`), and so it stands at every exit of a run (`exists_exit`): when the sink does not
start, when the generation of a batch crashes, when the sink refuses a batch or the end, and when all
is done. In whatever order the workers take their steps, the calls of the sink and the result of the
run tell the same (`Accounts`). The main result is `Plan.run_accounts`.
-/

namespace SynthTable

open CallRecord

namespace Run

/-! ## Accepted batches -/

section

variable {p : Plan} {request : RunRequest} {taken : Nat} {notices : List Notice}
  {handed : List (List Row)} {report : Report} {batch : Batch}

/-- A sink accepted the batches `handed` of the first `taken` rows. The report tells of them and of
the notices about their rows. -/
structure Taken (p : Plan) (request : RunRequest) (taken : Nat) (notices : List Notice)
    (handed : List (List Row)) (report : Report) : Prop where
  covers : Batch.Covers p request.seed (List.range taken) ⟨handed.flatten, notices⟩
  sizes : ∀ rows ∈ handed, 1 ≤ rows.length ∧ rows.length ≤ batchSize request
  /-- All batches are full unless the last one ends with the last row. -/
  taken_eq : taken = min request.rows (handed.length * batchSize request)
  needed : handed.length * batchSize request < request.rows + batchSize request
  keeps : report.Keeps request.noticeLimit notices
  rowsGenerated_eq : report.rowsGenerated = taken
  batches_eq : report.batches = handed.length

theorem taken_firstReport (p : Plan) (request : RunRequest) :
    Taken p request 0 [] [] (firstReport p request) := by
  have hsize := batchSize_pos request
  refine ⟨.nil, ?_, ?_, ?_, ?_, rfl, rfl⟩
  · intro rows hrows
    exact absurd hrows List.not_mem_nil
  · rw [List.length_nil, Nat.zero_mul, Nat.min_zero]
  · rw [List.length_nil, Nat.zero_mul]
    omega
  · exact ⟨rfl, Report.countsOf_nil, List.take_nil.symm, (Nat.zero_sub _).symm⟩

theorem Taken.covers_add (h : Taken p request taken notices handed report) {count : Nat}
    (hbatch : Batch.Covers p request.seed (List.range' taken count) batch) :
    Batch.Covers p request.seed (List.range (taken + count))
      ⟨(handed ++ [batch.rows]).flatten, notices ++ batch.notices⟩ := by
  have hall := h.covers.append hbatch
  rw [Batch.append_def] at hall
  rw [List.range_eq_range', ← List.range'_append_1, List.flatten_concat, ← List.range_eq_range',
    Nat.zero_add]
  exact hall

/-- The account with a batch more. -/
theorem Taken.add (h : Taken p request taken notices handed report) (hlt : taken < request.rows)
    (hbatch : Batch.Covers p request.seed (List.range' taken (countAt request taken)) batch) :
    Taken p request (taken + countAt request taken) (notices ++ batch.notices)
      (handed ++ [batch.rows])
      { report.recordAll batch.notices with
        rowsGenerated := taken + batch.rows.length
        batches := (report.recordAll batch.notices).batches + 1 } := by
  have hlength := hbatch.length_rows
  rw [List.length_range', countAt] at hlength
  rw [countAt]
  have hsize := batchSize_pos request
  have htaken := h.taken_eq
  have hkeeps := h.keeps.recordAll batch.notices
  refine ⟨h.covers_add hbatch, ?_, ?_, ?_,
    ⟨hkeeps.limit_eq, hkeeps.counts, hkeeps.recorded_eq, hkeeps.suppressed_eq⟩, ?_, ?_⟩
  · intro rows hrows
    rcases List.mem_append.1 hrows with hrows | hrows
    · exact h.sizes rows hrows
    · obtain rfl := List.mem_singleton.1 hrows
      omega
  -- rows are left, so that all batches before were full
  · rw [List.length_append, List.length_singleton, Nat.succ_mul]
    omega
  · rw [List.length_append, List.length_singleton, Nat.succ_mul]
    omega
  · show taken + batch.rows.length = _
    rw [hlength]
  · show (report.recordAll batch.notices).batches + 1 = _
    rw [Report.recordAll_eq, List.length_append, ← h.batches_eq]
    rfl

/-- The number of batches that all rows need. -/
theorem Taken.length_handed (h : Taken p request request.rows notices handed report) :
    handed.length = (request.rows + batchSize request - 1) / batchSize request := by
  have htaken := h.taken_eq
  have hneeded := h.needed
  symm
  apply Nat.div_eq_of_lt_le
  · omega
  · rw [Nat.succ_mul]
    omega

end

/-! ## Exits -/

variable {ε : Type}

/-- The calls of a run whose sink started and accepted some batches. -/
def callsSoFar (p : Plan) (handed : List (List Row)) : List (CallRecord ε) :=
  ⟨.start p.layout, none⟩ :: acceptances handed

theorem callsSoFar_concat (p : Plan) (handed : List (List Row)) (rows : List Row) :
    callsSoFar p handed ++ [⟨.write rows, none⟩] = callsSoFar (ε := ε) p (handed ++ [rows]) := by
  rw [callsSoFar, callsSoFar, acceptances, acceptances, List.map_append]
  rfl

/-- The ways in which a run ends, with its calls, the notices about the rows and the report. -/
inductive Exit (p : Plan) (request : RunRequest) :
    Except (Stop ε) Nat → List (CallRecord ε) → List Notice → Report → Prop
  /-- The sink does not start. -/
  | unstarted {stop} :
    Exit p request (.error stop) [⟨.start p.layout, some stop⟩] [] (firstReport p request)
  /-- The generation of a batch crashes. -/
  | crashed {crash taken notices handed report}
    (htaken : Taken p request taken notices handed report) :
    Exit p request (.error (.crash crash)) (callsSoFar p handed) notices report
  /-- The sink refuses a batch. -/
  | refused {stop taken count notices handed report} {batch : Batch}
    (htaken : Taken p request taken notices handed report)
    (hbatch : Batch.Covers p request.seed (List.range' taken count) batch)
    (hcount : 1 ≤ count ∧ count ≤ batchSize request) :
    Exit p request (.error stop) (callsSoFar p handed ++ [⟨.write batch.rows, some stop⟩])
      (notices ++ batch.notices) (report.recordAll batch.notices)
  /-- The sink accepts all rows and refuses the end. -/
  | unfinished {stop notices handed report}
    (htaken : Taken p request request.rows notices handed report) :
    Exit p request (.error stop) (callsSoFar p handed ++ [⟨.finish, some stop⟩]) notices report
  /-- All is done. -/
  | finished {bytes notices handed report}
    (htaken : Taken p request request.rows notices handed report) :
    Exit p request (.ok bytes) (callsSoFar p handed ++ [⟨.finish, none⟩]) notices report

section

variable {τ : Type} [Sink ε τ] {p : Plan} {request : RunRequest} {start : Nat}
  {stage later : Stage (Recorder ε τ)}

/-- The account stands in the stage of a run into a recorder. -/
def Stands (p : Plan) (request : RunRequest) (taken : Nat) (stage : Stage (Recorder ε τ)) : Prop :=
  ∃ notices handed, Taken p request taken notices handed stage.report ∧
    stage.sink.calls = callsSoFar p handed

/-- The stage of a run into a recorder is that of an exit. -/
def Exits (p : Plan) (request : RunRequest) (result : Except (Stop ε) Nat)
    (stage : Stage (Recorder ε τ)) : Prop :=
  ∃ notices, Exit p request result stage.sink.calls notices stage.report

theorem stands_firstReport {shared : Shared} {s : τ} {r : Recorder ε τ}
    (hstart : Sink.start p.layout (Recorder.ofSink s) = (.ok (), r)) :
    Stands p request 0 ⟨firstReport p request, shared, r⟩ :=
  ⟨[], [], taken_firstReport p request, Recorder.calls_of_note_ok hstart⟩

/-- An accepted batch keeps the account up. -/
theorem Stands.accept (h : Stands p request start stage) (hlt : start < request.rows)
    (hbatch : BatchEnds p request start stage (.ok ()) later) :
    Stands p request (start + countAt request start) later := by
  obtain ⟨notices, handed, htaken, hcalls⟩ := h
  cases hbatch with
  | @accepted _ _ _ _ _ batch hgenerate hwrite =>
    refine ⟨notices ++ batch.notices, handed ++ [batch.rows], htaken.add hlt hgenerate.covers, ?_⟩
    rw [Recorder.calls_of_note_ok hwrite, ← callsSoFar_concat]
    exact congrArg (· ++ _) hcalls

/-- A batch that is stopped brings a run to an exit. -/
theorem Stands.stop (h : Stands p request start stage) (hlt : start < request.rows) {stop : Stop ε}
    (hbatch : BatchEnds p request start stage (.error stop) later) :
    Exits p request (.error stop) later := by
  obtain ⟨notices, handed, htaken, hcalls⟩ := h
  have hsize := batchSize_pos request
  cases hbatch with
  | crashed hgenerate =>
    refine ⟨notices, ?_⟩
    rw [hcalls]
    exact .crashed htaken
  | @refused _ _ _ _ _ _ batch hgenerate hwrite =>
    refine ⟨notices ++ batch.notices, ?_⟩
    have hlast := Recorder.calls_of_note_error hwrite
    rw [hcalls] at hlast
    rw [hlast]
    refine .refused htaken hgenerate.covers ?_
    rw [countAt]
    omega

/-- The batches keep the account up, or they bring the run to an exit. -/
theorem Stands.batches {result : Except (Stop ε) Unit} (h : Stands p request start stage)
    (hbatches : BatchesEnd p request start stage result later) :
    (result = .ok () → Stands p request request.rows later) ∧
      ∀ stop, result = .error stop → Exits p request (.error stop) later := by
  induction hbatches with
  | done =>
    refine ⟨fun _ => h, ?_⟩
    intro stop hstop
    cases hstop
  | stopped hlt hbatch =>
    refine ⟨fun hok => ?_, ?_⟩
    · cases hok
    · intro stop hstop
      cases hstop
      exact h.stop hlt hbatch
  | goesOn hlt hbatch _ ih => exact ih (h.accept hlt hbatch)

/-- However the steps of a run into a recorder may end, it is at an exit. -/
theorem exists_exit {shared : Shared} {s : τ} {result : Except (Stop ε) Nat} {report : Report}
    {r : Recorder ε τ} (h : StepsEnd p request shared (Recorder.ofSink s) result report r) :
    ∃ notices, Exit p request result r.calls notices report := by
  cases h with
  | unstarted hstart =>
    rw [Recorder.calls_of_note_error hstart]
    exact ⟨[], .unstarted⟩
  | stopped hstart hbatches =>
    exact ((stands_firstReport hstart).batches hbatches).2 _ rfl
  | ended hstart hbatches hfinish =>
    obtain ⟨notices, handed, htaken, hcalls⟩ :=
      ((stands_firstReport hstart).batches hbatches).1 rfl
    refine ⟨notices, ?_⟩
    cases result with
    | error stop =>
      rw [Recorder.calls_of_note_error hfinish, hcalls]
      exact .unfinished htaken
    | ok bytes =>
      rw [Recorder.calls_of_note_ok hfinish, hcalls]
      exact .finished htaken

end

/-! ## What holds at every exit -/

/-- The calls of a run: the start, the batches and the end, and none after one that was stopped. -/
structure IsOrderly (p : Plan) (request : RunRequest) (calls : List (CallRecord ε)) : Prop where
  /-- The end is called after all batches, if at all. -/
  order : calls.map (·.call) = .start p.layout :: (written calls).map .write ∨
    calls.map (·.call) = .start p.layout :: (written calls).map .write ++ [.finish]
  stopped : ∀ record ∈ calls.dropLast, record.stop? = none
  sizes : ∀ rows ∈ written calls, 1 ≤ rows.length ∧ rows.length ≤ batchSize request
  /-- The end is called only when the sink has accepted all rows. -/
  complete : .finish ∈ calls.map (·.call) → (accepted calls).flatten.length = request.rows

section

variable {p : Plan} {request : RunRequest} {result : Except (Stop ε) Nat}
  {calls : List (CallRecord ε)} {notices : List Notice} {report : Report}
  {handed : List (List Row)}

theorem stop?_of_mem_callsSoFar {record : CallRecord ε} (h : record ∈ callsSoFar p handed) :
    record.stop? = none := by
  rcases List.mem_cons.1 h with rfl | h
  · rfl
  · obtain ⟨rows, -, rfl⟩ := List.mem_map.1 h
    rfl

theorem written_callsSoFar (p : Plan) (handed : List (List Row)) :
    written (callsSoFar (ε := ε) p handed) = handed := written_acceptances handed

theorem accepted_callsSoFar (p : Plan) (handed : List (List Row)) :
    accepted (callsSoFar (ε := ε) p handed) = handed := accepted_acceptances handed

theorem written_write (p : Plan) (handed : List (List Row)) (rows : List Row)
    (stop? : Option (Stop ε)) :
    written (callsSoFar p handed ++ [⟨.write rows, stop?⟩]) = handed ++ [rows] := by
  rw [written_append, written_callsSoFar]
  rfl

theorem accepted_write (p : Plan) (handed : List (List Row)) (rows : List Row) (stop : Stop ε) :
    accepted (callsSoFar p handed ++ [⟨.write rows, some stop⟩]) = handed := by
  rw [accepted_append, accepted_callsSoFar]
  exact List.append_nil handed

theorem written_finish (p : Plan) (handed : List (List Row)) (stop? : Option (Stop ε)) :
    written (callsSoFar p handed ++ [⟨.finish, stop?⟩]) = handed := by
  rw [written_append, written_callsSoFar]
  exact List.append_nil handed

theorem accepted_finish (p : Plan) (handed : List (List Row)) (stop? : Option (Stop ε)) :
    accepted (callsSoFar p handed ++ [⟨.finish, stop?⟩]) = handed := by
  rw [accepted_append, accepted_callsSoFar]
  cases stop? <;> exact List.append_nil handed

theorem map_call_callsSoFar (p : Plan) (handed : List (List Row)) :
    (callsSoFar (ε := ε) p handed).map (·.call) = .start p.layout :: handed.map .write := by
  rw [callsSoFar, acceptances, List.map_cons, List.map_map]
  rfl

theorem Taken.length_flatten {taken : Nat} (h : Taken p request taken notices handed report) :
    handed.flatten.length = taken := by
  rw [h.covers.length_rows, List.length_range]

theorem Taken.covers_written {taken : Nat} (h : Taken p request taken notices handed report)
    (hwritten : written calls = handed) :
    Batch.Covers p request.seed (List.range (written calls).flatten.length)
      ⟨(written calls).flatten, notices⟩ := by
  rw [hwritten, h.length_flatten]
  exact h.covers

theorem Taken.counts_accepted {taken : Nat} (h : Taken p request taken notices handed report)
    (haccepted : accepted calls = handed) :
    report.rowsGenerated = (accepted calls).flatten.length ∧
      report.batches = (accepted calls).length := by
  rw [haccepted, h.length_flatten]
  exact ⟨h.rowsGenerated_eq, h.batches_eq⟩

theorem Taken.isOrderly {taken : Nat} (h : Taken p request taken notices handed report) :
    IsOrderly p request (callsSoFar (ε := ε) p handed) := by
  refine ⟨.inl ?_, ?_, ?_, ?_⟩
  · rw [map_call_callsSoFar, written_callsSoFar]
  · intro record hrecord
    exact stop?_of_mem_callsSoFar (List.mem_of_mem_dropLast hrecord)
  · rw [written_callsSoFar]
    exact h.sizes
  · intro hfinish
    simp [map_call_callsSoFar] at hfinish

theorem Taken.isOrderly_write {taken : Nat} (h : Taken p request taken notices handed report)
    {rows : List Row} (hrows : 1 ≤ rows.length ∧ rows.length ≤ batchSize request)
    (stop? : Option (Stop ε)) :
    IsOrderly p request (callsSoFar p handed ++ [⟨.write rows, stop?⟩]) := by
  refine ⟨.inl ?_, ?_, ?_, ?_⟩
  · rw [written_write, List.map_append, map_call_callsSoFar, List.map_append]
    rfl
  · intro record hrecord
    rw [List.dropLast_concat] at hrecord
    exact stop?_of_mem_callsSoFar hrecord
  · intro other hother
    rw [written_write] at hother
    rcases List.mem_append.1 hother with hother | hother
    · exact h.sizes other hother
    · rwa [List.mem_singleton.1 hother]
  · intro hfinish
    simp [map_call_callsSoFar] at hfinish

theorem Taken.isOrderly_finish (h : Taken p request request.rows notices handed report)
    (stop? : Option (Stop ε)) : IsOrderly p request (callsSoFar p handed ++ [⟨.finish, stop?⟩]) := by
  refine ⟨.inr ?_, ?_, ?_, ?_⟩
  · rw [written_finish, List.map_append, map_call_callsSoFar]
    rfl
  · intro record hrecord
    rw [List.dropLast_concat] at hrecord
    exact stop?_of_mem_callsSoFar hrecord
  · rw [written_finish]
    exact h.sizes
  · intro _
    rw [accepted_finish, h.length_flatten]

theorem Exit.isOrderly (h : Exit p request result calls notices report) :
    IsOrderly p request calls := by
  cases h with
  | unstarted =>
    refine ⟨.inl rfl, ?_, ?_, ?_⟩
    · intro record hrecord
      exact absurd hrecord List.not_mem_nil
    · intro rows hrows
      exact absurd hrows List.not_mem_nil
    · intro hfinish
      simp at hfinish
  | crashed htaken => exact htaken.isOrderly
  | refused htaken hbatch hcount =>
    refine htaken.isOrderly_write ?_ _
    rwa [hbatch.length_rows, List.length_range']
  | unfinished htaken => exact htaken.isOrderly_finish _
  | finished htaken => exact htaken.isOrderly_finish _

/-- The rows given to the sink are those of the first indices. -/
theorem Exit.covers (h : Exit p request result calls notices report) :
    Batch.Covers p request.seed (List.range (written calls).flatten.length)
      ⟨(written calls).flatten, notices⟩ := by
  cases h with
  | unstarted => exact .nil
  | crashed htaken => exact htaken.covers_written (written_callsSoFar _ _)
  | refused htaken hbatch _ =>
    have hall := htaken.covers_add hbatch
    have hlength := hall.length_rows
    rw [List.length_range] at hlength
    rw [written_write, hlength]
    exact hall
  | unfinished htaken => exact htaken.covers_written (written_finish _ _ _)
  | finished htaken => exact htaken.covers_written (written_finish _ _ _)

/-- The report tells of all rows given to the sink. -/
theorem Exit.keeps (h : Exit p request result calls notices report) :
    report.Keeps request.noticeLimit notices := by
  cases h with
  | unstarted => exact (taken_firstReport p request).keeps
  | crashed htaken => exact htaken.keeps
  | refused htaken _ _ => exact htaken.keeps.recordAll _
  | unfinished htaken => exact htaken.keeps
  | finished htaken => exact htaken.keeps

/-- The report counts what the sink accepted. -/
theorem Exit.counts_accepted (h : Exit p request result calls notices report) :
    report.rowsGenerated = (accepted calls).flatten.length ∧
      report.batches = (accepted calls).length := by
  cases h with
  | unstarted => exact ⟨rfl, rfl⟩
  | crashed htaken => exact htaken.counts_accepted (accepted_callsSoFar _ _)
  | refused htaken _ _ =>
    rw [Report.recordAll_eq]
    exact htaken.counts_accepted (accepted_write _ _ _ _)
  | unfinished htaken => exact htaken.counts_accepted (accepted_finish _ _ _)
  | finished htaken => exact htaken.counts_accepted (accepted_finish _ _ _)

theorem stop?_of_mem_concat {last record : CallRecord ε} {stop : Stop ε}
    (hrecord : record ∈ callsSoFar p handed ++ [last]) (hstop : record.stop? = some stop) :
    last.stop? = some stop := by
  rcases List.mem_append.1 hrecord with hbefore | hlast
  · rw [stop?_of_mem_callsSoFar hbefore] at hstop
    cases hstop
  · rwa [List.mem_singleton.1 hlast] at hstop

/-- A call that was stopped stops the run. -/
theorem Exit.eq_of_stopped (h : Exit p request result calls notices report) {record : CallRecord ε}
    (hrecord : record ∈ calls) {stop : Stop ε} (hstop : record.stop? = some stop) :
    result = .error stop := by
  cases h with
  | unstarted =>
    rw [List.mem_singleton.1 hrecord] at hstop
    cases hstop
    rfl
  | crashed htaken =>
    rw [stop?_of_mem_callsSoFar hrecord] at hstop
    cases hstop
  | refused htaken _ _ =>
    cases stop?_of_mem_concat hrecord hstop
    rfl
  | unfinished htaken =>
    cases stop?_of_mem_concat hrecord hstop
    rfl
  | finished htaken => cases stop?_of_mem_concat hrecord hstop

/-- A run is stopped by the sink if and only if a call of the sink is. -/
theorem Exit.sink_iff (h : Exit p request result calls notices report) (e : ε) :
    result = .error (.sink e) ↔ ∃ record ∈ calls, record.stop? = some (.sink e) := by
  constructor
  · rintro rfl
    cases h with
    | unstarted => exact ⟨_, List.mem_cons_self, rfl⟩
    | refused htaken _ _ => exact ⟨_, List.mem_append_right _ List.mem_cons_self, rfl⟩
    | unfinished htaken => exact ⟨_, List.mem_append_right _ List.mem_cons_self, rfl⟩
  · rintro ⟨record, hrecord, hstop⟩
    exact h.eq_of_stopped hrecord hstop

/-- A report on a run whose sink accepted all rows and the end. -/
structure IsComplete (request : RunRequest) (calls : List (CallRecord ε)) (notices : List Notice)
    (report : Report) : Prop where
  finished : ⟨.finish, none⟩ ∈ calls
  accepted_eq : accepted calls = written calls
  rowsGenerated_eq : report.rowsGenerated = request.rows
  batches_eq : report.batches = (request.rows + batchSize request - 1) / batchSize request
  keeps : report.Keeps request.noticeLimit notices

/-- A report on a run that crashed. -/
structure IsFailure (request : RunRequest) (calls : List (CallRecord ε)) (notices : List Notice)
    (report : Report) : Prop where
  /-- If a call of the sink was stopped, it was by the crash that the report tells of. -/
  failure : ∃ crash : Crash, report.failure? = some crash.message ∧
    ∀ record ∈ calls, ∀ stop, record.stop? = some stop → stop = .crash crash
  rowsGenerated_eq : report.rowsGenerated = (accepted calls).flatten.length
  batches_eq : report.batches = (accepted calls).length
  counts : Report.CountsOf (notices.map (·.code) ++ ["generation_failed"]) report.counts
  recorded_eq : report.recorded = notices.take request.noticeLimit
  suppressed_eq : report.suppressed = notices.length - request.noticeLimit

theorem Exit.isComplete {bytes : Nat} (h : Exit p request (.ok bytes) calls notices report) :
    IsComplete request calls notices { report with bytesWritten := bytes } := by
  have hkeeps := h.keeps
  cases h with
  | finished htaken =>
    refine ⟨List.mem_append_right _ List.mem_cons_self, ?_, htaken.rowsGenerated_eq, ?_,
      ⟨hkeeps.limit_eq, hkeeps.counts, hkeeps.recorded_eq, hkeeps.suppressed_eq⟩⟩
    · rw [accepted_finish, written_finish]
    · rw [← htaken.length_handed]
      exact htaken.batches_eq

theorem Exit.isFailure {crash : Crash}
    (h : Exit p request (.error (.crash crash)) calls notices report) :
    IsFailure request calls notices (report.fail crash.message) := by
  have hkeeps := h.keeps
  obtain ⟨hrows, hbatches⟩ := h.counts_accepted
  refine ⟨⟨crash, rfl, ?_⟩, hrows, hbatches, hkeeps.counts.increase _, hkeeps.recorded_eq,
    hkeeps.suppressed_eq⟩
  intro record hrecord stop hstop
  cases h.eq_of_stopped hrecord hstop
  rfl

/-- What the calls of a sink and the result of a run tell of each other. -/
structure Accounts (p : Plan) (request : RunRequest) (calls : List (CallRecord ε))
    (result : Except (RunError ε) Report) : Prop where
  orderly : IsOrderly p request calls
  /-- The rows given to the sink are those of the first indices, and the report tells of them. -/
  rows : ∃ notices,
    Batch.Covers p request.seed (List.range (written calls).flatten.length)
      ⟨(written calls).flatten, notices⟩ ∧
    (∀ report, result = .ok report → IsComplete request calls notices report) ∧
    ∀ report, result = .error (.failed report) → IsFailure request calls notices report
  /-- An error of the sink is the result as it is. -/
  sink_iff : ∀ e, result = .error (.sink e) ↔ ∃ record ∈ calls, record.stop? = some (.sink e)

/-- A run that ends well has given as many rows to the sink as were asked for. -/
theorem Accounts.length_written (h : Accounts p request calls (.ok report)) :
    (written calls).flatten.length = request.rows := by
  obtain ⟨notices, -, hcomplete, -⟩ := h.rows
  have hdone := hcomplete report rfl
  rw [← hdone.accepted_eq]
  exact h.orderly.complete (List.mem_map.2 ⟨_, hdone.finished, rfl⟩)

theorem Exit.accounts (h : Exit p request result calls notices report) :
    Accounts p request calls (resultOf report result) := by
  refine ⟨h.isOrderly, ⟨notices, h.covers, ?_, ?_⟩, ?_⟩
  · intro final hfinal
    rcases result with (e | crash) | bytes
    · cases hfinal
    · cases hfinal
    · cases hfinal
      exact h.isComplete
  · intro final hfinal
    rcases result with (e | crash) | bytes
    · cases hfinal
    · cases hfinal
      exact h.isFailure
    · cases hfinal
  · intro e
    rw [← h.sink_iff e]
    rcases result with (e' | crash) | bytes <;> simp [resultOf]

end

end Run

namespace Plan

variable {ε τ : Type} [Sink ε τ]

theorem MayEnd.accounts {p : Plan} {request : RunRequest} {shared : Shared} {s : τ}
    {result : Except (RunError ε) Report} {r : Recorder ε τ}
    (h : p.MayEnd request shared (Recorder.ofSink s) result r) :
    Run.Accounts p request r.calls result := by
  obtain ⟨outcome, report, hsteps, rfl⟩ := h
  obtain ⟨notices, hexit⟩ := Run.exists_exit hsteps
  exact hexit.accounts

/-- A run gives its rows to the sink in the order of their indices, finishes the sink only when it
has accepted all of them, and calls nothing after a call that was stopped. Its report accounts for
the accepted rows and for the notices about all rows given to the sink. The same holds for all orders
in which the workers of the batches may take their steps, none of which goes on for ever. -/
theorem run_accounts (p : Plan) (request : RunRequest) (shared : Shared) (s : τ) :
    let run := p.run request shared (Recorder.ofSink s)
    p.run request shared s = (run.1, run.2.sink) ∧
    Run.Accounts p request run.2.calls run.1 ∧
    p.MayEnd request shared s run.1 run.2.sink ∧
    (∀ result s', p.MayEnd request shared s result s' →
      ∃ calls, p.MayEnd request shared (Recorder.ofSink s) result ⟨s', calls⟩ ∧
        Run.Accounts p request calls result) ∧
    WellFounded (flip (Batch.Pool.Step p request.seed)) := by
  intro run
  have hrun : p.run request shared s = (run.1, run.2.sink) := run_recorder p request shared s
  refine ⟨hrun, ?_, ?_, ?_, Batch.Pool.wellFounded_step p request.seed⟩
  · exact (mayEnd_run p request shared (Recorder.ofSink s)).accounts
  · have hend := mayEnd_run p request shared s
    rwa [hrun] at hend
  · intro result s' hend
    obtain ⟨calls, hrecorded⟩ := hend.recorded
    exact ⟨calls, hrecorded, hrecorded.accounts⟩

/-- Three rows in batches of two. -/
example (shared : Shared) :
    (written ((⟨[], ⟨[], []⟩, [], []⟩ : Plan).run ⟨"few", 3, 7, 1, 2, 0⟩ shared
      (Recorder.ofSink Collector.empty)).2.calls).map List.length = [2, 1] := by
  cbv

end Plan

end SynthTable
