import SynthTable.Sink.Basic

/-!
# Sinks that record their calls

A recorder passes each call on to its sink and notes how the call ended. From the calls one can tell
the batches that were given to the sink (`written`) and those that it accepted (`accepted`).
-/

namespace SynthTable

/-- A call of a sink. -/
inductive SinkCall where
  | start (layout : Layout)
  | write (rows : List Row)
  | finish

/-- A call of a sink, with what stopped it if it was not done. -/
structure CallRecord (ε : Type) where
  call : SinkCall
  stop? : Option (Stop ε)

namespace CallRecord

variable {ε : Type}

/-- The rows that a call gives to the sink. -/
def rows? (record : CallRecord ε) : Option (List Row) :=
  match record.call with
  | .write rows => some rows
  | _ => none

/-- The batches that were given to a sink. -/
def written (calls : List (CallRecord ε)) : List (List Row) := calls.filterMap rows?

/-- The batches that a sink accepted. -/
def accepted (calls : List (CallRecord ε)) : List (List Row) :=
  written (calls.filter (·.stop?.isNone))

/-- Accepted calls with some batches. -/
def acceptances (batches : List (List Row)) : List (CallRecord ε) :=
  batches.map fun rows => ⟨.write rows, none⟩

theorem written_append (xs ys : List (CallRecord ε)) :
    written (xs ++ ys) = written xs ++ written ys := List.filterMap_append

theorem accepted_append (xs ys : List (CallRecord ε)) :
    accepted (xs ++ ys) = accepted xs ++ accepted ys := by
  rw [accepted, List.filter_append, written_append, accepted, accepted]

theorem written_acceptances (batches : List (List Row)) :
    written (acceptances (ε := ε) batches) = batches := by
  rw [written, acceptances, List.filterMap_map]
  exact List.filterMap_some

theorem accepted_acceptances (batches : List (List Row)) :
    accepted (acceptances (ε := ε) batches) = batches := by
  have hall : (acceptances batches).filter (·.stop?.isNone) = acceptances (ε := ε) batches := by
    rw [List.filter_eq_self]
    intro record hrecord
    obtain ⟨rows, -, rfl⟩ := List.mem_map.1 hrecord
    rfl
  rw [accepted, hall, written_acceptances]

end CallRecord

/-- A sink with the calls that it has had, in their order. -/
structure Recorder (ε τ : Type) where
  sink : τ
  calls : List (CallRecord ε)

namespace Recorder

variable {ε τ α : Type}

/-- A sink that has had no calls. -/
def ofSink [Sink ε τ] (s : τ) : Recorder ε τ := ⟨s, []⟩

/-- The outcome of a call, noted after the calls before it. -/
def note (calls : List (CallRecord ε)) (call : SinkCall) :
    Except (Stop ε) α × τ → Except (Stop ε) α × Recorder ε τ
  | (.ok a, s) => (.ok a, ⟨s, calls ++ [⟨call, none⟩]⟩)
  | (.error stop, s) => (.error stop, ⟨s, calls ++ [⟨call, some stop⟩]⟩)

theorem fst_note (calls : List (CallRecord ε)) (call : SinkCall) (outcome : Except (Stop ε) α × τ) :
    (note calls call outcome).1 = outcome.1 := by
  rcases outcome with ⟨stop | a, s⟩ <;> rfl

theorem sink_note (calls : List (CallRecord ε)) (call : SinkCall) (outcome : Except (Stop ε) α × τ) :
    (note calls call outcome).2.sink = outcome.2 := by
  rcases outcome with ⟨stop | a, s⟩ <;> rfl

theorem calls_of_note_ok {calls : List (CallRecord ε)} {call : SinkCall}
    {outcome : Except (Stop ε) α × τ} {a : α} {r : Recorder ε τ} (h : note calls call outcome = (.ok a, r)) :
    r.calls = calls ++ [⟨call, none⟩] := by
  rcases outcome with ⟨stop | b, s⟩
  · cases h
  · cases h
    rfl

theorem calls_of_note_error {calls : List (CallRecord ε)} {call : SinkCall}
    {outcome : Except (Stop ε) α × τ} {stop : Stop ε} {r : Recorder ε τ}
    (h : note calls call outcome = (.error stop, r)) :
    r.calls = calls ++ [⟨call, some stop⟩] := by
  rcases outcome with ⟨stop | b, s⟩
  · cases h
    rfl
  · cases h

instance [Sink ε τ] : Sink ε (Recorder ε τ) where
  message := Sink.message τ
  start := fun layout r => note r.calls (.start layout) (Sink.start layout r.sink)
  write := fun rows r => note r.calls (.write rows) (Sink.write rows r.sink)
  finish := fun r => note r.calls .finish (Sink.finish r.sink)

end Recorder

end SynthTable
