import Mathlib.Logic.Function.Basic
import SynthTable.Proofs.Table.Counting

/-!
# Seeds of rows

The index of a row is multiplied, put into the seed of the run by an exclusive or, and the result is
multiplied again. Both factors are odd, so that each has an inverse modulo 2^64 and every one of
these steps can be undone. Whatever is done last to the seed of the run or to the index, nothing is
lost: seeds of rows are a bijection of either one (`rowSeed_bijective`, `rowSeed_left_bijective`).

The indices of a run have 64 bits, and so its rows have different seeds (`Run.nodup_seeds`). The rows
given to a sink are made of the first of these seeds, one after the other, in whatever order the
workers take their steps (`Run.Seeded`). The main result is `Plan.run_seeds_distinct`.
-/

namespace SynthTable

open CallRecord

/-! ## Steps that can be undone -/

theorem mul_right_bijective {a b : UInt64} (h : a * b = 1) :
    Function.Bijective fun x : UInt64 => x * a := by
  refine Function.bijective_iff_has_inverse.2 ⟨fun x => x * b, ?_, ?_⟩
  · intro x
    show x * a * b = x
    rw [UInt64.mul_assoc, h, UInt64.mul_one]
  · intro x
    show x * b * a = x
    rw [UInt64.mul_assoc, UInt64.mul_comm b, h, UInt64.mul_one]

theorem xor_right_bijective (a : UInt64) : Function.Bijective fun x : UInt64 => x ^^^ a := by
  have hinvolutive : Function.Involutive fun x : UInt64 => x ^^^ a := by
    intro x
    show x ^^^ a ^^^ a = x
    rw [UInt64.xor_assoc, UInt64.xor_self, UInt64.xor_zero]
  exact hinvolutive.bijective

theorem xor_left_bijective (a : UInt64) : Function.Bijective fun x : UInt64 => a ^^^ x := by
  have hcomm : (fun x : UInt64 => a ^^^ x) = fun x => x ^^^ a := by
    funext x
    exact UInt64.xor_comm a x
  rw [hcomm]
  exact xor_right_bijective a

/-- The factor of the index. -/
theorem mulIndexFactor_bijective :
    Function.Bijective fun x : UInt64 => x * 0x9e3779b97f4a7c15 :=
  mul_right_bijective (b := 0xf1de83e19937733d) (by decide)

/-- The factor of the mixed words. -/
theorem mulMixFactor_bijective : Function.Bijective fun x : UInt64 => x * 0x100000001b3 :=
  mul_right_bijective (b := 0xce965057aff6957b) (by decide)

theorem rowSeed_bijective (seed : UInt64) : Function.Bijective (rowSeed seed) :=
  mulMixFactor_bijective.comp
    ((xor_left_bijective (seed ^^^ 0xcbf29ce484222325)).comp mulIndexFactor_bijective)

theorem rowSeed_left_bijective (index : UInt64) :
    Function.Bijective fun seed => rowSeed seed index :=
  mulMixFactor_bijective.comp
    ((xor_right_bijective (index * 0x9e3779b97f4a7c15)).comp
      (xor_right_bijective 0xcbf29ce484222325))

/-! ## Seeds of a run -/

namespace Run

/-- The seeds of the rows that a run is asked for, in the order of their indices. -/
def seeds (request : RunRequest) : List UInt64 :=
  (List.range request.rows).map fun i => rowSeed request.seed (.ofNat i)

theorem length_seeds (request : RunRequest) : (seeds request).length = request.rows := by
  rw [seeds, List.length_map, List.length_range]

theorem take_seeds {request : RunRequest} {taken : Nat} (h : taken ≤ request.rows) :
    (seeds request).take taken =
      (List.range taken).map fun i => rowSeed request.seed (.ofNat i) := by
  rw [seeds, ← List.map_take, List.take_range, Nat.min_eq_left h]

/-- Numbers of rows have 64 bits, so that no index wraps around. -/
theorem nodup_seeds {request : RunRequest} (h : request.rows ≤ UInt64.size) :
    (seeds request).Nodup := by
  refine List.Nodup.map_on ?_ List.nodup_range
  intro i hi j hj hseed
  rw [List.mem_range] at hi hj
  have hindex : UInt64.ofNat i = UInt64.ofNat j := (rowSeed_bijective request.seed).injective hseed
  have hnat := congrArg UInt64.toNat hindex
  rwa [UInt64.toNat_ofNat_of_lt' (by omega), UInt64.toNat_ofNat_of_lt' (by omega)] at hnat

end Run

/-- A row of a plan made of the words of a seed. -/
def Plan.Makes (p : Plan) (seed : UInt64) (row : Row) : Prop :=
  ∃ errors, Plan.Fills p.fields (Random.Stream.ofSeed seed) ⟨.empty p.layout, []⟩ ⟨row, errors⟩

namespace Batch

theorem Covers.makes {p : Plan} {seed : UInt64} {indices : List Nat} {b : Batch}
    (h : Covers p seed indices b) :
    List.Forall₂ p.Makes (indices.map fun i => rowSeed seed (.ofNat i)) b.rows := by
  induction h with
  | nil => exact .nil
  | @cons i indices result b hrow _ ih => exact .cons ⟨result.errors, hrow⟩ ih

end Batch

namespace Run

/-- A run has given some rows to its sink that are made of the first of its seeds. -/
structure Seeded (p : Plan) (request : RunRequest) (taken : Nat) (handed : List (List Row))
    (now : Shared) : Prop where
  taken_le : taken ≤ request.rows
  makes : List.Forall₂ p.Makes ((seeds request).take taken) handed.flatten

theorem seeded_zero (p : Plan) (request : RunRequest) (shared : Shared) :
    Seeded p request 0 [] shared :=
  ⟨Nat.zero_le _, .nil⟩

/-- The rows of the next batch are made of the next seeds. -/
theorem keptUp_seeded (p : Plan) (request : RunRequest) : KeptUp p request (Seeded p request) := by
  intro taken handed now b later h hlt hhands
  have hle : taken + countAt request taken ≤ request.rows := by
    rw [countAt]
    omega
  refine ⟨hle, ?_⟩
  have hmakes := h.makes
  rw [take_seeds h.taken_le] at hmakes
  rw [take_seeds hle, List.flatten_concat, List.range_eq_range', ← List.range'_append_1,
    ← List.range_eq_range', Nat.zero_add, List.map_append]
  exact List.rel_append hmakes hhands.covers.makes

end Run

/-- Seeds of rows never collide: for each seed of a run they are a bijection of the index, and for
each index a bijection of the seed of the run. The rows of a run, of which there are at most 2^64,
have different seeds. The rows that it gives to its sink are made of the first of them, one after the
other, in whatever order the workers take their steps and however the run ends; a run that ends well
has used all of them. -/
theorem Plan.run_seeds_distinct (p : Plan) {request : RunRequest}
    (hrows : request.rows ≤ UInt64.size) {shared : Shared} {ε τ : Type} [Sink ε τ] {sink : τ}
    {result : Except (RunError ε) Report} {r : Recorder ε τ}
    (hend : p.MayEnd request shared (Recorder.ofSink sink) result r) :
    (∀ seed, Function.Bijective (rowSeed seed)) ∧
    (∀ index, Function.Bijective fun seed => rowSeed seed index) ∧
    (Run.seeds request).Nodup ∧
    ∃ given, given <+: Run.seeds request ∧
      List.Forall₂ p.Makes given (written r.calls).flatten ∧
      ∀ report, result = .ok report → given = Run.seeds request := by
  refine ⟨rowSeed_bijective, rowSeed_left_bijective, Run.nodup_seeds hrows, ?_⟩
  have haccounts := hend.accounts
  obtain ⟨outcome, report, hsteps, -⟩ := hend
  obtain ⟨taken, now, hseeded⟩ :=
    (Run.keptUp_seeded p request).steps (Run.seeded_zero p request shared) hsteps
  refine ⟨_, List.take_prefix taken _, hseeded.makes, ?_⟩
  rintro final rfl
  refine (List.take_prefix taken _).eq_of_length ?_
  rw [hseeded.makes.length_eq, haccounts.length_written, Run.length_seeds]

/-- Five tickets in batches of three, which two workers make. -/
def fiveTickets : RunRequest := ⟨"", 5, 7, 2, 3, 0⟩

theorem Plan.run_seeds_distinct_tickets :
    ∃ p report r, build tickets noFiles = .ok p ∧
      p.run fiveTickets ⟨[], ⟨fun _ => .midnight .epoch, 0⟩⟩ (Recorder.ofSink Collector.empty) =
        (.ok report, r) ∧
      (Run.seeds fiveTickets).Nodup ∧
      List.Forall₂ p.Makes (Run.seeds fiveTickets) (written r.calls).flatten := by
  have hrun : (build tickets noFiles).toOption.bind (fun p =>
      (p.run fiveTickets ⟨[], ⟨fun _ => .midnight .epoch, 0⟩⟩
        (Recorder.ofSink Collector.empty)).1.toOption.map (·.rowsGenerated)) = some 5 := by
    decide +kernel
  cases hbuild : build tickets noFiles with
  | error fault => simp [hbuild, Except.toOption] at hrun
  | ok p =>
    have hend := mayEnd_run p fiveTickets ⟨[], ⟨fun _ => .midnight .epoch, 0⟩⟩
      (Recorder.ofSink Collector.empty)
    rcases hresult : p.run fiveTickets ⟨[], ⟨fun _ => .midnight .epoch, 0⟩⟩
      (Recorder.ofSink Collector.empty) with ⟨failure | report, r⟩
    · simp [hbuild, hresult, Except.toOption] at hrun
    · rw [hresult] at hend
      have hrows : fiveTickets.rows ≤ UInt64.size := by decide
      obtain ⟨-, -, hnodup, given, -, hmakes, hall⟩ := run_seeds_distinct p hrows hend
      rw [hall report rfl] at hmakes
      exact ⟨p, report, r, rfl, hresult, hnodup, hmakes⟩

end SynthTable
