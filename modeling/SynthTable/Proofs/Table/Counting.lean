import SynthTable.Proofs.Table.Accounting
import SynthTable.Proofs.Table.Counters
import SynthTable.Proofs.Table.Joining
import SynthTable.Proofs.Table.Survival

/-!
# Counting columns count the rows

A counting column that is not computed has a counter of its own (`counts_of_build`), whatever external
columns join the plan. Each batch that a run gives to its sink shows the numbers after those of the
batches before (`CountsUp.add`). The main result is `Plan.run_countsUp`: in whatever order the workers
take their steps, a run of a number of rows shows each of as many numbers once, larger ones in later
batches, and increasing ones along the rows of each worker.
-/

namespace SynthTable

open CallRecord

/-! ## The counter of a plan -/

section

variable {s : Schema} {assets : AssetSource} {p q : Plan} {c : Column}

theorem Field.content_of_increment {f : Field} (h : Field.build c assets = .ok f)
    (hkind : c.kind = .incrementInteger ∨ c.kind = .incrementLong)
    (hcomputed : c.isComputed = false) :
    f.content = .declared c.kind (.counter c.countsFrom) none := by
  obtain ⟨domain, computation?, rfl, hdomain, hcomputation⟩ := Field.eq_of_build h
  obtain rfl := Domain.eq_counter_of_build hdomain hkind
  have hnone : c.derivation? = none := by simpa [Column.isComputed] using hcomputed
  rw [Field.computationOf, hnone] at hcomputation
  cases hcomputation
  rfl

/-- The field of a counting column counts, and it is the only one of its name. -/
theorem Plan.counts_of_build (h : build s assets = .ok p)
    (hjoins : Relation.ReflTransGen Joins p q) (hc : c ∈ s.columns) (hkeeps : p.keeps c = true)
    (hkind : c.kind = .incrementInteger ∨ c.kind = .incrementLong)
    (hcomputed : c.isComputed = false) : q.Counts c.name c.countsFrom := by
  obtain ⟨more, hjoined⟩ := exists_joined hjoins
  have hnodup := hjoined.nodup (nodup_fields h)
  have hmem : c.name ∈ p.fields.map (·.name) := by
    obtain ⟨f, hf, hname⟩ := isKept_iff.1 hkeeps
    exact List.mem_map.2 ⟨f, hf, hname⟩
  refine ⟨hnodup, ?_, ?_⟩
  · rw [hjoined.fields_eq, List.map_append]
    exact List.mem_append_left _ hmem
  · intro f hf hname
    rw [hjoined.fields_eq] at hf hnodup
    rcases List.mem_append.1 hf with hf | hf
    · obtain ⟨d, hd, hbuild⟩ := (divides_of_build h).exists_column hf
      obtain rfl := List.inj_on_of_nodup_map (nodup_columns h) hd hc
        ((Field.name_of_build hbuild).symm.trans hname)
      exact ⟨d.kind, Field.content_of_increment hbuild hkind hcomputed⟩
    · rw [List.map_append, List.nodup_append] at hnodup
      exact absurd hname.symm (hnodup.2.2 _ hmem _ (List.mem_map_of_mem hf))

end

/-! ## Batches given to a sink -/

/-- The end of a sink is no batch. -/
theorem CallRecord.written_append_finish (calls : List (CallRecord ε)) (stop? : Option (Stop ε)) :
    written (calls ++ [⟨.finish, stop?⟩]) = written calls :=
  (written_append _ _).trans (List.append_nil _)

namespace Run

section

variable {ε τ : Type} [Sink ε τ] {p : Plan} {request : RunRequest} {start : Nat}
  {stage later : Stage (Recorder ε τ)} {keeps : Nat → List (List Row) → Shared → Prop}

/-- What holds of the number of rows given to a sink, of their batches and of what rows share still
holds when the workers hand in the next batch. -/
def KeptUp (p : Plan) (request : RunRequest) (keeps : Nat → List (List Row) → Shared → Prop) :
    Prop :=
  ∀ ⦃taken handed now b later⦄, keeps taken handed now → taken < request.rows →
    Batch.HandsIn p request.threads request.seed taken (countAt request taken) now (.ok b) later →
    keeps (taken + countAt request taken) (handed ++ [b.rows]) later

theorem KeptUp.accepted (hkept : KeptUp p request keeps) (hlt : start < request.rows)
    (h : keeps start (written stage.sink.calls) stage.shared)
    (hbatch : BatchEnds p request start stage (.ok ()) later) :
    keeps (start + countAt request start) (written later.sink.calls) later.shared := by
  cases hbatch with
  | accepted hgenerate hwrite =>
    rw [Recorder.calls_of_note_ok hwrite, written_append]
    exact hkept h hlt hgenerate

theorem KeptUp.stopped {stop : Stop ε} (hkept : KeptUp p request keeps) (hlt : start < request.rows)
    (h : keeps start (written stage.sink.calls) stage.shared)
    (hbatch : BatchEnds p request start stage (.error stop) later) :
    ∃ taken now, keeps taken (written later.sink.calls) now := by
  cases hbatch with
  | crashed _ => exact ⟨start, _, h⟩
  | @refused _ _ after _ _ _ _ hgenerate hwrite =>
    refine ⟨start + countAt request start, after, ?_⟩
    rw [Recorder.calls_of_note_error hwrite, written_append]
    exact hkept h hlt hgenerate

theorem KeptUp.batches {result : Except (Stop ε) Unit} (hkept : KeptUp p request keeps)
    (h : keeps start (written stage.sink.calls) stage.shared)
    (hbatches : BatchesEnd p request start stage result later) :
    ∃ taken now, keeps taken (written later.sink.calls) now := by
  induction hbatches with
  | done => exact ⟨_, _, h⟩
  | stopped hlt hbatch => exact hkept.stopped hlt h hbatch
  | goesOn hlt hbatch _ ih => exact ih (hkept.accepted hlt h hbatch)

/-- However the steps of a run may end, it holds of the batches given to the sink what every batch
keeps up. -/
theorem KeptUp.steps (hkept : KeptUp p request keeps) {shared : Shared} (h : keeps 0 [] shared)
    {s : τ} {result : Except (Stop ε) Nat} {report : Report} {r : Recorder ε τ}
    (hsteps : StepsEnd p request shared (Recorder.ofSink s) result report r) :
    ∃ taken now, keeps taken (written r.calls) now := by
  have hbegun : ∀ r₁ : Recorder ε τ, Sink.start p.layout (Recorder.ofSink s) = (.ok (), r₁) →
      keeps 0 (written r₁.calls) shared := by
    intro r₁ hstart
    rw [Recorder.calls_of_note_ok hstart]
    exact h
  cases hsteps with
  | unstarted hstart =>
    rw [Recorder.calls_of_note_error hstart]
    exact ⟨0, shared, h⟩
  | stopped hstart hbatches => exact hkept.batches (hbegun _ hstart) hbatches
  | ended hstart hbatches hfinish =>
    obtain ⟨taken, now, hnow⟩ := hkept.batches (hbegun _ hstart) hbatches
    refine ⟨taken, now, ?_⟩
    cases result with
    | error stop =>
      rw [Recorder.calls_of_note_error hfinish, written_append_finish]
      exact hnow
    | ok bytes =>
      rw [Recorder.calls_of_note_ok hfinish, written_append_finish]
      exact hnow

end

end Run

/-! ## Numbers of batches -/

/-- The rows of some batches hold the first numbers, each once. Each batch is made by some workers;
the numbers increase along the rows of each of them, and from one batch to the next. -/
structure CountsUp (holds : Row → Nat → Prop) (threads : Nat) (batches : List (List Row))
    (numbers : List (List (List Nat))) : Prop where
  rows : List.Forall₂ (fun rows parts => List.Forall₂ holds rows parts.flatten) batches numbers
  shares : List.Forall₂ (fun rows parts => parts.map List.length = Batch.shares threads rows.length)
    batches numbers
  perm : numbers.flatten.flatten.Perm (List.range' 1 batches.flatten.length)
  increasing : ∀ parts ∈ numbers, ∀ part ∈ parts, part.Pairwise (· < ·)
  ordered : numbers.Pairwise fun earlier later =>
    ∀ a ∈ earlier.flatten, ∀ b ∈ later.flatten, a < b

namespace CountsUp

variable {holds : Row → Nat → Prop} {threads : Nat} {batches : List (List Row)}
  {numbers : List (List (List Nat))}

theorem nil (holds : Row → Nat → Prop) (threads : Nat) : CountsUp holds threads [] [] := by
  refine ⟨.nil, .nil, .nil, ?_, .nil⟩
  intro parts hparts
  exact absurd hparts List.not_mem_nil

theorem le_of_mem (h : CountsUp holds threads batches numbers) {parts : List (List Nat)}
    (hparts : parts ∈ numbers) {n : Nat} (hn : n ∈ parts.flatten) : n ≤ batches.flatten.length := by
  obtain ⟨part, hpart, hmem⟩ := List.mem_flatten.1 hn
  have hall : n ∈ numbers.flatten.flatten :=
    List.mem_flatten.2 ⟨part, List.mem_flatten.2 ⟨parts, hparts, hpart⟩, hmem⟩
  have hrange := h.perm.mem_iff.1 hall
  rw [List.mem_range'_1] at hrange
  omega

/-- A batch with the next numbers goes on counting. -/
theorem add {name : String} {start : Int64} {rows : List Row} {parts : List (List Nat)}
    (h : CountsUp (Batch.Shows name start) threads batches numbers)
    (hdealt : Batch.Dealt name start threads batches.flatten.length rows parts) :
    CountsUp (Batch.Shows name start) threads (batches ++ [rows]) (numbers ++ [parts]) := by
  refine ⟨List.rel_append h.rows (.cons hdealt.shows .nil),
    List.rel_append h.shares (.cons hdealt.shares .nil), ?_, ?_, ?_⟩
  · rw [List.flatten_concat, List.flatten_append, List.flatten_concat, List.length_append,
      ← List.range'_append_1, Nat.add_comm 1]
    exact h.perm.append hdealt.perm
  · intro other hother
    rcases List.mem_append.1 hother with hother | hother
    · exact h.increasing other hother
    · rw [List.mem_singleton.1 hother]
      exact hdealt.increasing
  · refine List.pairwise_append.2 ⟨h.ordered, List.pairwise_singleton _ _, ?_⟩
    intro earlier hearlier later hlater a ha b hb
    rw [List.mem_singleton.1 hlater] at hb
    have hold := h.le_of_mem hearlier ha
    have hnext := hdealt.perm.mem_iff.1 hb
    rw [List.mem_range'_1] at hnext
    omega

/-- What rows hold may be said in another way for the numbers there are. -/
theorem imp {holds' : Row → Nat → Prop} (h : CountsUp holds threads batches numbers)
    (himp : ∀ row, ∀ n ≤ batches.flatten.length, holds row n → holds' row n) :
    CountsUp holds' threads batches numbers := by
  refine ⟨forall₂_of_mem h.rows fun rows parts hparts hrows => ?_, h.shares, h.perm, h.increasing,
    h.ordered⟩
  exact forall₂_of_mem hrows fun row n hn => himp row n (h.le_of_mem hparts hn)

end CountsUp

/-- A row shows an integer in the column of a name. -/
def Row.ShowsInt (row : Row) (name : String) (z : Int) : Prop :=
  ∃ n, row.get? name = some (.int n) ∧ n.toInt = z

/-- A number that fits does not wrap around. -/
theorem toInt_add_ofNat {start : Int64} {n : Nat}
    (hfits : start.toInt + n ≤ Int64.maxValue.toInt) :
    (start + .ofNat n).toInt = start.toInt + n := by
  have hleast := start.le_toInt
  have hmost : Int64.maxValue.toInt = 2 ^ 63 - 1 := rfl
  rw [Int64.toInt_add, Int64.toInt_ofNat', Int64.size, Int.add_bmod_bmod]
  exact Int.bmod_eq_of_le (by omega) (by omega)

theorem Batch.Shows.showsInt {name : String} {start : Int64} {row : Row} {n : Nat}
    (h : Shows name start row n) (hfits : start.toInt + n ≤ Int64.maxValue.toInt) :
    row.ShowsInt name (start.toInt + n) :=
  ⟨_, h, toInt_add_ofNat hfits⟩

/-! ## Runs -/

/-- A run has given some rows to its sink that show the first numbers of a counter. -/
structure Run.Counts (request : RunRequest) (name : String) (start : Int64) (taken : Nat)
    (handed : List (List Row)) (now : Shared) : Prop where
  taken_le : taken ≤ request.rows
  taken_eq : taken = handed.flatten.length
  counted : now.Counted name start taken
  countsUp : ∃ numbers, CountsUp (Batch.Shows name start) request.threads handed numbers

theorem Run.keptUp_counts {p : Plan} {name : String} {start : Int64} (hplan : p.Counts name start)
    (request : RunRequest) : KeptUp p request (Counts request name start) := by
  intro taken handed now b later h hlt hhands
  -- as many rows as are due, so that the next batch starts where this one ends
  have hlength := hhands.covers.length_rows
  rw [List.length_range', countAt] at hlength
  obtain ⟨numbers, hnumbers⟩ := h.countsUp
  obtain ⟨parts, hdealt, hcounted⟩ := hhands.exists_dealt hplan h.counted
  rw [h.taken_eq] at hdealt
  rw [hlength] at hcounted
  refine ⟨?_, ?_, hcounted, _, hnumbers.add hdealt⟩
  · rw [countAt]
    omega
  · rw [List.flatten_concat, List.length_append, ← h.taken_eq, hlength, countAt]

/-- The values of a counting column in a run of a new plan are the numbers after the least one of the
column, however many workers there are, in whatever order they take their steps, and whatever size
the batches have: the batches given to the sink show the first of these numbers, each once. They
increase along the rows of each worker, and every number of a batch is less than those of later
batches. A run that ends well shows as many numbers as rows were asked for. -/
theorem Plan.run_countsUp {s : Schema} {assets : AssetSource} {p q : Plan} {c : Column}
    (hbuild : build s assets = .ok p) (hjoins : Relation.ReflTransGen Joins p q)
    (hc : c ∈ s.columns) (hkeeps : p.keeps c = true)
    (hkind : c.kind = .incrementInteger ∨ c.kind = .incrementLong)
    (hcomputed : c.isComputed = false) {request : RunRequest}
    (hfits : c.countsFrom.toInt + request.rows ≤ Int64.maxValue.toInt) {shared : Shared}
    (hnew : shared.counters.get? c.name = none) {ε τ : Type} [Sink ε τ] {sink : τ}
    {result : Except (RunError ε) Report} {r : Recorder ε τ}
    (hend : q.MayEnd request shared (Recorder.ofSink sink) result r) :
    (∃ numbers, CountsUp (fun row n => row.ShowsInt c.name (c.countsFrom.toInt + n))
      request.threads (written r.calls) numbers) ∧
    ∀ report, result = .ok report → (written r.calls).flatten.length = request.rows := by
  have hplan := counts_of_build hbuild hjoins hc hkeeps hkind hcomputed
  have hbegun : Run.Counts request c.name c.countsFrom 0 [] shared :=
    ⟨Nat.zero_le _, rfl, Shared.counted_zero hnew _, [], .nil _ _⟩
  constructor
  · obtain ⟨outcome, report, hsteps, -⟩ := hend
    obtain ⟨taken, now, hcounts⟩ := (Run.keptUp_counts hplan request).steps hbegun hsteps
    obtain ⟨numbers, hnumbers⟩ := hcounts.countsUp
    have hle := hcounts.taken_le
    rw [hcounts.taken_eq] at hle
    exact ⟨numbers, hnumbers.imp fun row n hn hshows => hshows.showsInt (by omega)⟩
  · intro report hreport
    obtain ⟨notices, -, hcomplete, -⟩ := hend.accounts.rows
    have hdone := hcomplete report hreport
    rw [← hdone.accepted_eq]
    exact hend.accounts.orderly.complete (List.mem_map.2 ⟨_, hdone.finished, rfl⟩)

/-- Numbers above 40. -/
def ticketNumbers : Column :=
  { Column.plain "number" .incrementInteger with min? := some (.integer 40) }

/-- Tickets with a number and a colour. -/
def tickets : Schema :=
  ⟨Schema.defaultVersion, none,
    [ticketNumbers, { Column.plain "colour" .string with values := [("red", 1)] }]⟩

/-- Texts that are all the same. -/
def sameText : ExternalSource := ⟨"same", fun _ => .ok (.ok "same")⟩

theorem Plan.run_countsUp_tickets :
    ∃ p q report r, build tickets noFiles = .ok p ∧ p.withExternal "note" sameText = .ok q ∧
      q.run ⟨"", 5, 7, 2, 3, 0⟩ ⟨[], ⟨fun _ => .midnight .epoch, 0⟩⟩
        (Recorder.ofSink Collector.empty) = (.ok report, r) ∧
      (written r.calls).flatten.length = 5 ∧
      ∃ numbers, CountsUp (fun row n => row.ShowsInt "number" (40 + n)) 2 (written r.calls)
        numbers := by
  have hrun : (build tickets noFiles).toOption.bind (fun p =>
      (p.withExternal "note" sameText).toOption.bind fun q =>
        (q.run ⟨"", 5, 7, 2, 3, 0⟩ ⟨[], ⟨fun _ => .midnight .epoch, 0⟩⟩
          (Recorder.ofSink Collector.empty)).1.toOption.map fun _ => p.fields.map (·.name)) =
      some ["number", "colour"] := by
    decide +kernel
  cases hbuild : build tickets noFiles with
  | error fault => simp [hbuild, Except.toOption] at hrun
  | ok p =>
    cases hjoin : p.withExternal "note" sameText with
    | error fault => simp [hbuild, hjoin, Except.toOption] at hrun
    | ok q =>
      have hend := mayEnd_run q ⟨"", 5, 7, 2, 3, 0⟩ ⟨[], ⟨fun _ => .midnight .epoch, 0⟩⟩
        (Recorder.ofSink Collector.empty)
      rcases hresult : q.run ⟨"", 5, 7, 2, 3, 0⟩ ⟨[], ⟨fun _ => .midnight .epoch, 0⟩⟩
        (Recorder.ofSink Collector.empty) with ⟨failure | report, r⟩
      · simp [hbuild, hjoin, hresult, Except.toOption] at hrun
      · rw [hresult] at hend
        have hnames : p.fields.map (·.name) = ["number", "colour"] := by
          simpa [hbuild, hjoin, hresult, Except.toOption] using hrun
        have hkeeps : p.keeps ticketNumbers = true := by
          rw [keeps, isKept, hnames]
          decide
        have hcounts := run_countsUp hbuild (.single ⟨_, _, hjoin⟩) List.mem_cons_self hkeeps
          (.inl rfl) rfl (by decide) rfl hend
        exact ⟨p, q, report, r, rfl, hjoin, hresult, hcounts.2 report rfl, hcounts.1⟩

end SynthTable
