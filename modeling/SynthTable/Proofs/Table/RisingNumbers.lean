import SynthTable.Proofs.Table.Counting

/-!
# Numbers go up until they wrap around

A counting field gives the numbers after the least one of its column, one at each call, whatever is
done between the calls and wherever its random words come from (`Field.Calls.counted`). A number is
greater than those before it as long as it fits into 64 bits. After the greatest integer there is no
greater one, and the counter goes on with the least integer (`forall_lt_iff_fits`). The main result
is `Field.rises_iff`.
-/

namespace SynthTable

/-- The number after the first ones is greater than all of them, and than the start, exactly if it
fits. If it does not, then the greatest integer is among those before it. -/
theorem forall_lt_iff_fits (start : Int64) (given : Nat) :
    (∀ n ≤ given, start + .ofNat n < start + .ofNat (given + 1)) ↔
      start.toInt + (given + 1) ≤ Int64.maxValue.toInt := by
  have hmost : Int64.maxValue.toInt = 2 ^ 63 - 1 := rfl
  constructor
  · intro hgreater
    by_contra hover
    have hstart := start.toInt_lt
    obtain ⟨n, hn⟩ := Int.eq_ofNat_of_zero_le
      (by omega : 0 ≤ Int64.maxValue.toInt - start.toInt)
    have hgreatest : (start + .ofNat n).toInt = Int64.maxValue.toInt := by
      rw [toInt_add_ofNat (by omega)]
      omega
    have hlt := Int64.lt_iff_toInt_lt.1 (hgreater n (by omega))
    have hnext := (start + Int64.ofNat (given + 1)).toInt_lt
    omega
  · intro hfits n hn
    rw [Int64.lt_iff_toInt_lt, toInt_add_ofNat (by omega), toInt_add_ofNat (by omega)]
    omega

namespace Field

/-- What a field gives when it is called again and again, and what is shared afterwards. Each call
may have a source of its own. Between two calls anything may happen that leaves the counter of the
field alone, like calls of other fields. -/
inductive Calls (f : Field) (before : Shared) : List (Except Crash Value) → Shared → Prop
  | nil : Calls f before [] before
  | others {results now later} (h : Calls f before results now)
    (hkept : later.counters.get? f.name = now.counters.get? f.name) : Calls f before results later
  | call {results now} (h : Calls f before results now) {σ : Type} [RandomSource σ] (source : σ) :
    Calls f before (results ++ [(f.generate ⟨source, now⟩).1]) (f.generate ⟨source, now⟩).2.shared

variable {f : Field} {kind : ColumnKind} {start : Int64} {computation? : Option Computation}

theorem generate_of_counter (hcontent : f.content = .declared kind (.counter start) computation?)
    {σ : Type} [RandomSource σ] {w : World σ} {given : Nat}
    (h : w.shared.Counted f.name start given) :
    (f.generate w).1 = .ok (.int (start + .ofNat (given + 1))) ∧
      (f.generate w).2.shared.Counted f.name start (given + 1) := by
  obtain ⟨hnumber, hcounted⟩ := h.count
  rw [generate, hcontent, ← hnumber]
  exact ⟨rfl, hcounted⟩

/-- The first numbers after a start. -/
def numbersAfter (start : Int64) (given : Nat) : List Int64 :=
  (List.range' 1 given).map fun n => start + .ofNat n

theorem numbersAfter_succ (start : Int64) (given : Nat) :
    numbersAfter start (given + 1) = numbersAfter start given ++ [start + .ofNat (given + 1)] := by
  rw [numbersAfter, List.range'_1_concat, List.map_append, Nat.add_comm 1]
  rfl

theorem mem_start_cons_numbersAfter_iff {m : Int64} {given : Nat} :
    m ∈ start :: numbersAfter start given ↔ ∃ n ≤ given, start + .ofNat n = m := by
  have hall : start :: numbersAfter start given =
      (List.range' 0 (given + 1)).map fun n => start + .ofNat n := by
    rw [List.range'_succ, List.map_cons, numbersAfter]
    exact congrArg (· :: _) (Int64.add_zero start).symm
  simp only [hall, List.mem_map, List.mem_range'_1, Nat.zero_le, true_and, Nat.zero_add,
    Nat.lt_succ_iff]

/-- The calls of a counting field give the numbers after its start. -/
theorem Calls.counted (hcontent : f.content = .declared kind (.counter start) computation?)
    {before now : Shared} {results : List (Except Crash Value)}
    (hnew : before.counters.get? f.name = none) (h : f.Calls before results now) :
    results = (numbersAfter start results.length).map (fun n => .ok (.int n)) ∧
      now.Counted f.name start results.length := by
  induction h with
  | nil => exact ⟨rfl, Shared.counted_zero hnew start⟩
  | others _ hkept ih =>
    refine ⟨ih.1, ?_⟩
    rw [Shared.Counted, hkept]
    exact ih.2
  | @call results now _ σ _ source ih =>
    obtain ⟨hvalue, hcounted⟩ := generate_of_counter hcontent (w := ⟨source, now⟩) ih.2
    rw [List.length_append, List.length_singleton]
    refine ⟨?_, hcounted⟩
    rw [numbersAfter_succ, List.map_append, ← ih.1, hvalue]
    rfl

/-- The field of a counting column whose counter is new gives a number at every call. After any calls,
the next number is greater than the number the column starts from, and than all numbers given before,
if and only if the start and the number of calls, the next one included, together do not pass the
greatest integer. -/
theorem rises_iff {c : Column} {assets : AssetSource} (hbuild : build c assets = .ok f)
    (hkind : c.kind = .incrementInteger ∨ c.kind = .incrementLong)
    {before now : Shared} {results : List (Except Crash Value)}
    (hnew : before.counters.get? c.name = none) (hcalls : f.Calls before results now) :
    ∃ numbers : List Int64, results = numbers.map (fun n => .ok (.int n)) ∧
      ∀ {σ : Type} [RandomSource σ] (source : σ), ∃ n,
        (f.generate ⟨source, now⟩).1 = .ok (.int n) ∧
        ((∀ m ∈ c.countsFrom :: numbers, m < n) ↔
          c.countsFrom.toInt + (numbers.length + 1) ≤ Int64.maxValue.toInt) := by
  obtain ⟨domain, computation?, rfl, hdomain, -⟩ := eq_of_build hbuild
  obtain rfl := Domain.eq_counter_of_build hdomain hkind
  obtain ⟨hresults, hcounted⟩ := hcalls.counted rfl hnew
  have hlength : (numbersAfter c.countsFrom results.length).length = results.length := by
    rw [numbersAfter, List.length_map, List.length_range']
  refine ⟨_, hresults, fun source => ?_⟩
  refine ⟨_, (generate_of_counter rfl (w := ⟨source, now⟩) hcounted).1, ?_⟩
  rw [hlength, ← forall_lt_iff_fits]
  constructor
  · intro hgreater n hn
    exact hgreater _ (mem_start_cons_numbersAfter_iff.2 ⟨n, hn, rfl⟩)
  · intro hgreater m hm
    obtain ⟨n, hn, rfl⟩ := mem_start_cons_numbersAfter_iff.1 hm
    exact hgreater n hn

/-- The third ticket has a greater number than the two before. -/
theorem rises_iff_tickets :
    ticketNumbers.kind = .incrementInteger ∧
      ∀ assets, ∃ f, build ticketNumbers assets = .ok f ∧
        ∀ (clock : Clock) {σ : Type} [RandomSource σ] (source : σ), ∃ now,
          f.Calls ⟨[], clock⟩ [.ok (.int 41), .ok (.int 42)] now ∧
          ∃ n, (f.generate ⟨source, now⟩).1 = .ok (.int n) ∧ ∀ m ∈ [40, 41, 42], m < n := by
  refine ⟨rfl, fun assets => ?_⟩
  have hbuild : build ticketNumbers assets =
      .ok ⟨"number", false, .declared .incrementInteger (.counter 40) none⟩ := by
    rfl
  refine ⟨_, hbuild, fun clock σ _ source => ?_⟩
  have hnone : Calls ⟨"number", false, .declared .incrementInteger (.counter 40) none⟩
      ⟨[], clock⟩ [] ⟨[], clock⟩ := .nil
  have hcalls := (hnone.call source).call source
  refine ⟨_, hcalls, ?_⟩
  obtain ⟨numbers, hnumbers, hnext⟩ := rises_iff hbuild (.inl rfl) rfl hcalls
  obtain ⟨n, hn, hiff⟩ := hnext source
  obtain rfl : [41, 42] = numbers := by
    have hmap : [41, 42].map (fun n : Int64 => (.ok (.int n) : Except Crash Value)) =
        numbers.map fun n => .ok (.int n) := hnumbers
    refine List.map_injective_iff.2 ?_ hmap
    intro a b hab
    cases hab
    rfl
  exact ⟨n, hn, hiff.2 (by decide)⟩

/-- A counter that starts at the greatest integer. -/
def fullCounter : Column :=
  { Column.plain "n" .incrementLong with min? := some (.integer Int64.maxValue) }

/-- The schema of this column is without error and the column is made ready, but the first number
that it gives is below its start. -/
theorem not_rises_fullCounter :
    Schema.check ⟨"", none, [fullCounter]⟩ = .ok ⟨[], []⟩ ∧
      ∀ assets, ∃ f, build fullCounter assets = .ok f ∧
        ∀ (clock : Clock) {σ : Type} [RandomSource σ] (source : σ), ∃ n,
          (f.generate ⟨source, ⟨[], clock⟩⟩).1 = .ok (.int n) ∧ ¬ fullCounter.countsFrom < n := by
  refine ⟨by rfl, fun assets => ?_⟩
  have hbuild : build fullCounter assets =
      .ok ⟨"n", false, .declared .incrementLong (.counter Int64.maxValue) none⟩ := by
    rfl
  refine ⟨_, hbuild, fun clock σ _ source => ⟨Int64.maxValue + 1, rfl, ?_⟩⟩
  decide

end Field

end SynthTable
