import SynthTable.Proofs.Order.NameMap
import SynthTable.Table.Notice

/-!
# What a report keeps

A report counts all notices and keeps the first ones up to its limit (`recordAll_eq`). How the
notices are cut into parts makes no difference (`recordAll_append`). Its counts are those of a list
of codes (`CountsOf`): each notice adds its own code, and a failure adds one, too. What a report says
of all notices so far (`Keeps`) is kept up when more are recorded (`Keeps.recordAll`).
-/

namespace SynthTable.Report

/-- The counts with those of some notices. -/
def tally (notices : List Notice) (counts : NameMap Nat) : NameMap Nat :=
  notices.foldl (fun counts n => increase n.code counts) counts

/-- The number of notices for which there is room. -/
def room (r : Report) : Nat := r.limit - r.recorded.length

theorem record_eq (r : Report) (n : Notice) :
    r.record n =
      { r with
        counts := increase n.code r.counts
        recorded := r.recorded ++ [n].take r.room
        suppressed := r.suppressed + (1 - r.room) } := by
  by_cases hroom : r.recorded.length < r.limit
  · have hfits : 1 ≤ r.room := by
      rw [room]
      omega
    rw [List.take_of_length_le hfits, Nat.sub_eq_zero_of_le hfits]
    simp only [record, hroom, if_true, Nat.add_zero]
  · have hfull : r.room = 0 := by
      rw [room]
      omega
    rw [hfull]
    simp only [record, hroom, if_false, List.take_zero, List.append_nil, Nat.sub_zero]

theorem room_record (r : Report) (n : Notice) : (r.record n).room = r.room - 1 := by
  rw [record_eq, room, room]
  dsimp only
  rw [List.length_append, List.length_take, List.length_singleton]
  omega

theorem recordAll_append (r : Report) (xs ys : List Notice) :
    r.recordAll (xs ++ ys) = (r.recordAll xs).recordAll ys := List.foldl_append

/-- All notices are counted, the first ones are kept, and the others are suppressed. -/
theorem recordAll_eq (r : Report) (notices : List Notice) :
    r.recordAll notices =
      { r with
        counts := tally notices r.counts
        recorded := r.recorded ++ notices.take r.room
        suppressed := r.suppressed + (notices.length - r.room) } := by
  induction notices generalizing r with
  | nil => simp [recordAll, tally]
  | cons n rest ih =>
    have hrest := ih (r.record n)
    rw [room_record, record_eq] at hrest
    have hsuppressed : r.suppressed + (1 - r.room) + (rest.length - (r.room - 1)) =
        r.suppressed + ((n :: rest).length - r.room) := by
      rw [List.length_cons]
      omega
    have htake : [n].take r.room ++ rest.take (r.room - 1) = (n :: rest).take r.room :=
      List.take_append.symm
    rw [List.append_assoc, htake, hsuppressed] at hrest
    rw [recordAll, List.foldl_cons, record_eq]
    exact hrest

/-! ## Counts -/

/-- The counts are those of the codes of a list: each code of the list with the number of its
occurrences, in the order of the codes. -/
structure CountsOf (codes : List String) (counts : NameMap Nat) : Prop where
  increasing : counts.IsIncreasing
  get?_eq : ∀ code, counts.get? code = if code ∈ codes then some (codes.count code) else none

theorem countsOf_nil : CountsOf [] [] := ⟨List.Pairwise.nil, fun _ => rfl⟩

variable {codes : List String} {counts : NameMap Nat}

/-- One more of a code is counted at that code only. -/
theorem CountsOf.increase (h : CountsOf codes counts) (code : String) :
    CountsOf (codes ++ [code]) (increase code counts) := by
  refine ⟨NameMap.isIncreasing_insert h.increasing _ _, fun other => ?_⟩
  rw [Report.increase, NameMap.update, NameMap.get?_insert, h.get?_eq, h.get?_eq, List.count_append]
  by_cases hother : other = code
  · subst hother
    by_cases hmem : other ∈ codes
    · simp [hmem]
    · simp [hmem, List.count_eq_zero_of_not_mem hmem]
  · have hcode : [code].count other = 0 := List.count_eq_zero_of_not_mem (by simpa using hother)
    simp [hother, hcode]

/-- The counts after some notices are those of their codes, too. -/
theorem CountsOf.tally (h : CountsOf codes counts) (notices : List Notice) :
    CountsOf (codes ++ notices.map (·.code)) (tally notices counts) := by
  induction notices generalizing codes counts with
  | nil =>
    rw [List.map_nil, List.append_nil]
    exact h
  | cons n rest ih =>
    rw [List.map_cons, List.append_cons]
    exact ih (h.increase n.code)

/-! ## All notices so far -/

/-- A report with a limit on some notices: all are counted by their codes, the first ones up to the
limit are kept, and the others are suppressed. -/
structure Keeps (limit : Nat) (notices : List Notice) (r : Report) : Prop where
  limit_eq : r.limit = limit
  counts : CountsOf (notices.map (·.code)) r.counts
  recorded_eq : r.recorded = notices.take limit
  suppressed_eq : r.suppressed = notices.length - limit

theorem Keeps.recordAll {limit : Nat} {notices : List Notice} {r : Report}
    (h : Keeps limit notices r) (more : List Notice) :
    Keeps limit (notices ++ more) (r.recordAll more) := by
  have hroom : r.room = limit - notices.length := by
    rw [room, h.limit_eq, h.recorded_eq, List.length_take]
    omega
  rw [recordAll_eq, hroom]
  refine ⟨h.limit_eq, ?_, ?_, ?_⟩
  · rw [List.map_append]
    exact h.counts.tally more
  · show r.recorded ++ _ = _
    rw [h.recorded_eq, List.take_append]
  · show r.suppressed + _ = _
    rw [h.suppressed_eq, List.length_append]
    omega

end SynthTable.Report
