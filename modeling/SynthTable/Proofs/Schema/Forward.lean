import SynthTable.Proofs.Schema.Arrangement
import SynthTable.Proofs.Schema.Findings
import SynthTable.Proofs.Schema.Reading

/-!
# Forward references

A column may read only columns declared before it. The check of a schema reports a column that reads
itself or a later one, and so does the report on the references. Both find the same columns, those
that read ahead (`Column.ReadsAhead`), though each looks at the places of names in its own way. If
there are none, every step of the arrangement takes the first of the columns left
(`arrange_of_backward`), so that it keeps the order of declaration. The main result is
`check_agrees_report`.
-/

namespace SynthTable

/-- A column that comes after the columns `before` reads a column that is declared, but not before
it. -/
def Column.ReadsAhead (s : Schema) (before : List Column) (c : Column) : Prop :=
  ∃ n ∈ c.references, n ∈ s.columns.map (·.name) ∧ n ∉ before.map (·.name)

/-- The check found the column of a name to read one not declared before it. -/
def CheckReport.isForward (report : CheckReport) (name : String) : Bool :=
  report.errors.any fun issue =>
    issue.column == name && issue.finding.code == "forward_reference"

namespace Schema

theorem code_eq_forward_iff {f : Finding} :
    f.code = "forward_reference" ↔ ∃ n, f = .forwardReference n := by
  cases f <;> simp [Finding.code]

section

variable {s : Schema} {before after : List Column} {c : Column}

/-! ## What both find -/

/-- The check finds the columns that read ahead. -/
theorem exists_forwardReference_iff (h : s.columns = before ++ c :: after) :
    (∃ n, .forwardReference n ∈ s.findingsAfter before c) ↔ c.ReadsAhead s before := by
  constructor
  · rintro ⟨n, hn⟩
    obtain ⟨d, hd, href, hfinding⟩ := (Column.mem_findings_iff_of_reference? rfl).1 hn
    refine ⟨n, by rwa [Column.references_of_derivation hd], ?_⟩
    by_cases hdeclared : n ∈ s.columns.map (·.name)
    · refine ⟨hdeclared, fun hbefore => ?_⟩
      rw [Column.referenceFinding?_of_before h hbefore] at hfinding
      split at hfinding <;> cases hfinding
    · rw [Column.referenceFinding?_of_undeclared hdeclared] at hfinding
      split at hfinding <;> cases hfinding
  · rintro ⟨n, hn, hdeclared, hbefore⟩
    obtain ⟨d, hd, href⟩ := Column.exists_derivation hn
    exact ⟨n, Column.mem_findings_of_reference hd href
      (Column.referenceFinding?_of_later h hdeclared hbefore)⟩

theorem isForward_iff {report : CheckReport} (hcheck : s.check = .ok report)
    (h : s.columns = before ++ c :: after) :
    report.isForward c.name = true ↔ c.ReadsAhead s before := by
  obtain ⟨hfault, rfl⟩ := check_eq_ok_iff.1 hcheck
  have hnodup := (nameFault?_eq_none_iff.1 hfault).2
  rw [← exists_forwardReference_iff h]
  simp only [CheckReport.isForward, List.any_eq_true, List.mem_filter, Bool.and_eq_true, beq_iff_eq]
  constructor
  · rintro ⟨issue, ⟨hmem, -⟩, hname, hcode⟩
    obtain ⟨f, hf, rfl⟩ := (mem_issues_iff hnodup h).1 ⟨hmem, hname⟩
    obtain ⟨n, rfl⟩ := code_eq_forward_iff.1 hcode
    exact ⟨n, hf⟩
  · rintro ⟨n, hn⟩
    obtain ⟨hmem, hname⟩ := (mem_issues_iff hnodup h).2 ⟨_, hn, rfl⟩
    exact ⟨_, ⟨hmem, rfl⟩, hname, rfl⟩

/-- The report on the references finds the columns that read ahead. -/
theorem any_sourcesOf_iff (hnodup : (s.columns.map (·.name)).Nodup)
    (h : s.columns = before ++ c :: after) :
    (s.sourcesOf c).any (before.length ≤ ·) = true ↔ c.ReadsAhead s before := by
  simp only [List.any_eq_true, decide_eq_true_eq]
  constructor
  · rintro ⟨j, hj, hlater⟩
    obtain ⟨n, hn, hplace⟩ := (mem_sourcesOf_iff hnodup).1 hj
    refine ⟨n, hn, List.mem_of_getElem? hplace, fun hbefore => ?_⟩
    obtain ⟨i, hi, hposition⟩ := position?_of_before h hbefore
    rw [(position?_eq_some_iff hnodup).2 hplace] at hposition
    cases hposition
    omega
  · rintro ⟨n, hn, hdeclared, hbefore⟩
    obtain ⟨j, hlater, hposition⟩ := position?_of_later h hdeclared hbefore
    exact ⟨j, (mem_sourcesOf_iff hnodup).2 ⟨n, hn, (position?_eq_some_iff hnodup).1 hposition⟩,
      hlater⟩

/-- A condition on columns and their places that is one on the columns finds the same names. -/
theorem map_filter_zipIdx {columns : List Column} {p : Column × Nat → Bool} {q : String → Bool}
    (h : ∀ before c after, columns = before ++ c :: after → p (c, before.length) = q c.name) :
    (columns.zipIdx.filter p).map (·.1.name) = (columns.map (·.name)).filter q := by
  have hsame : columns.zipIdx.filter p = columns.zipIdx.filter fun e => q e.1.name := by
    refine List.filter_congr fun e he => ?_
    obtain ⟨c, i⟩ := e
    rw [List.mk_mem_zipIdx_iff_getElem?] at he
    obtain ⟨hi, rfl⟩ := List.getElem?_eq_some_iff.1 he
    have hsplit : columns = columns.take i ++ columns[i] :: columns.drop (i + 1) := by
      rw [← List.drop_eq_getElem_cons hi, List.take_append_drop]
    have hplace := h _ _ _ hsplit
    rwa [List.length_take, Nat.min_eq_left (Nat.le_of_lt hi)] at hplace
  rw [hsame, List.filter_map, ← List.zipIdx_map_fst 0 columns, List.filter_map, List.map_map,
    List.zipIdx_map_fst]
  rfl

theorem outOfOrder_eq {report : CheckReport} (hcheck : s.check = .ok report) :
    s.referenceReport.outOfOrder = (s.columns.map (·.name)).filter report.isForward := by
  have hnodup := (nameFault?_eq_none_iff.1 (check_eq_ok_iff.1 hcheck).1).2
  refine map_filter_zipIdx fun before c after hsplit => ?_
  rw [Bool.eq_iff_iff, isForward_iff hcheck hsplit]
  exact any_sourcesOf_iff hnodup hsplit

/-! ## The order of declaration -/

/-- If no place reads itself or a later one, the arrangement keeps the places as they are. -/
theorem Arranged.eq_of_backward {sources : List (List Nat)} {places order rest : List Nat}
    (h : Arranged sources places order rest) (hsorted : places.Pairwise (· < ·))
    (hbackward : ∀ i ∈ places, ∀ j, ReadsPlace sources i j → j < i) :
    order = places ∧ rest = [] := by
  -- the first of the places reads none of them
  have hhead {i : Nat} {rest : List Nat} (hsorted : (i :: rest).Pairwise (· < ·))
      (hbackward : ∀ j, ReadsPlace sources i j → j < i) :
      ∀ j ∈ i :: rest, ¬ ReadsPlace sources i j := by
    intro j hj hreads
    have hlt := hbackward j hreads
    rcases List.mem_cons.1 hj with rfl | hj
    · exact Nat.lt_irrefl _ hlt
    · exact Nat.lt_asymm hlt ((List.pairwise_cons.1 hsorted).1 j hj)
  induction h with
  | @stops places h =>
    cases places with
    | nil => exact ⟨rfl, rfl⟩
    | cons i rest =>
      obtain ⟨j, hj, hreads⟩ := h i List.mem_cons_self
      exact absurd hreads (hhead hsorted (hbackward i List.mem_cons_self) j hj)
  | @next places k order rest hk hfree hfirst _ ih =>
    cases places with
    | nil => cases hk
    | cons i later =>
      have hki : k ≤ i :=
        hfirst i List.mem_cons_self (hhead hsorted (hbackward i List.mem_cons_self))
      obtain rfl : k = i := by
        rcases List.mem_cons.1 hk with rfl | hk
        · rfl
        · exact absurd ((List.pairwise_cons.1 hsorted).1 k hk) (Nat.not_lt.2 hki)
      rw [List.erase_cons_head] at ih
      obtain ⟨rfl, rfl⟩ := ih (List.pairwise_cons.1 hsorted).2 fun i hi =>
        hbackward i (List.mem_cons_of_mem _ hi)
      exact ⟨rfl, rfl⟩

theorem order?_of_backward (hnodup : (s.columns.map (·.name)).Nodup)
    (hahead : ∀ before c after, s.columns = before ++ c :: after → ¬ c.ReadsAhead s before) :
    s.referenceReport.order? = some (s.columns.map (·.name)) := by
  have hbackward : ∀ i ∈ List.range s.columns.length, ∀ j, ReadsPlace s.sources i j → j < i := by
    intro i hi j hreads
    have hi := List.mem_range.1 hi
    have hsplit : s.columns = s.columns.take i ++ s.columns[i] :: s.columns.drop (i + 1) := by
      rw [← List.drop_eq_getElem_cons hi, List.take_append_drop]
    have hplaces := mt (any_sourcesOf_iff hnodup hsplit).1 (hahead _ _ _ hsplit)
    rw [List.length_take, Nat.min_eq_left (Nat.le_of_lt hi)] at hplaces
    have hj : j ∈ s.sourcesOf s.columns[i] := by
      simpa [ReadsPlace, sources, hi] using hreads
    simpa using mt (fun hle => List.any_eq_true.2 ⟨j, hj, hle⟩) hplaces
  obtain ⟨order, rest, harranged, horder, -⟩ := s.exists_arranged
  obtain ⟨rfl, rfl⟩ := harranged.eq_of_backward List.pairwise_lt_range hbackward
  rw [horder, map_nameAt_range]
  rfl

theorem not_readsAhead_of_respects (hrespects : s.Respects (s.columns.map (·.name)))
    (h : s.columns = before ++ c :: after) : ¬ c.ReadsAhead s before := by
  rintro ⟨n, hn, hdeclared, hbefore⟩
  have hc : c ∈ s.columns := by
    rw [h]
    exact List.mem_append_right _ List.mem_cons_self
  refine hbefore (hrespects.follows _ c.name (after.map (·.name)) ?_ n ⟨c, hc, rfl, hn, hdeclared⟩)
  rw [h, List.map_append, List.map_cons]

theorem cycle?_eq_none_of_order? {order : List String} (h : s.referenceReport.order? = some order) :
    s.referenceReport.cycle? = none := by
  obtain ⟨places, rest, -, horder, hcycle⟩ := s.exists_arranged
  cases rest with
  | nil => exact hcycle
  | cons i rest =>
    rw [h] at horder
    cases horder

theorem outOfOrder_eq_nil_iff {report : CheckReport} (hcheck : s.check = .ok report) :
    s.referenceReport.outOfOrder = [] ↔
      ∀ before c after, s.columns = before ++ c :: after → ¬ c.ReadsAhead s before := by
  rw [outOfOrder_eq hcheck, List.filter_eq_nil_iff]
  constructor
  · intro h before c after hsplit hahead
    have hc : c ∈ s.columns := by
      rw [hsplit]
      exact List.mem_append_right _ List.mem_cons_self
    exact h c.name (List.mem_map_of_mem hc) ((isForward_iff hcheck hsplit).2 hahead)
  · intro h n hn hforward
    obtain ⟨c, hc, rfl⟩ := List.mem_map.1 hn
    obtain ⟨before, after, hsplit⟩ := List.append_of_mem hc
    exact h before c after hsplit ((isForward_iff hcheck hsplit).1 hforward)

theorem outOfOrder_eq_nil_iff_errors {report : CheckReport} (hcheck : s.check = .ok report) :
    s.referenceReport.outOfOrder = [] ↔
      ∀ issue ∈ report.errors, issue.finding.code ≠ "forward_reference" := by
  rw [outOfOrder_eq hcheck, List.filter_eq_nil_iff]
  constructor
  · intro h issue hissue hcode
    have hname : issue.column ∈ s.columns.map (·.name) := by
      rw [(check_eq_ok_iff.1 hcheck).2] at hissue
      exact column_mem_of_mem_issuesFrom (List.mem_filter.1 hissue).1
    refine h issue.column hname (List.any_eq_true.2 ⟨issue, hissue, ?_⟩)
    rw [hcode, beq_self_eq_true, beq_self_eq_true, Bool.and_self]
  · intro h n _ hforward
    obtain ⟨issue, hissue, hfound⟩ := List.any_eq_true.1 hforward
    rw [Bool.and_eq_true, beq_iff_eq, beq_iff_eq] at hfound
    exact h issue hissue hfound.2

/-- Of a schema that is not refused for its names, the report on the references lists, in the order
of declaration, the columns for which the check found a reference that leads forward. There are none
exactly if the report calls the order of declaration valid, and exactly if it gives that order. -/
theorem check_agrees_report {s : Schema} {report : CheckReport} (hcheck : s.check = .ok report) :
    s.referenceReport.outOfOrder = (s.columns.map (·.name)).filter report.isForward ∧
    ((∀ issue ∈ report.errors, issue.finding.code ≠ "forward_reference") ↔
      s.referenceReport.isValid = true) ∧
    (s.referenceReport.isValid = true ↔
      s.referenceReport.order? = some (s.columns.map (·.name))) := by
  have hnodup := (nameFault?_eq_none_iff.1 (check_eq_ok_iff.1 hcheck).1).2
  have horder : s.referenceReport.outOfOrder = [] ↔
      s.referenceReport.order? = some (s.columns.map (·.name)) := by
    rw [outOfOrder_eq_nil_iff hcheck]
    constructor
    · exact order?_of_backward hnodup
    · intro horder before c after hsplit
      exact not_readsAhead_of_respects (respects_of_order? hnodup horder).1 hsplit
  have hvalid : s.referenceReport.isValid = true ↔ s.referenceReport.outOfOrder = [] := by
    rw [ReferenceReport.isValid, Bool.and_eq_true, List.isEmpty_iff]
    refine ⟨fun h => h.2, fun hnone => ⟨?_, hnone⟩⟩
    rw [cycle?_eq_none_of_order? (horder.1 hnone)]
    rfl
  refine ⟨outOfOrder_eq hcheck, ?_, hvalid.trans horder⟩
  rw [hvalid]
  exact (outOfOrder_eq_nil_iff_errors hcheck).symm

/-- A column that reads a later one, a column that reads itself and a missing one, and one that reads
a column before it. -/
def ahead : Schema :=
  ⟨defaultVersion, none,
    [{ Column.plain "a" .float with derivation? := some (.formula "$b + 1") },
      Column.plain "b" .float,
      { Column.plain "c" .string with derivation? := some (.injection "${c} ${x}") },
      { Column.plain "d" .float with derivation? := some (.formula "$b * 2") }]⟩

theorem check_agrees_report_ahead :
    ∃ report, ahead.check = .ok report ∧ ahead.referenceReport.outOfOrder = ["a", "c"] ∧
      report.isForward "a" = true ∧ report.isForward "d" = false ∧
      ¬ (∀ issue ∈ report.errors, issue.finding.code ≠ "forward_reference") := by
  have hnames : ahead.nameFault? = none := by decide +kernel
  obtain ⟨report, hcheck⟩ : ∃ report, ahead.check = .ok report :=
    ⟨_, check_eq_ok_iff.2 ⟨hnames, rfl⟩⟩
  obtain ⟨hlists, hnone, -⟩ := check_agrees_report hcheck
  have houtOfOrder : ahead.referenceReport.outOfOrder = ["a", "c"] := by decide +kernel
  have hmem : ∀ n ∈ ahead.columns.map (·.name), report.isForward n = true ↔ n ∈ ["a", "c"] := by
    intro n hn
    rw [← houtOfOrder, hlists, List.mem_filter]
    exact ⟨fun h => ⟨hn, h⟩, fun h => h.2⟩
  refine ⟨report, hcheck, houtOfOrder, (hmem "a" (by decide)).2 (by decide), ?_, ?_⟩
  · exact Bool.not_eq_true _ ▸ mt (hmem "d" (by decide)).1 (by decide)
  · rw [hnone]
    decide +kernel

end

end Schema

end SynthTable
