import SynthTable.Schema.Check

/-!
# What the check of a schema finds

The check goes over the columns once and carries the names of those without an error. This file says
what comes of that walk, column by column: which names it refuses (`nameFault?_eq_none_iff`), which
issues a column gets (`mem_issues_iff`), and which earlier columns are still standing when a column
is checked (`mem_standing_iff`). A reference of a column is without an error exactly if it names an
earlier column that stands, or no column at all where none is required.
-/

namespace SynthTable

namespace Schema

/-! ## Names -/

theorem nameFaultFrom_eq_none_iff {index : Nat} {seen : List String} {columns : List Column} :
    nameFaultFrom index seen columns = none ↔
      (∀ c ∈ columns, Text.isAllBlank c.name = false ∧ c.name ∉ seen) ∧
        (columns.map (·.name)).Nodup := by
  induction columns generalizing index seen with
  | nil => simp [nameFaultFrom]
  | cons c rest ih =>
    unfold nameFaultFrom
    by_cases hblank : Text.isAllBlank c.name = true
    · simp [hblank]
    by_cases hseen : c.name ∈ seen
    · simp [hblank, hseen]
    simp only [Bool.not_eq_true] at hblank
    simp only [hblank, List.contains_eq_mem, hseen, Bool.false_eq_true, if_false, decide_false, ih,
      List.map_cons, List.nodup_cons, List.mem_cons, List.mem_map, not_or, forall_eq_or_imp]
    constructor
    · rintro ⟨hall, hnodup⟩
      exact ⟨⟨⟨trivial, not_false⟩, fun d hd => ⟨(hall d hd).1, (hall d hd).2.2⟩⟩,
        fun ⟨d, hd, heq⟩ => (hall d hd).2.1 heq, hnodup⟩
    · rintro ⟨⟨-, hall⟩, hnew, hnodup⟩
      exact ⟨fun d hd => ⟨(hall d hd).1, fun heq => hnew ⟨d, hd, heq⟩, (hall d hd).2⟩, hnodup⟩

/-- The names of a schema are without fault exactly if none is blank and no two are equal. -/
theorem nameFault?_eq_none_iff {s : Schema} :
    s.nameFault? = none ↔
      (∀ c ∈ s.columns, Text.isAllBlank c.name = false) ∧ (s.columns.map (·.name)).Nodup := by
  simp [nameFault?, nameFaultFrom_eq_none_iff]

/-- A schema whose check gives a report has names without fault, and the report divides the
issues. -/
theorem check_eq_ok_iff {s : Schema} {report : CheckReport} :
    s.check = .ok report ↔ s.nameFault? = none ∧
      report = ⟨s.issues.filter (·.finding.isError), s.issues.filter (!·.finding.isError)⟩ := by
  unfold check
  cases s.nameFault? <;> simp [eq_comm]

/-! ## The walk over the columns -/

/-- The names that stand after some columns: those of the columns without an error. -/
def standingAfter (s : Schema) (index : Nat) (alive : List String) : List Column → List String
  | [] => alive
  | c :: rest =>
    let findings := c.findings s index alive
    s.standingAfter (index + 1) (if findings.any (·.isError) then alive else c.name :: alive) rest

theorem issuesFrom_append (s : Schema) (index : Nat) (alive : List String) (xs ys : List Column) :
    s.issuesFrom index alive (xs ++ ys) =
      s.issuesFrom index alive xs ++
        s.issuesFrom (index + xs.length) (s.standingAfter index alive xs) ys := by
  induction xs generalizing index alive with
  | nil => simp [issuesFrom, standingAfter]
  | cons c rest ih =>
    simp only [List.cons_append, issuesFrom, standingAfter, List.length_cons]
    rw [ih, List.append_assoc, Nat.add_right_comm, Nat.add_assoc]

/-- An issue is about one of the columns walked over. -/
theorem column_mem_of_mem_issuesFrom {s : Schema} {index : Nat} {alive : List String}
    {columns : List Column} {issue : Issue} (h : issue ∈ s.issuesFrom index alive columns) :
    issue.column ∈ columns.map (·.name) := by
  induction columns generalizing index alive with
  | nil => simp [issuesFrom] at h
  | cons c rest ih =>
    simp only [issuesFrom, List.mem_append, List.mem_map] at h
    rcases h with ⟨f, -, rfl⟩ | h
    · simp
    · exact List.mem_cons_of_mem _ (ih h)

/-- A name has an error if some issue about it is one. -/
def HasError (issues : List Issue) (name : String) : Prop :=
  ∃ issue ∈ issues, issue.column = name ∧ issue.finding.isError = true

theorem hasError_append {xs ys : List Issue} {name : String} :
    HasError (xs ++ ys) name ↔ HasError xs name ∨ HasError ys name := by
  simp only [HasError, List.mem_append, or_and_right, exists_or]

theorem hasError_findings {column : String} {index : Nat} {findings : List Finding}
    {name : String} :
    HasError (findings.map (⟨column, index, ·⟩)) name ↔
      name = column ∧ findings.any (·.isError) = true := by
  simp only [HasError, List.mem_map, List.any_eq_true]
  constructor
  · rintro ⟨issue, ⟨f, hf, rfl⟩, hname, herr⟩
    exact ⟨hname.symm, f, hf, herr⟩
  · rintro ⟨hname, f, hf, herr⟩
    exact ⟨_, ⟨f, hf, rfl⟩, hname.symm, herr⟩

theorem not_hasError_issuesFrom (s : Schema) (index : Nat) (alive : List String)
    {columns : List Column} {name : String} (h : name ∉ columns.map (·.name)) :
    ¬ HasError (s.issuesFrom index alive columns) name := by
  rintro ⟨issue, hmem, rfl, -⟩
  exact h (column_mem_of_mem_issuesFrom hmem)

/-- The names that stand after some columns are those of the columns without an error. -/
theorem mem_standingAfter_iff {s : Schema} {index : Nat} {alive : List String}
    {columns : List Column} (hnodup : (columns.map (·.name)).Nodup) {n : String} :
    n ∈ s.standingAfter index alive columns ↔
      n ∈ alive ∨ n ∈ columns.map (·.name) ∧ ¬ HasError (s.issuesFrom index alive columns) n := by
  induction columns generalizing index alive with
  | nil => simp [standingAfter]
  | cons c rest ih =>
    obtain ⟨hnew, hrest⟩ := List.nodup_cons.1 hnodup
    simp only [standingAfter, issuesFrom]
    rw [ih hrest, hasError_append, hasError_findings, List.map_cons, List.mem_cons]
    by_cases hn : n = c.name
    · subst hn
      have hlater := not_hasError_issuesFrom s (index + 1)
        (if (c.findings s index alive).any (·.isError) then alive else c.name :: alive) hnew
      split <;> rename_i herr
      · simp only [herr, hnew, and_true, true_or, not_true, and_false, false_and, or_false]
      · rw [if_neg herr] at hlater
        simp only [herr, hlater, List.mem_cons, Bool.false_eq_true, true_or, and_false, or_false,
          not_false_eq_true, and_self, or_true]
    · split <;> simp only [hn, List.mem_cons, false_or, false_and]

/-! ## One column -/

/-- What is wrong with a column that comes after the columns `before`. -/
def findingsAfter (s : Schema) (before : List Column) (c : Column) : List Finding :=
  c.findings s before.length (s.standingAfter 0 [] before)

section

variable {s : Schema} {before after : List Column} {c : Column}

theorem issues_split (h : s.columns = before ++ c :: after) :
    s.issues = s.issuesFrom 0 [] before ++
      ((s.findingsAfter before c).map (⟨c.name, before.length, ·⟩) ++
        s.issuesFrom (before.length + 1) (s.standingAfter 0 [] (before ++ [c])) after) := by
  have hcons : before ++ c :: after = (before ++ [c]) ++ after := by simp
  rw [issues, h, hcons, issuesFrom_append, issuesFrom_append, List.append_assoc]
  simp [issuesFrom, findingsAfter]

/-- The issues about a column are its findings. -/
theorem mem_issues_iff (hnodup : (s.columns.map (·.name)).Nodup)
    (h : s.columns = before ++ c :: after) {issue : Issue} :
    issue ∈ s.issues ∧ issue.column = c.name ↔
      ∃ f ∈ s.findingsAfter before c, issue = ⟨c.name, before.length, f⟩ := by
  rw [h, List.map_append, List.map_cons] at hnodup
  rw [issues_split h, List.mem_append, List.mem_append, List.mem_map]
  constructor
  · rintro ⟨hbefore | ⟨f, hf, rfl⟩ | hafter, hname⟩
    · have := column_mem_of_mem_issuesFrom hbefore
      rw [hname] at this
      exact absurd rfl ((List.nodup_append.1 hnodup).2.2 _ this _ (List.mem_cons_self ..))
    · exact ⟨f, hf, rfl⟩
    · have := column_mem_of_mem_issuesFrom hafter
      rw [hname] at this
      exact absurd this (List.nodup_cons.1 (List.nodup_append.1 hnodup).2.1).1
  · rintro ⟨f, hf, rfl⟩
    exact ⟨Or.inr (Or.inl ⟨f, hf, rfl⟩), rfl⟩

theorem hasError_issues_iff (hnodup : (s.columns.map (·.name)).Nodup)
    (h : s.columns = before ++ c :: after) :
    HasError s.issues c.name ↔ ∃ f ∈ s.findingsAfter before c, f.isError = true := by
  constructor
  · rintro ⟨issue, hmem, hname, herr⟩
    obtain ⟨f, hf, rfl⟩ := (mem_issues_iff hnodup h).1 ⟨hmem, hname⟩
    exact ⟨f, hf, herr⟩
  · rintro ⟨f, hf, herr⟩
    obtain ⟨hmem, hname⟩ := (mem_issues_iff hnodup h).2 ⟨f, hf, rfl⟩
    exact ⟨_, hmem, hname, herr⟩

/-- The columns that stand when a later one is checked are those before it without an error. -/
theorem mem_standing_iff (hnodup : (s.columns.map (·.name)).Nodup)
    (h : s.columns = before ++ c :: after) {n : String} :
    n ∈ s.standingAfter 0 [] before ↔ n ∈ before.map (·.name) ∧ ¬ HasError s.issues n := by
  have hall := hnodup
  rw [h, List.map_append] at hall
  obtain ⟨hbefore, -, hdisjoint⟩ := List.nodup_append.1 hall
  rw [mem_standingAfter_iff hbefore]
  simp only [List.not_mem_nil, false_or]
  refine and_congr_right fun hn => not_congr ?_
  have hlater : n ∉ (c :: after).map (·.name) := fun hmem => hdisjoint n hn n hmem rfl
  rw [issues, h, issuesFrom_append, hasError_append]
  simp only [not_hasError_issuesFrom _ _ _ hlater, or_false]

/-! ## References -/

theorem position?_eq_none_iff {n : String} :
    s.position? n = none ↔ n ∉ s.columns.map (·.name) := by
  simp [position?, List.findIdx?_eq_none_iff]

theorem position?_of_before (h : s.columns = before ++ c :: after) {n : String}
    (hn : n ∈ before.map (·.name)) : ∃ i < before.length, s.position? n = some i := by
  obtain ⟨d, hd, rfl⟩ := List.mem_map.1 hn
  have hlt : before.findIdx (·.name = d.name) < before.length :=
    List.findIdx_lt_length.2 ⟨d, hd, by simp⟩
  refine ⟨_, hlt, ?_⟩
  rw [position?, h, List.findIdx?_append, List.findIdx?_eq_some_of_exists ⟨d, hd, by simp⟩]
  rfl

theorem position?_of_later (h : s.columns = before ++ c :: after) {n : String}
    (hdeclared : n ∈ s.columns.map (·.name)) (hn : n ∉ before.map (·.name)) :
    ∃ i, before.length ≤ i ∧ s.position? n = some i := by
  cases hpos : s.position? n with
  | none => exact absurd hdeclared (position?_eq_none_iff.1 hpos)
  | some i =>
    refine ⟨i, ?_, rfl⟩
    rw [position?, h, List.findIdx?_append,
      List.findIdx?_eq_none_iff.2 fun d hd => by
        simpa using fun heq : d.name = n => hn (heq ▸ List.mem_map_of_mem hd)] at hpos
    obtain ⟨j, -, rfl⟩ := Option.map_eq_some_iff.1 hpos
    exact Nat.le_add_left _ _

end

end Schema

/-- The name that a reference reads, of a finding about a reference. -/
def Finding.reference? : Finding → Option String
  | .unresolvedPlaceholder name | .unknownReference name | .forwardReference name
  | .droppedDependency name => some name
  | _ => none

namespace Column

variable {s : Schema} {before after : List Column} {c : Column} {alive : List String}
  {required : Names} {n : String}

/-- A reference that names no column is an error exactly if it must name one. -/
theorem referenceFinding?_of_undeclared {index : Nat} (hn : n ∉ s.columns.map (·.name)) :
    referenceFinding? s index alive required n =
      some (if n ∈ required then .unknownReference n else .unresolvedPlaceholder n) := by
  rw [referenceFinding?, Schema.position?_eq_none_iff.2 hn]
  by_cases hreq : n ∈ required <;> simp [hreq]

/-- A reference that names an earlier column is an error exactly if that column does not stand. -/
theorem referenceFinding?_of_before (h : s.columns = before ++ c :: after)
    (hn : n ∈ before.map (·.name)) :
    referenceFinding? s before.length alive required n =
      if n ∈ alive then none else some (.droppedDependency n) := by
  obtain ⟨i, hi, hpos⟩ := Schema.position?_of_before h hn
  simp [referenceFinding?, hpos, Nat.not_le.2 hi]

/-- A reference that names the column itself or a later one is an error. -/
theorem referenceFinding?_of_later (h : s.columns = before ++ c :: after)
    (hdeclared : n ∈ s.columns.map (·.name)) (hn : n ∉ before.map (·.name)) :
    referenceFinding? s before.length alive required n = some (.forwardReference n) := by
  obtain ⟨i, hi, hpos⟩ := Schema.position?_of_later h hdeclared hn
  simp [referenceFinding?, hpos, hi]

/-- What is wrong with a reference is wrong with the column. -/
theorem mem_findings_of_reference {d : Derivation} {index : Nat} {f : Finding}
    (hd : c.derivation? = some d) (hn : n ∈ d.references)
    (hf : referenceFinding? s index alive d.requiredReferences n = some f) :
    f ∈ c.findings s index alive := by
  simp only [findings, derivationFindings, hd, List.mem_append, List.mem_filterMap]
  exact Or.inr (Or.inl (Or.inl ⟨n, hn, hf⟩))

theorem reference?_of_mem_weightFindings {f : Finding} (h : f ∈ c.weightFindings) :
    f.reference? = none := by
  rw [weightFindings, List.mem_append, List.mem_filterMap] at h
  rcases h with ⟨⟨value, weight⟩, -, heq⟩ | h
  · dsimp only at heq
    split at heq <;> cases heq
    rfl
  · split at h
    · rw [List.mem_singleton.1 h]
      rfl
    · cases h

theorem reference?_of_mem_boundFindings {f : Finding} (h : f ∈ c.boundFindings) :
    f.reference? = none := by
  unfold boundFindings at h
  split at h
  · cases h
  · dsimp only at h
    split at h
    · rw [List.mem_singleton.1 h]
      rfl
    · rw [List.mem_singleton.1 h]
      rfl
    · split at h
      · rw [List.mem_singleton.1 h]
        rfl
      · cases h
    · cases h

theorem reference?_of_mem_settingFindings {f : Finding} (h : f ∈ c.settingFindings) :
    f.reference? = none := by
  unfold settingFindings at h
  split at h
  · split at h
    · rw [List.mem_singleton.1 h]
      rfl
    · cases h
  · split at h
    · rw [List.mem_singleton.1 h]
      rfl
    · split at h
      · cases h
      · rw [List.mem_singleton.1 h]
        rfl
  · cases h

theorem reference?_of_linkFinding? {link : LinkTarget} {f : Finding}
    (h : linkFinding? s link = some f) : f.reference? = none := by
  unfold linkFinding? at h
  split at h
  · cases h
  · split at h <;> cases h
    rfl

/-- The finding about a reference names the reference. -/
theorem reference?_of_referenceFinding? {index : Nat} {f : Finding}
    (h : referenceFinding? s index alive required n = some f) : f.reference? = some n := by
  unfold referenceFinding? at h
  split at h
  · split at h <;> cases h <;> rfl
  · split at h
    · cases h
      rfl
    · split at h <;> cases h
      rfl

/-- A finding that names a reference is about a reference of the derivation. -/
theorem mem_findings_iff_of_reference? {index : Nat} {f : Finding} (hf : f.reference? = some n) :
    f ∈ c.findings s index alive ↔ ∃ d, c.derivation? = some d ∧ n ∈ d.references ∧
      referenceFinding? s index alive d.requiredReferences n = some f := by
  constructor
  · intro h
    have hnone : f.reference? ≠ none := by
      rw [hf]
      exact Option.some_ne_none n
    simp only [findings, List.mem_append] at h
    rcases h with ((h | h) | h) | h
    · exact absurd (reference?_of_mem_weightFindings h) hnone
    · exact absurd (reference?_of_mem_boundFindings h) hnone
    · exact absurd (reference?_of_mem_settingFindings h) hnone
    unfold derivationFindings at h
    split at h
    · cases h
    · next d hd =>
      simp only [List.mem_append, List.mem_filterMap] at h
      rcases h with (⟨m, hm, hfinding⟩ | ⟨link, -, hfinding⟩) | h
      · rw [reference?_of_referenceFinding? hfinding] at hf
        cases hf
        exact ⟨d, hd, hm, hfinding⟩
      · exact absurd (reference?_of_linkFinding? hfinding) hnone
      · split at h
        · split at h
          · rw [List.mem_singleton.1 h] at hf
            cases hf
          · cases h
        · cases h
  · rintro ⟨d, hd, hn, hfinding⟩
    exact mem_findings_of_reference hd hn hfinding

end Column

end SynthTable
