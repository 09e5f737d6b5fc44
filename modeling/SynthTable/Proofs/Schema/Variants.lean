import Mathlib.Data.List.Basic
import SynthTable.Proofs.Schema.Findings
import SynthTable.Proofs.Schema.Reading

/-!
# What the check of a column depends on

Of the other columns of a schema the check of a column sees only the places and the kinds of those
that it reads (`Column.findings_congr`). So marks that the check does not look at make no difference
to the issues (`issuesFrom_map`), and columns after all others that none of them reads leave the
issues of the others as they are (`issues_append`).
-/

namespace SynthTable

/-- Two schemas have a column of a name at the same place and of the same kind, or none at all. -/
structure Schema.SameAt (s s' : Schema) (n : String) : Prop where
  position_eq : s.position? n = s'.position? n
  kind_eq : (s.column? n).map (·.kind) = (s'.column? n).map (·.kind)

namespace Column

variable {s s' : Schema} {c : Column} {alive : List String} {index : Nat}

theorem referenceFinding?_congr {n : String} (h : s.SameAt s' n) (required : Names) :
    referenceFinding? s index alive required n = referenceFinding? s' index alive required n := by
  rw [referenceFinding?, referenceFinding?, h.position_eq]

theorem linkFinding?_congr {link : LinkTarget} (h : s.SameAt s' link.column) :
    linkFinding? s link = linkFinding? s' link := by
  have hkind := h.kind_eq
  rw [linkFinding?, linkFinding?]
  rcases htarget : s.column? link.column with _ | target <;>
    rcases htarget' : s'.column? link.column with _ | target' <;> rw [htarget, htarget'] at hkind
  · cases hkind
  · cases hkind
  · have heq : target.kind = target'.kind := Option.some.inj hkind
    dsimp only
    rw [heq]

/-- The findings about a column depend on the columns that it reads. -/
theorem findings_congr (h : ∀ n ∈ c.references, s.SameAt s' n) :
    c.findings s index alive = c.findings s' index alive := by
  rw [findings, findings, derivationFindings, derivationFindings]
  cases hd : c.derivation? with
  | none => rfl
  | some d =>
    rw [references_of_derivation hd] at h
    have hreferences : d.references.filterMap
        (referenceFinding? s index alive d.requiredReferences) = d.references.filterMap
        (referenceFinding? s' index alive d.requiredReferences) :=
      List.filterMap_congr fun n hn => referenceFinding?_congr (h n hn) _
    have hlinks : d.links.filterMap (linkFinding? s) = d.links.filterMap (linkFinding? s') :=
      List.filterMap_congr fun link hlink => linkFinding?_congr
        (h _ (Derivation.requiredReferences_subset (Derivation.column_mem_required hlink)))
    dsimp only
    rw [hreferences, hlinks]

end Column

namespace Schema

/-- Columns with the same names have the same faults in their names. -/
theorem nameFaultFrom_map {g : Column → Column} (h : ∀ c, (g c).name = c.name)
    (columns : List Column) (index : Nat) (seen : List String) :
    nameFaultFrom index seen (columns.map g) = nameFaultFrom index seen columns := by
  induction columns generalizing index seen with
  | nil => rfl
  | cons c rest ih => rw [List.map_cons, nameFaultFrom, nameFaultFrom, h, ih]

/-- Columns with the same names and findings have the same issues. -/
theorem issuesFrom_map {s s' : Schema} {g : Column → Column} {columns : List Column}
    (h : ∀ c ∈ columns, (g c).name = c.name ∧
      ∀ index alive, (g c).findings s' index alive = c.findings s index alive)
    (index : Nat) (alive : List String) :
    s'.issuesFrom index alive (columns.map g) = s.issuesFrom index alive columns := by
  induction columns generalizing index alive with
  | nil => rfl
  | cons c rest ih =>
    obtain ⟨hname, hfindings⟩ := h c List.mem_cons_self
    rw [List.map_cons, issuesFrom, issuesFrom, hname, hfindings,
      ih fun d hd => h d (List.mem_cons_of_mem _ hd)]

/-! ## Columns after all others -/

section

variable {s s' : Schema} {added : List Column}

/-- Columns after all others change nothing at other names. -/
theorem sameAt_append (h : s'.columns = s.columns ++ added) {n : String}
    (hn : n ∉ added.map (·.name)) : s'.SameAt s n := by
  have hne : ∀ c ∈ added, c.name ≠ n := fun c hc heq => hn (List.mem_map.2 ⟨c, hc, heq⟩)
  have hindex : added.findIdx? (·.name = n) = none :=
    List.findIdx?_eq_none_iff.2 fun c hc => by simpa using hne c hc
  have hfind : added.find? (·.name = n) = none :=
    List.find?_eq_none.2 fun c hc => by simpa using hne c hc
  constructor
  · rw [position?, position?, h, List.findIdx?_append, hindex, Option.map_none, Option.or_none]
  · rw [column?, column?, h, List.find?_append, hfind, Option.or_none]

/-- Columns after all others that none of these reads add issues about themselves only. -/
theorem issues_append (h : s'.columns = s.columns ++ added)
    (hunread : ∀ c ∈ s.columns, ∀ n ∈ c.references, n ∉ added.map (·.name)) :
    ∃ more, s'.issues = s.issues ++ more ∧ ∀ issue ∈ more, issue.column ∈ added.map (·.name) := by
  have hbefore : s'.issuesFrom 0 [] (s.columns.map id) = s.issuesFrom 0 [] s.columns :=
    issuesFrom_map (g := id) (fun c hc => ⟨rfl, fun _ _ => Column.findings_congr fun n hn =>
      sameAt_append h (hunread c hc n hn)⟩) 0 []
  rw [List.map_id] at hbefore
  have hall : s'.issues = s.issues ++ s'.issuesFrom (0 + s.columns.length)
      (s'.standingAfter 0 [] s.columns) added := by
    rw [issues, h, issuesFrom_append, hbefore, issues]
  exact ⟨_, hall, fun issue => column_mem_of_mem_issuesFrom⟩

end

end Schema

end SynthTable
