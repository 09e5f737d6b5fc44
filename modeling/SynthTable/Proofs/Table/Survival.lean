import SynthTable.Proofs.Schema.Reading
import SynthTable.Proofs.Table.Drafts

/-!
# Which columns survive

A plan is made in two passes: the check of the schema finds errors, and then the columns without one
are made ready, in order. Either pass may drop a column, and a dropped column takes with it those
that read it. The main result (`build_survivors`) says which columns are left, whichever pass drops
which link of a chain: a column survives exactly if nothing is wrong with the column itself and all
declared columns that it reads come before it and survive. Good names are not enough for a plan,
though: there is none if the turn of a column comes that overflows.
-/

namespace SynthTable

namespace Field

/-- The domain of a column whose values are records of a file is one of records. -/
theorem domain_of_csv {c : Column} {assets : AssetSource} {domain : Domain}
    (hkind : c.kind = .csv) (h : Domain.build c assets = .ok domain) :
    ∃ mainField all pick, domain = .csv mainField all pick := by
  simp only [Domain.build, hkind, Domain.buildCsv] at h
  split at h
  · cases h
  · split at h
    · cases h
      exact ⟨_, _, _, rfl⟩
    · cases h

/-- Of a field that has been built it is known which attributes its values have. -/
theorem exposes_ne_none {c : Column} {assets : AssetSource} {f : Field}
    (h : build c assets = .ok f) (name : String) : f.exposes name ≠ none := by
  obtain ⟨domain, computation?, rfl, hdomain, -⟩ := eq_of_build h
  by_cases hkind : c.kind = .csv
  · obtain ⟨mainField, all, pick, rfl⟩ := domain_of_csv hkind hdomain
    simp [exposes]
  · unfold exposes
    dsimp only
    split
    · simp
    · next heq =>
      cases heq
      cases hk : c.kind <;> simp_all [ColumnKind.linkAttributes, LinkAttributes.allows?]
    · next heq => cases heq

end Field

namespace Plan

/-! ## The turn of a column -/

/-- Whether a column survives the making of a plan. -/
def keeps (p : Plan) (c : Column) : Bool := isKept p.fields c

/-- What a column after the columns `before` needs in order to survive. -/
structure Fit (s : Schema) (assets : AssetSource) (p : Plan) (before : List Column) (c : Column) :
    Prop where
  /-- The check finds no error but a dropped column that is read. -/
  check : ∀ issue ∈ p.check.errors, issue.column = c.name →
    issue.finding.code = "dropped_dependency"
  /-- The column can be made ready. -/
  field : ∃ f, Field.build c assets = .ok f
  /-- The fields that it links to have the attributes. -/
  links : ∀ link ∈ linksOf c, ∃ f ∈ p.fields, f.name = link.column ∧
    f.exposes link.field = some true
  /-- The columns that it reads come before it and survive. -/
  references : ∀ n ∈ c.references, n ∈ s.columns.map (·.name) →
    ∃ d ∈ before, d.name = n ∧ p.keeps d = true

section

variable {s : Schema} {assets : AssetSource} {p : Plan} {before after : List Column} {c : Column}

/-- The plan of a schema and the progress of its making when a column has its turn. -/
structure Turn (s : Schema) (assets : AssetSource) (p : Plan) (before : List Column) (c : Column)
    (g : Progress) : Prop where
  nodup : (s.columns.map (·.name)).Nodup
  errors_eq : p.check.errors = s.issues.filter (·.finding.isError)
  divides : Divides assets before g.fields g.dropped
  fields_subset : ∀ f ∈ g.fields, f ∈ p.fields
  names_nodup : (p.fields.map (·.name)).Nodup
  keeps_before : ∀ d ∈ before, p.keeps d = isKept g.fields d
  keeps_iff : p.keeps c = true ↔ ∃ f, outcomeOf p.check assets g c = .ok f

theorem IsDraft.turn (h : IsDraft s assets p) (hsplit : s.columns = before ++ c :: after) :
    Turn s assets p before c (progressAfter p.check assets before) := by
  have hall := h.nodup_columns
  rw [hsplit] at hall
  have hbefore := hall
  rw [List.map_append, List.nodup_append] at hbefore
  refine ⟨h.nodup_columns, h.errors_eq, progressAfter_divides _ assets hbefore.1, ?_,
    h.divides.nodup_names h.nodup_columns, ?_, ?_⟩
  · intro f hf
    obtain ⟨more, hfields, -⟩ := fields_foldl p.check assets (progressAfter p.check assets before)
      (c :: after)
    rw [h.fields_eq, hsplit, progressAfter_append, hfields]
    exact List.mem_append_left _ hf
  · intro d hd
    rw [keeps, h.fields_eq, hsplit]
    exact isKept_progressAfter_append hall hd
  · rw [keeps, h.fields_eq, hsplit]
    exact isKept_iff_outcomeOf hall

theorem Turn.findingFor?_eq_none_iff {g : Progress} (t : Turn s assets p before c g) {n : String} :
    findingFor? p.check n = none ↔ ¬ Schema.HasError s.issues n := by
  rw [Plan.findingFor?_eq_none_iff, t.errors_eq]
  simp only [List.mem_filter, Schema.HasError, not_exists, not_and, Bool.not_eq_true]
  exact ⟨fun h issue hmem hname => by
      by_contra herr
      exact h issue ⟨hmem, by simpa using herr⟩ hname,
    fun h issue hmem hname => by simp [h issue hmem.1 hname] at hmem⟩

/-- A column that survives has no error. -/
theorem IsDraft.not_hasError_of_keeps (h : IsDraft s assets p) {d : Column} (hd : d ∈ s.columns)
    (hkeeps : p.keeps d = true) : ¬ Schema.HasError s.issues d.name := by
  obtain ⟨xs, ys, hsplit⟩ := List.append_of_mem hd
  have t := h.turn hsplit
  obtain ⟨f, hout⟩ := t.keeps_iff.1 hkeeps
  exact t.findingFor?_eq_none_iff.1 (outcomeOf_eq_ok_iff.1 hout).1

/-! ### When the turn comes -/

/-- All declared columns that a column reads come before it, unless it has an error; those that it
must read are declared. -/
theorem mem_before_of_not_hasError (hnodup : (s.columns.map (·.name)).Nodup)
    (hsplit : s.columns = before ++ c :: after) (herr : ¬ Schema.HasError s.issues c.name)
    {d : Derivation} (hd : c.derivation? = some d) {n : String} (hn : n ∈ d.references)
    (hneeded : n ∈ s.columns.map (·.name) ∨ n ∈ d.requiredReferences) :
    n ∈ before.map (·.name) := by
  rw [Schema.hasError_issues_iff hnodup hsplit] at herr
  by_contra hbefore
  refine herr ?_
  by_cases hdeclared : n ∈ s.columns.map (·.name)
  · exact ⟨_, Column.mem_findings_of_reference hd hn
      (Column.referenceFinding?_of_later hsplit hdeclared hbefore), rfl⟩
  · have hrequired := hneeded.resolve_left hdeclared
    refine ⟨.unknownReference n, Column.mem_findings_of_reference hd hn ?_, rfl⟩
    rw [Column.referenceFinding?_of_undeclared hdeclared, if_pos hrequired]

/-- A link to a field that is not known to lack the attribute is to one that has it. -/
theorem exists_field_of_lacks {fields : List Field} {link : LinkTarget}
    (hbuilt : ∀ f ∈ fields, ∃ c, Field.build c assets = .ok f)
    (hname : ∃ f ∈ fields, f.name = link.column) (hlacks : lacks fields link = false) :
    ∃ f ∈ fields, f.name = link.column ∧ f.exposes link.field = some true := by
  obtain ⟨f₀, hf₀, hname₀⟩ := hname
  unfold lacks at hlacks
  cases hfind : fields.find? (·.name = link.column) with
  | none => exact absurd hname₀ (by simpa using List.find?_eq_none.1 hfind f₀ hf₀)
  | some f =>
    have hf := List.mem_of_find?_eq_some hfind
    refine ⟨f, hf, by simpa using List.find?_some hfind, ?_⟩
    obtain ⟨c, hbuild⟩ := hbuilt f hf
    have hsome := Field.exposes_ne_none hbuild link.field
    rw [hfind] at hlacks
    cases hexposes : f.exposes link.field with
    | none => exact absurd hexposes hsome
    | some b => cases b <;> simp_all

theorem code_eq_dropped_iff {f : Finding} :
    f.code = "dropped_dependency" ↔ ∃ n, f = .droppedDependency n := by
  cases f <;> simp [Finding.code]

/-- What a column after the columns `before` needs for its turn to be made ready to come. -/
structure Due (s : Schema) (p : Plan) (before : List Column) (c : Column) : Prop where
  /-- The check finds no error but a dropped column that is read. -/
  check : ∀ issue ∈ p.check.errors, issue.column = c.name →
    issue.finding.code = "dropped_dependency"
  /-- The columns that it reads come before it and survive. -/
  references : ∀ n ∈ c.references, n ∈ s.columns.map (·.name) →
    ∃ d ∈ before, d.name = n ∧ p.keeps d = true

theorem Fit.due (fit : Fit s assets p before c) : Due s p before c := ⟨fit.check, fit.references⟩

/-- The one error that a column could have whose turn comes is that a column which it reads was
dropped, but those survive. -/
theorem Due.not_hasError (due : Due s p before c) (h : IsDraft s assets p)
    (hsplit : s.columns = before ++ c :: after) : ¬ Schema.HasError s.issues c.name := by
  have t := h.turn hsplit
  rintro ⟨issue, hmem, hname, herr⟩
  obtain ⟨f, hf, rfl⟩ := (Schema.mem_issues_iff t.nodup hsplit).1 ⟨hmem, hname⟩
  have hcode := due.check _ (by rw [t.errors_eq, List.mem_filter]; exact ⟨hmem, herr⟩) rfl
  obtain ⟨n, rfl⟩ := code_eq_dropped_iff.1 hcode
  obtain ⟨d, hd, hn, hfinding⟩ := (Column.mem_findings_iff_of_reference? rfl).1 hf
  by_cases hdeclared : n ∈ s.columns.map (·.name)
  · obtain ⟨e, he, rfl, hkeeps⟩ := due.references n
      (by rwa [Column.references_of_derivation hd]) hdeclared
    have hbefore : e.name ∈ before.map (·.name) := List.mem_map_of_mem he
    rw [Column.referenceFinding?_of_before hsplit hbefore] at hfinding
    split at hfinding
    · cases hfinding
    · next hfallen =>
      have hin : e ∈ s.columns := by rw [hsplit]; exact List.mem_append_left _ he
      exact hfallen ((Schema.mem_standing_iff t.nodup hsplit).2
        ⟨hbefore, h.not_hasError_of_keeps hin hkeeps⟩)
  · rw [Column.referenceFinding?_of_undeclared hdeclared] at hfinding
    split at hfinding <;> cases hfinding

/-- The turn of a column comes if neither pass has dropped it or a column that it reads. -/
theorem IsDraft.due_iff (h : IsDraft s assets p) (hsplit : s.columns = before ++ c :: after) :
    Due s p before c ↔ findingFor? p.check c.name = none ∧
      droppedReference? c (progressAfter p.check assets before).dropped = none := by
  have t := h.turn hsplit
  rw [droppedReference?_eq_none_iff]
  constructor
  · intro due
    refine ⟨t.findingFor?_eq_none_iff.2 (due.not_hasError h hsplit), fun n hn hdropped => ?_⟩
    obtain ⟨d, hd, rfl, hnot⟩ := t.divides.mem_dropped_iff.1 hdropped
    have hdeclared : d.name ∈ s.columns.map (·.name) := by
      rw [hsplit]
      exact List.mem_map_of_mem (List.mem_append_left _ hd)
    obtain ⟨e, he, hname, hkeeps⟩ := due.references _ hn hdeclared
    rw [t.keeps_before e he] at hkeeps
    simp [isKept, hname] at hkeeps hnot
    obtain ⟨f', hf', hname'⟩ := hkeeps
    exact hnot f' hf' hname'
  · rintro ⟨hnone, hdropped⟩
    refine ⟨fun issue hmem hname => ?_, fun n hn hdeclared => ?_⟩
    · exact absurd hname (Plan.findingFor?_eq_none_iff.1 hnone issue hmem)
    · obtain ⟨e, he, hread⟩ := Column.exists_derivation hn
      have hbefore := mem_before_of_not_hasError t.nodup hsplit
        (t.findingFor?_eq_none_iff.1 hnone) he hread (Or.inl hdeclared)
      obtain ⟨d, hd, rfl⟩ := List.mem_map.1 hbefore
      -- a name before this column that was not dropped is that of a column kept
      refine ⟨d, hd, rfl, ?_⟩
      by_contra hnot
      rw [t.keeps_before d hd, Bool.not_eq_true] at hnot
      exact hdropped _ hn (t.divides.mem_dropped_iff.2 ⟨d, hd, rfl, hnot⟩)

/-! ### What survives is fit -/

theorem column_mem_references {link : LinkTarget} (h : link ∈ linksOf c) :
    ∃ d, c.derivation? = some d ∧ link.column ∈ d.requiredReferences ∧
      link.column ∈ c.references := by
  unfold linksOf at h
  split at h
  · next d hd =>
    have hrequired := Derivation.column_mem_required h
    refine ⟨d, hd, hrequired, ?_⟩
    rw [Column.references_of_derivation hd]
    exact Derivation.requiredReferences_subset hrequired
  · cases h

theorem IsDraft.fit_of_keeps (h : IsDraft s assets p) (hsplit : s.columns = before ++ c :: after)
    (hkeeps : p.keeps c = true) : Fit s assets p before c := by
  have t := h.turn hsplit
  obtain ⟨f, hout⟩ := t.keeps_iff.1 hkeeps
  obtain ⟨hnone, hdropped, hbuild, hlacks⟩ := outcomeOf_eq_ok_iff.1 hout
  have due := (h.due_iff hsplit).2 ⟨hnone, hdropped⟩
  refine ⟨due.check, ⟨f, hbuild⟩, fun link hlink => ?_, due.references⟩
  obtain ⟨d, hd, hrequired, hread⟩ := column_mem_references hlink
  have hbefore := mem_before_of_not_hasError t.nodup hsplit (t.findingFor?_eq_none_iff.1 hnone) hd
    (Derivation.requiredReferences_subset hrequired) (Or.inr hrequired)
  have hdeclared : link.column ∈ s.columns.map (·.name) := by
    rw [hsplit, List.map_append]
    exact List.mem_append_left _ hbefore
  obtain ⟨e, he, hname, hkept⟩ := due.references _ hread hdeclared
  rw [t.keeps_before e he, isKept_iff] at hkept
  obtain ⟨f', hf', hname'⟩ := hkept
  have hbuilt : ∀ f ∈ (progressAfter p.check assets before).fields,
      ∃ c, Field.build c assets = .ok f := fun f hf =>
    (t.divides.exists_column hf).imp fun _ hc => hc.2
  obtain ⟨f₁, hf₁, hprops⟩ := exists_field_of_lacks hbuilt ⟨f', hf', by rw [hname', hname]⟩
    (hlacks link hlink)
  exact ⟨f₁, t.fields_subset f₁ hf₁, hprops⟩

/-! ### What is fit survives -/

theorem Fit.keeps (fit : Fit s assets p before c) (h : IsDraft s assets p)
    (hsplit : s.columns = before ++ c :: after) : p.keeps c = true := by
  have t := h.turn hsplit
  obtain ⟨f, hbuild⟩ := fit.field
  obtain ⟨hnone, hdropped⟩ := (h.due_iff hsplit).1 fit.due
  refine t.keeps_iff.2 ⟨f, outcomeOf_eq_ok_iff.2 ⟨hnone, hdropped, hbuild, fun link hlink => ?_⟩⟩
  obtain ⟨f₁, hf₁, hname₁, hexposes⟩ := fit.links link hlink
  unfold lacks
  cases hfind : (progressAfter p.check assets before).fields.find? (·.name = link.column) with
  | none => rfl
  | some f₂ =>
    have hf₂ := t.fields_subset f₂ (List.mem_of_find?_eq_some hfind)
    have hname₂ : f₂.name = link.column := by simpa using List.find?_some hfind
    have hsame := List.inj_on_of_nodup_map t.names_nodup hf₂ hf₁ (by rw [hname₂, hname₁])
    simp [hsame, hexposes]

theorem IsDraft.keeps_iff_fit (h : IsDraft s assets p) (hsplit : s.columns = before ++ c :: after) :
    p.keeps c = true ↔ Fit s assets p before c :=
  ⟨h.fit_of_keeps hsplit, fun fit => fit.keeps h hsplit⟩

/-! ### What survives, without the plan -/

mutual

/-- The turn of a column comes in the making of a plan: the check finds no error in it but a dropped
column that is read, and the declared columns that it reads come before it and survive. -/
inductive HasTurn (s : Schema) (assets : AssetSource) : Column → Prop
  | intro {c : Column}
    (hcheck : ∀ issue ∈ s.issues, issue.finding.isError = true → issue.column = c.name →
      issue.finding.code = "dropped_dependency")
    (hbefore : ∀ d ∈ s.columns, d.name ∈ c.references → [d, c].Sublist s.columns)
    (hsurvive : ∀ d ∈ s.columns, d.name ∈ c.references → Survives s assets d) :
    HasTurn s assets c

/-- A column survives: its turn comes, it can be made ready, and the columns that it links to can be
made ready as fields with the attributes. -/
inductive Survives (s : Schema) (assets : AssetSource) : Column → Prop
  | intro {c : Column} (hturn : HasTurn s assets c)
    (hfield : ∃ f, Field.build c assets = .ok f)
    (hlinks : ∀ link ∈ linksOf c, ∃ d ∈ s.columns, d.name = link.column ∧
      ∃ f, Field.build d assets = .ok f ∧ f.exposes link.field = some true) :
    Survives s assets c

end

/-- A column of a list without repetition is before another one if it is in front of it. -/
theorem sublist_pair_iff {α : Type} {x y : α} {xs ys : List α} (hnodup : (xs ++ y :: ys).Nodup) :
    [x, y].Sublist (xs ++ y :: ys) ↔ x ∈ xs := by
  rw [List.nodup_append, List.nodup_cons] at hnodup
  obtain ⟨-, ⟨hafter, -⟩, hdisjoint⟩ := hnodup
  constructor
  · intro h
    obtain ⟨front, back, hpair, hfront, hback⟩ := List.sublist_append_iff.1 h
    cases front with
    | nil =>
      -- both would be in the rest, where `y` comes only once
      rw [List.nil_append] at hpair
      subst hpair
      exact absurd ((List.sublist_cons_iff.1 hback).elim (·.subset (by simp)) fun ⟨r, hr, hsub⟩ =>
        hsub.subset (by rw [← (List.cons.inj hr).2]; simp)) hafter
    | cons z front =>
      obtain ⟨rfl, -⟩ := List.cons.inj hpair
      exact hfront.subset List.mem_cons_self
  · intro h
    exact (List.singleton_sublist.2 h).append (List.singleton_sublist.2 List.mem_cons_self)

/-- The turn of a column comes exactly if it is due in the plan, provided that the plan keeps the
columns before exactly if they survive. -/
theorem IsDraft.due_iff_hasTurn (h : IsDraft s assets p) (hsplit : s.columns = before ++ c :: after)
    (hkept : ∀ d ∈ before, p.keeps d = true ↔ Survives s assets d) :
    Due s p before c ↔ HasTurn s assets c := by
  have hpair : ∀ d, [d, c].Sublist s.columns ↔ d ∈ before := fun d => by
    have hnodup := h.nodup_columns.of_map
    rw [hsplit] at hnodup ⊢
    exact sublist_pair_iff hnodup
  have herrors : ∀ issue, issue ∈ p.check.errors ↔
      issue ∈ s.issues ∧ issue.finding.isError = true := fun issue => by
    rw [h.errors_eq, List.mem_filter]
  constructor
  · intro due
    have hread : ∀ d ∈ s.columns, d.name ∈ c.references → d ∈ before ∧ Survives s assets d := by
      intro d hd hname
      obtain ⟨e, he, hsame, hkeeps⟩ := due.references _ hname (List.mem_map_of_mem hd)
      have hmem : e ∈ s.columns := by rw [hsplit]; exact List.mem_append_left _ he
      obtain rfl := List.inj_on_of_nodup_map h.nodup_columns hmem hd hsame
      exact ⟨he, (hkept e he).1 hkeeps⟩
    exact .intro (fun issue hissue herr => due.check issue ((herrors issue).2 ⟨hissue, herr⟩))
      (fun d hd hname => (hpair d).2 (hread d hd hname).1) fun d hd hname => (hread d hd hname).2
  · rintro ⟨hcheck, hbefore, hsurvive⟩
    refine ⟨fun issue hissue => ?_, fun n hn hdeclared => ?_⟩
    · obtain ⟨hissue, herr⟩ := (herrors issue).1 hissue
      exact hcheck issue hissue herr
    · obtain ⟨d, hd, rfl⟩ := List.mem_map.1 hdeclared
      have hd' := (hpair d).1 (hbefore d hd hn)
      exact ⟨d, hd', rfl, (hkept d hd').2 (hsurvive d hd hn)⟩

/-- A field tells its column by the name. -/
theorem IsDraft.build_of_name_eq (h : IsDraft s assets p) (hc : c ∈ s.columns) {f : Field}
    (hf : f ∈ p.fields) (hname : f.name = c.name) : Field.build c assets = .ok f := by
  obtain ⟨d, hd, hbuild⟩ := h.divides.exists_column hf
  have hsame : d.name = c.name := by rw [← Field.name_of_build hbuild, hname]
  rwa [← List.inj_on_of_nodup_map h.nodup_columns hd hc hsame]

/-- A plan keeps a column exactly if it survives, by induction on the columns before it. -/
theorem IsDraft.keeps_iff_survives (h : IsDraft s assets p)
    (hsplit : s.columns = before ++ c :: after) : p.keeps c = true ↔ Survives s assets c := by
  induction hlength : before.length using Nat.strongRecOn generalizing before c after with
  | ind n ih =>
    have hkept : ∀ d ∈ before, p.keeps d = true ↔ Survives s assets d := by
      intro d hd
      obtain ⟨xs, ys, rfl⟩ := List.append_of_mem hd
      rw [List.length_append, List.length_cons] at hlength
      exact ih xs.length (by omega) (hsplit.trans (List.append_assoc ..)) rfl
    have hturn := h.due_iff_hasTurn hsplit hkept
    rw [h.keeps_iff_fit hsplit]
    constructor
    · intro fit
      refine .intro (hturn.1 fit.due) fit.field fun link hlink => ?_
      obtain ⟨f, hf, hname, hexposes⟩ := fit.links link hlink
      obtain ⟨d, hd, hbuild⟩ := h.divides.exists_column hf
      exact ⟨d, hd, by rw [← Field.name_of_build hbuild, hname], f, hbuild, hexposes⟩
    · rintro ⟨turn, hfield, hlinks⟩
      have due := hturn.2 turn
      refine ⟨due.check, hfield, fun link hlink => ?_, due.references⟩
      obtain ⟨d, hd, hname, f, hbuild, hexposes⟩ := hlinks link hlink
      obtain ⟨-, -, -, hread⟩ := column_mem_references hlink
      obtain ⟨e, he, hsame, hkeeps⟩ := due.references _ hread (hname ▸ List.mem_map_of_mem hd)
      obtain ⟨f', hf', hname'⟩ := isKept_iff.1 hkeeps
      have hbuild' := h.build_of_name_eq hd hf' (by rw [hname', hsame, hname])
      obtain rfl := Except.ok.inj (hbuild.symm.trans hbuild')
      exact ⟨f, hf', by rw [hname', hsame], hexposes⟩

/-- The turn of a column comes exactly if neither pass has dropped it or a column that it reads. -/
theorem IsDraft.hasTurn_iff (h : IsDraft s assets p) (hsplit : s.columns = before ++ c :: after) :
    HasTurn s assets c ↔ findingFor? p.check c.name = none ∧
      droppedReference? c (progressAfter p.check assets before).dropped = none := by
  rw [← h.due_iff hsplit, h.due_iff_hasTurn hsplit fun d hd => ?_]
  obtain ⟨xs, ys, rfl⟩ := List.append_of_mem hd
  exact h.keeps_iff_survives (hsplit.trans (List.append_assoc ..))

/-- A column ends in a crash in its turn exactly if that comes and the column overflows. -/
theorem IsDraft.crashAt?_eq_some_iff (h : IsDraft s assets p)
    (hsplit : s.columns = before ++ c :: after) {crash : Crash} :
    crashAt? p.check assets (progressAfter p.check assets before) c = some crash ↔
      (HasTurn s assets c ∧ c.Overflows) ∧ crash = ⟨some "capacity overflow"⟩ := by
  rw [Plan.crashAt?_eq_some_iff, h.hasTurn_iff hsplit]
  tauto

/-- The plan is made, and no column overflows whose turn comes, or one does and ends in a crash. -/
theorem IsDraft.build_overflow_cases (h : IsDraft s assets p) :
    (build s assets = .ok p ∧ ∀ c ∈ s.columns, HasTurn s assets c → ¬ c.Overflows) ∨
    (build s assets = .error (.crash ⟨some "capacity overflow"⟩) ∧
      ∃ c ∈ s.columns, HasTurn s assets c ∧ c.Overflows) := by
  rcases h.build_cases with ⟨hbuild, hnone⟩ | ⟨before, c, after, crash, hsplit, hcrash, hbuild⟩
  · refine .inl ⟨hbuild, fun c hc hturn hoverflows => ?_⟩
    obtain ⟨before, after, hsplit⟩ := List.append_of_mem hc
    have hcrash := (h.crashAt?_eq_some_iff hsplit).2 ⟨⟨hturn, hoverflows⟩, rfl⟩
    rw [hnone before c after hsplit] at hcrash
    cases hcrash
  · obtain ⟨hcolumn, rfl⟩ := (h.crashAt?_eq_some_iff hsplit).1 hcrash
    exact .inr ⟨hbuild, c, by rw [hsplit]; simp, hcolumn⟩

/-! ### What fields read -/

theorem nodup_columns (h : build s assets = .ok p) : (s.columns.map (·.name)).Nodup :=
  (isDraft_of_build h).nodup_columns

theorem divides_of_build (h : build s assets = .ok p) :
    Divides assets s.columns p.fields p.dropped :=
  (isDraft_of_build h).divides

/-- A field is that of a column kept, and the fields before it are those of the columns before. -/
theorem column_of_field (h : build s assets = .ok p) {earlier later : List Field} {f : Field}
    (hfields : p.fields = earlier ++ f :: later) :
    ∃ before c after, s.columns = before ++ c :: after ∧ Field.build c assets = .ok f ∧
      p.keeps c = true ∧ earlier.map (·.name) = (before.filter p.keeps).map (·.name) := by
  have heq := (divides_of_build h).fields_eq
  rw [hfields, List.map_append, List.map_cons, eq_comm, List.map_eq_append_iff] at heq
  obtain ⟨kept, more, hkept, hearlier, hmore⟩ := heq
  obtain ⟨c, rest, rfl, hbuild, -⟩ := List.map_eq_cons_iff.1 hmore
  obtain ⟨xs, ys, hsplit, rfl, hys⟩ := List.filter_eq_append_iff.1 hkept
  obtain ⟨zs, after, rfl, hzs, hkeeps, -⟩ := List.filter_eq_cons_iff.1 hys
  rw [← hfields] at hearlier hzs hkeeps
  refine ⟨xs ++ zs, c, after, by rw [hsplit, List.append_assoc], hbuild, hkeeps, ?_⟩
  have hnone : zs.filter p.keeps = [] := List.filter_eq_nil_iff.2 hzs
  rw [List.filter_append, hnone, List.append_nil]
  exact Field.names_of_builds hearlier.symm

/-- The fields that a column reads come before its own, and those that it must read are there. -/
theorem reads_before (h : build s assets = .ok p) {earlier later : List Field} {f : Field}
    (hfields : p.fields = earlier ++ f :: later) :
    ∃ c ∈ s.columns, Field.build c assets = .ok f ∧
      (∀ n ∈ c.references, n ∈ p.fields.map (·.name) → n ∈ earlier.map (·.name)) ∧
      ∀ d, c.derivation? = some d → ∀ n ∈ d.requiredReferences, n ∈ earlier.map (·.name) := by
  obtain ⟨before, c, after, hsplit, hbuild, hkeeps, hnames⟩ := column_of_field h hfields
  have hdraft := isDraft_of_build h
  have fit := hdraft.fit_of_keeps hsplit hkeeps
  have hdeclared : ∀ n ∈ c.references, n ∈ s.columns.map (·.name) →
      n ∈ earlier.map (·.name) := by
    intro n hn hcolumn
    obtain ⟨d, hd, rfl, hkept⟩ := fit.references n hn hcolumn
    rw [hnames]
    exact List.mem_map_of_mem (List.mem_filter.2 ⟨hd, hkept⟩)
  refine ⟨c, by rw [hsplit]; simp, hbuild, ?_, ?_⟩
  · intro n hn hfield
    refine hdeclared n hn ?_
    rw [(divides_of_build h).names_eq] at hfield
    exact (List.filter_sublist.map _).subset hfield
  · intro d hd n hn
    have hread := Derivation.requiredReferences_subset hn
    have herr := fit.due.not_hasError hdraft hsplit
    have hbefore := mem_before_of_not_hasError hdraft.nodup_columns hsplit herr hd hread
      (Or.inr hn)
    rw [← Column.references_of_derivation hd] at hread
    refine hdeclared n hread ?_
    rw [hsplit, List.map_append]
    exact List.mem_append_left _ hbefore

theorem nodup_fields (h : build s assets = .ok p) : (p.fields.map (·.name)).Nodup :=
  (divides_of_build h).nodup_names (nodup_columns h)

section

variable {earlier later : List Field} {f : Field}

theorem not_mem_later (h : build s assets = .ok p) (hfields : p.fields = earlier ++ f :: later)
    {n : String} (hn : n ∈ earlier.map (·.name)) : n ∉ (f :: later).map (·.name) := by
  have hnodup := nodup_fields h
  rw [hfields, List.map_append, List.nodup_append] at hnodup
  exact fun hlater => hnodup.2.2 n hn n hlater rfl

theorem name_not_mem_later (h : build s assets = .ok p)
    (hfields : p.fields = earlier ++ f :: later) : f.name ∉ later.map (·.name) := by
  have hnodup := nodup_fields h
  rw [hfields, List.map_append, List.nodup_append] at hnodup
  exact (List.nodup_cons.1 hnodup.2.1).1

end

end

/-! ## The survivors -/

/-- A plan can be made of a schema exactly if no name is blank, no two are equal, and no column
overflows whose turn comes; where one does, the making of the plan is broken off by its crash. The
fields of a plan and the dropped columns divide the columns, both in their order, and a column
survives exactly if the check finds no error in it but a dropped column that is read, it can be made
ready, the fields that it links to have the attributes, and the declared columns that it reads come
before it and survive. -/
theorem build_survivors (s : Schema) (assets : AssetSource) :
    ((∃ p, build s assets = .ok p) ↔
      ((∀ c ∈ s.columns, Text.isAllBlank c.name = false) ∧ (s.columns.map (·.name)).Nodup) ∧
        ∀ c ∈ s.columns, HasTurn s assets c → ¬ c.Overflows) ∧
    (build s assets = .error (.crash ⟨some "capacity overflow"⟩) ↔
      ((∀ c ∈ s.columns, Text.isAllBlank c.name = false) ∧ (s.columns.map (·.name)).Nodup) ∧
        ∃ c ∈ s.columns, HasTurn s assets c ∧ c.Overflows) ∧
    ∀ p, build s assets = .ok p →
      s.check = .ok p.check ∧
      p.fields.map Except.ok = (s.columns.filter p.keeps).map (Field.build · assets) ∧
      p.dropped.map (·.column) = (s.columns.filter (!p.keeps ·)).map (·.name) ∧
      (∀ before c after, s.columns = before ++ c :: after →
        (p.keeps c = true ↔ Fit s assets p before c)) ∧
      ∀ c ∈ s.columns, p.keeps c = true ↔ Survives s assets c := by
  rw [← Schema.nameFault?_eq_none_iff]
  refine ⟨⟨?_, ?_⟩, ⟨?_, ?_⟩, fun p h => ?_⟩
  · rintro ⟨p, h⟩
    have hdraft := isDraft_of_build h
    refine ⟨hdraft.nameFault?_eq_none, ?_⟩
    rcases hdraft.build_overflow_cases with ⟨-, hfree⟩ | ⟨hcrash, -⟩
    · exact hfree
    · rw [h] at hcrash
      cases hcrash
  · rintro ⟨hnames, hfree⟩
    obtain ⟨p, hdraft⟩ := exists_isDraft assets hnames
    rcases hdraft.build_overflow_cases with ⟨h, -⟩ | ⟨-, c, hc, hturn, hoverflows⟩
    · exact ⟨p, h⟩
    · exact absurd hoverflows (hfree c hc hturn)
  · intro h
    have hnames := nameFault?_eq_none_of_crash h
    obtain ⟨p, hdraft⟩ := exists_isDraft assets hnames
    rcases hdraft.build_overflow_cases with ⟨hbuild, -⟩ | ⟨-, hcrash⟩
    · rw [h] at hbuild
      cases hbuild
    · exact ⟨hnames, hcrash⟩
  · rintro ⟨hnames, c, hc, hturn, hoverflows⟩
    obtain ⟨p, hdraft⟩ := exists_isDraft assets hnames
    rcases hdraft.build_overflow_cases with ⟨-, hfree⟩ | ⟨h, -⟩
    · exact absurd hoverflows (hfree c hc hturn)
    · exact h
  · have hdraft := isDraft_of_build h
    refine ⟨hdraft.check_eq, hdraft.divides.fields_eq, hdraft.divides.dropped_eq,
      fun before c after hsplit => hdraft.keeps_iff_fit hsplit, fun c hc => ?_⟩
    obtain ⟨before, after, hsplit⟩ := List.append_of_mem hc
    exact hdraft.keeps_iff_survives hsplit

/-- No files at all. -/
def noFiles : AssetSource := ⟨"", fun _ => .missing, fun _ => .missing⟩

/-- Bounds that cross, a formula and a template that need them, and a column that reads nothing. -/
def cascade : Schema :=
  ⟨Schema.defaultVersion, none,
    [{ Column.plain "a" .integer with min? := some (.integer 9), max? := some (.integer 1) },
      { Column.plain "b" .integer with derivation? := some (.formula "$a + 1") },
      { Column.plain "c" .string with derivation? := some (.injection "${b}!") },
      Column.plain "d" .boolean]⟩

theorem build_survivors_cascade :
    ∃ p a b c d, cascade.columns = [a, b, c, d] ∧ build cascade noFiles = .ok p ∧
      ¬ Fit cascade noFiles p [a, b] c ∧ Fit cascade noFiles p [a, b, c] d := by
  obtain ⟨hbuilds, -, hsurvivors⟩ := build_survivors cascade noFiles
  have hkinds : ∀ c ∈ cascade.columns, c.kind ≠ .stringRegex := by decide
  obtain ⟨p, hp⟩ := hbuilds.2 ⟨⟨by decide, by decide⟩, fun c hc _ hoverflows =>
    hkinds c hc hoverflows.1⟩
  have hnames : (build cascade noFiles).toOption.map (·.fields.map (·.name)) = some ["d"] := by
    decide +kernel
  rw [hp] at hnames
  have hkeeps : p.fields.map (·.name) = ["d"] := by simpa [Except.toOption] using hnames
  obtain ⟨-, -, -, hfit, -⟩ := hsurvivors p hp
  refine ⟨p, _, _, _, _, rfl, hp, ?_, ?_⟩
  · rw [← hfit [_, _] _ [_] rfl]
    simp [keeps, isKept, hkeeps, Column.plain]
  · rw [← hfit [_, _, _] _ [] rfl]
    simp [keeps, isKept, hkeeps, Column.plain]

/-- A column of a pattern with more slots than there is room for. -/
def overfull : Schema :=
  ⟨Schema.defaultVersion, none,
    [{ Column.plain "s" .stringRegex with pattern? := some "[a]\x7b9999999999999999999\x7d" }]⟩

/-- Good names are not enough for a plan. -/
theorem build_overfull :
    ¬ ((∃ p, build overfull noFiles = .ok p) ↔
      (∀ c ∈ overfull.columns, Text.isAllBlank c.name = false) ∧
        (overfull.columns.map (·.name)).Nodup) := by
  have hnone : (build overfull noFiles).toOption.isNone = true := by decide +kernel
  intro h
  obtain ⟨p, hp⟩ := h.2 ⟨by decide, by decide⟩
  rw [hp] at hnone
  cases hnone

end Plan

end SynthTable
