import Mathlib.Data.List.Induction
import Mathlib.Data.List.Nodup
import SynthTable.Proofs.Domain.Crashes
import SynthTable.Proofs.Fallible
import SynthTable.Proofs.Schema.Findings
import SynthTable.Proofs.Table.Fields
import SynthTable.Table.Plan

/-!
# How a plan is made

After the check of a schema its columns are made ready, one by one and in order. What is there after
some columns is a progress of fields and dropped columns, which divide these columns (`Divides`). A
schema whose names are good comes to a plan (`IsDraft`) that is the one made of it, unless a column
ends in a crash when its turn comes (`IsDraft.build_cases`).
-/

namespace SynthTable

namespace Field

theorem names_of_builds {fields : List Field} {columns : List Column} {assets : AssetSource}
    (h : fields.map Except.ok = columns.map (build · assets)) :
    fields.map (·.name) = columns.map (·.name) := by
  induction fields generalizing columns with
  | nil =>
    cases columns with
    | nil => rfl
    | cons c rest => cases h
  | cons f fields ih =>
    cases columns with
    | nil => cases h
    | cons c rest =>
      simp only [List.map_cons, List.cons.injEq] at h
      rw [List.map_cons, List.map_cons, ih h.2, name_of_build h.1.symm]

end Field

namespace Plan

/-! ## Making the columns ready one by one -/

/-- The progress after some columns. -/
def progressAfter (check : CheckReport) (assets : AssetSource) (columns : List Column) : Progress :=
  columns.foldl (advance check assets) ⟨[], [], checkNotices check⟩

/-- Whether a column is among the fields. -/
def isKept (fields : List Field) (c : Column) : Bool := (fields.map (·.name)).contains c.name

theorem isKept_iff {fields : List Field} {c : Column} :
    isKept fields c = true ↔ ∃ f ∈ fields, f.name = c.name := by
  simp [isKept]

section

variable {check : CheckReport} {assets : AssetSource}

theorem droppedReference?_eq_none_iff {c : Column} {dropped : List DroppedColumn} :
    droppedReference? c dropped = none ↔ ∀ n ∈ c.references, n ∉ dropped.map (·.column) := by
  simp [droppedReference?]

theorem findingFor?_eq_none_iff {name : String} :
    findingFor? check name = none ↔ ∀ issue ∈ check.errors, issue.column ≠ name := by
  simp [findingFor?]

/-- A column becomes a field if the check found no error, no column that it reads was dropped, the
field can be built, and no link is to an attribute that is missing. -/
theorem outcomeOf_eq_ok_iff {g : Progress} {c : Column} {f : Field} :
    outcomeOf check assets g c = .ok f ↔
      findingFor? check c.name = none ∧ droppedReference? c g.dropped = none ∧
        Field.build c assets = .ok f ∧ ∀ link ∈ linksOf c, lacks g.fields link = false := by
  unfold outcomeOf fieldOf
  cases findingFor? check c.name with
  | some finding => simp
  | none =>
    cases droppedReference? c g.dropped with
    | some name => simp
    | none =>
      cases Field.build c assets with
      | error e => simp
      | ok built =>
        simp only [true_and]
        cases hlinks : (linksOf c).find? (lacks g.fields) with
        | some link =>
          have hmem := List.mem_of_find?_eq_some hlinks
          have hlacks := List.find?_some hlinks
          simp only [reduceCtorEq, false_iff, not_and]
          intro _ hall
          simp [hall link hmem] at hlacks
        | none => simpa using fun _ => hlinks

/-- A column ends in a crash if its turn comes and it overflows. -/
theorem crashAt?_eq_some_iff {g : Progress} {c : Column} {crash : Crash} :
    crashAt? check assets g c = some crash ↔
      findingFor? check c.name = none ∧ droppedReference? c g.dropped = none ∧ c.Overflows ∧
        crash = ⟨some "capacity overflow"⟩ := by
  rw [← @Field.exists_build_crash_iff c assets]
  unfold crashAt? outcomeOf fieldOf
  cases findingFor? check c.name with
  | some finding => simp [DropReason.crash?]
  | none =>
    cases droppedReference? c g.dropped with
    | some name => simp [DropReason.crash?]
    | none =>
      cases Field.build c assets with
      | error e => simp [DropReason.crash?]
      | ok f => cases (linksOf c).find? (lacks g.fields) <;> simp [DropReason.crash?]

theorem advance_of_error {g : Progress} {c : Column} {reason : DropReason}
    (h : outcomeOf check assets g c = .error reason) :
    advance check assets g c = { g with dropped := g.dropped ++ [⟨c.name, reason⟩] } := by
  simp [advance, h]

theorem advance_of_ok {g : Progress} {c : Column} {f : Field}
    (h : outcomeOf check assets g c = .ok f) :
    (advance check assets g c).fields = g.fields ++ [f] ∧
      (advance check assets g c).dropped = g.dropped := by
  simp [advance, h]

/-- Later columns add fields after those that are there. -/
theorem fields_foldl (check : CheckReport) (assets : AssetSource) (g : Progress)
    (columns : List Column) :
    ∃ more, (columns.foldl (advance check assets) g).fields = g.fields ++ more ∧
      ∀ f ∈ more, ∃ c ∈ columns, Field.build c assets = .ok f := by
  induction columns generalizing g with
  | nil => exact ⟨[], by simp⟩
  | cons c rest ih =>
    obtain ⟨more, hfields, hmore⟩ := ih (advance check assets g c)
    rw [List.foldl_cons, hfields]
    have hrest : ∀ f ∈ more, ∃ d ∈ c :: rest, Field.build d assets = .ok f := fun f hf =>
      (hmore f hf).imp fun d hd => ⟨List.mem_cons_of_mem _ hd.1, hd.2⟩
    cases hout : outcomeOf check assets g c with
    | error reason => exact ⟨more, by rw [advance_of_error hout], hrest⟩
    | ok f =>
      refine ⟨f :: more, by rw [(advance_of_ok hout).1]; simp, ?_⟩
      intro f' hf'
      rcases List.mem_cons.1 hf' with rfl | hf'
      · exact ⟨c, List.mem_cons_self .., (outcomeOf_eq_ok_iff.1 hout).2.2.1⟩
      · exact hrest f' hf'

theorem progressAfter_append (xs ys : List Column) :
    progressAfter check assets (xs ++ ys) =
      ys.foldl (advance check assets) (progressAfter check assets xs) :=
  List.foldl_append ..

theorem progressAfter_concat (xs : List Column) (c : Column) :
    progressAfter check assets (xs ++ [c]) = advance check assets (progressAfter check assets xs) c :=
  progressAfter_append ..

end

/-! ## Fields and dropped columns divide the columns -/

/-- The fields are built from the columns kept, and the others are dropped; both are in the order of
the columns. -/
structure Divides (assets : AssetSource) (columns : List Column) (fields : List Field)
    (dropped : List DroppedColumn) : Prop where
  fields_eq : fields.map Except.ok = (columns.filter (isKept fields)).map (Field.build · assets)
  dropped_eq : dropped.map (·.column) = (columns.filter (!isKept fields ·)).map (·.name)

namespace Divides

variable {assets : AssetSource} {columns : List Column} {fields : List Field}
  {dropped : List DroppedColumn}

theorem exists_column (h : Divides assets columns fields dropped) {f : Field} (hf : f ∈ fields) :
    ∃ c ∈ columns, Field.build c assets = .ok f := by
  have hmem : (Except.ok f : Except FieldError Field) ∈ fields.map Except.ok :=
    List.mem_map_of_mem hf
  rw [h.fields_eq] at hmem
  obtain ⟨c, hc, hbuild⟩ := List.mem_map.1 hmem
  exact ⟨c, (List.mem_filter.1 hc).1, hbuild⟩

theorem isKept_eq_false (h : Divides assets columns fields dropped) {c : Column}
    (hc : c.name ∉ columns.map (·.name)) : isKept fields c = false := by
  rw [← Bool.not_eq_true, isKept_iff]
  rintro ⟨f, hf, hname⟩
  obtain ⟨d, hd, hbuild⟩ := h.exists_column hf
  exact hc (List.mem_map.2 ⟨d, hd, by rw [← Field.name_of_build hbuild, hname]⟩)

theorem append_dropped (h : Divides assets columns fields dropped) {c : Column}
    (hc : c.name ∉ columns.map (·.name)) (reason : DropReason) :
    Divides assets (columns ++ [c]) fields (dropped ++ [⟨c.name, reason⟩]) := by
  have hkept := h.isKept_eq_false hc
  exact ⟨by simp [h.fields_eq, hkept], by simp [h.dropped_eq, hkept]⟩

theorem append_field (h : Divides assets columns fields dropped) {c : Column}
    (hc : c.name ∉ columns.map (·.name)) {f : Field} (hbuild : Field.build c assets = .ok f) :
    Divides assets (columns ++ [c]) (fields ++ [f]) dropped := by
  have hname := Field.name_of_build hbuild
  have hself : isKept (fields ++ [f]) c = true := by simp [isKept_iff, hname]
  -- the names are distinct, so the new field keeps none of the columns before
  have hothers : ∀ d ∈ columns, isKept (fields ++ [f]) d = isKept fields d := by
    intro d hd
    have hne : d.name ≠ f.name := fun heq => hc (List.mem_map.2 ⟨d, hd, by rw [heq, hname]⟩)
    simp [isKept, hne]
  have hfilter : columns.filter (isKept (fields ++ [f])) = columns.filter (isKept fields) :=
    List.filter_congr hothers
  have hfilterNot : columns.filter (!isKept (fields ++ [f]) ·) =
      columns.filter (!isKept fields ·) :=
    List.filter_congr fun d hd => by rw [hothers d hd]
  constructor
  · rw [List.filter_append, hfilter, List.map_append, List.map_append, h.fields_eq]
    simp [hself, hbuild]
  · rw [List.filter_append, hfilterNot, List.map_append, h.dropped_eq]
    simp [hself]

/-- The names of the fields are those of the columns kept. -/
theorem names_eq (h : Divides assets columns fields dropped) :
    fields.map (·.name) = (columns.filter (isKept fields)).map (·.name) :=
  Field.names_of_builds h.fields_eq

theorem nodup_names (h : Divides assets columns fields dropped)
    (hnodup : (columns.map (·.name)).Nodup) : (fields.map (·.name)).Nodup := by
  rw [h.names_eq]
  exact hnodup.sublist (List.filter_sublist.map _)

/-- A name was dropped if it is that of a column not kept. -/
theorem mem_dropped_iff (h : Divides assets columns fields dropped) {n : String} :
    n ∈ dropped.map (·.column) ↔ ∃ c ∈ columns, c.name = n ∧ isKept fields c = false := by
  rw [h.dropped_eq]
  simp only [List.mem_map, List.mem_filter, Bool.not_eq_true', and_assoc]
  exact exists_congr fun c => and_congr_right fun _ => and_comm

end Divides

section

variable {check : CheckReport} {assets : AssetSource}

theorem progressAfter_divides (check : CheckReport) (assets : AssetSource) {columns : List Column}
    (hnodup : (columns.map (·.name)).Nodup) :
    Divides assets columns (progressAfter check assets columns).fields
      (progressAfter check assets columns).dropped := by
  induction columns using List.reverseRecOn with
  | nil => exact ⟨rfl, rfl⟩
  | append_singleton xs c ih =>
    rw [List.map_append, List.nodup_append] at hnodup
    have hnew : c.name ∉ xs.map (·.name) := fun hmem => hnodup.2.2 _ hmem _ (by simp) rfl
    rw [progressAfter_concat]
    cases hout : outcomeOf check assets (progressAfter check assets xs) c with
    | error reason =>
      rw [advance_of_error hout]
      exact (ih hnodup.1).append_dropped hnew reason
    | ok f =>
      obtain ⟨hfields, hdropped⟩ := advance_of_ok hout
      rw [hfields, hdropped]
      exact (ih hnodup.1).append_field hnew (outcomeOf_eq_ok_iff.1 hout).2.2.1

/-- Whether a column is kept is settled when its turn has come. -/
theorem isKept_progressAfter_append {xs ys : List Column}
    (hnodup : ((xs ++ ys).map (·.name)).Nodup) {d : Column} (hd : d ∈ xs) :
    isKept (progressAfter check assets (xs ++ ys)).fields d =
      isKept (progressAfter check assets xs).fields d := by
  obtain ⟨more, hfields, hmore⟩ := fields_foldl check assets (progressAfter check assets xs) ys
  rw [progressAfter_append, hfields]
  have hnone : d.name ∉ more.map (·.name) := by
    intro hmem
    obtain ⟨f, hf, hname⟩ := List.mem_map.1 hmem
    obtain ⟨c, hc, hbuild⟩ := hmore f hf
    rw [List.map_append, List.nodup_append] at hnodup
    refine hnodup.2.2 _ (List.mem_map_of_mem hd) _ (List.mem_map_of_mem hc) ?_
    rw [← Field.name_of_build hbuild, hname]
  simp [isKept, hnone]

/-- A column is kept exactly if it becomes a field when its turn comes. -/
theorem isKept_iff_outcomeOf {before after : List Column} {c : Column}
    (hnodup : ((before ++ c :: after).map (·.name)).Nodup) :
    isKept (progressAfter check assets (before ++ c :: after)).fields c = true ↔
      ∃ f, outcomeOf check assets (progressAfter check assets before) c = .ok f := by
  have hcons : before ++ c :: after = (before ++ [c]) ++ after := by simp
  rw [hcons] at hnodup ⊢
  rw [isKept_progressAfter_append hnodup (by simp), progressAfter_concat]
  rw [List.map_append, List.map_append, List.nodup_append, List.nodup_append] at hnodup
  obtain ⟨⟨hbefore, -, hdisjoint⟩, -⟩ := hnodup
  have hnew : c.name ∉ before.map (·.name) := fun hmem => hdisjoint _ hmem _ (by simp) rfl
  cases hout : outcomeOf check assets (progressAfter check assets before) c with
  | error reason =>
    rw [advance_of_error hout]
    simp [(progressAfter_divides check assets hbefore).isKept_eq_false hnew]
  | ok f =>
    rw [(advance_of_ok hout).1]
    simp [isKept_iff, Field.name_of_build (outcomeOf_eq_ok_iff.1 hout).2.2.1]

end

/-! ## The plan of a schema -/

/-- The plan that comes of a check if no column ends in a crash. -/
def draft (check : CheckReport) (assets : AssetSource) (columns : List Column) : Plan :=
  let progress := progressAfter check assets columns
  ⟨progress.fields, check, progress.dropped, progress.warnings⟩

/-- The plan is the one that a schema comes to if no column ends in a crash. -/
structure IsDraft (s : Schema) (assets : AssetSource) (p : Plan) : Prop where
  check_eq : s.check = .ok p.check
  eq_draft : p = draft p.check assets s.columns

/-- The columns of a list are all made ready, or one of them ends in a crash. -/
theorem advanceAll_cases (check : CheckReport) (assets : AssetSource) (columns : List Column)
    (g : Progress) :
    (advanceAll check assets columns g = .ok (columns.foldl (advance check assets) g) ∧
      ∀ before c after, columns = before ++ c :: after →
        crashAt? check assets (before.foldl (advance check assets) g) c = none) ∨
    ∃ before c after crash, columns = before ++ c :: after ∧
      crashAt? check assets (before.foldl (advance check assets) g) c = some crash ∧
      advanceAll check assets columns g = .error crash := by
  induction columns generalizing g with
  | nil => exact .inl ⟨rfl, fun before c after h => absurd h.symm (by simp)⟩
  | cons d rest ih =>
    rw [advanceAll]
    cases hcrash : crashAt? check assets g d with
    | some crash => exact .inr ⟨[], d, rest, crash, rfl, hcrash, rfl⟩
    | none =>
      rcases ih (advance check assets g d) with ⟨hall, hnone⟩ | ⟨before, c, after, crash, hsplit, h⟩
      · refine .inl ⟨hall, fun before c after hsplit => ?_⟩
        cases before with
        | nil =>
          obtain ⟨rfl, -⟩ := List.cons.inj hsplit
          exact hcrash
        | cons e before =>
          obtain ⟨rfl, hrest⟩ := List.cons.inj hsplit
          exact hnone before c after hrest
      · exact .inr ⟨d :: before, c, after, crash, by rw [hsplit, List.cons_append], h⟩

section

variable {s : Schema} {assets : AssetSource} {p : Plan}

/-- Each schema with good names comes to a plan. -/
theorem exists_isDraft (assets : AssetSource) (h : s.nameFault? = none) :
    ∃ p, IsDraft s assets p :=
  ⟨draft _ assets s.columns, Schema.check_eq_ok_iff.2 ⟨h, rfl⟩, rfl⟩

namespace IsDraft

theorem nameFault?_eq_none (h : IsDraft s assets p) : s.nameFault? = none :=
  (Schema.check_eq_ok_iff.1 h.check_eq).1

theorem errors_eq (h : IsDraft s assets p) :
    p.check.errors = s.issues.filter (·.finding.isError) := by
  rw [(Schema.check_eq_ok_iff.1 h.check_eq).2]

theorem nodup_columns (h : IsDraft s assets p) : (s.columns.map (·.name)).Nodup :=
  (Schema.nameFault?_eq_none_iff.1 h.nameFault?_eq_none).2

theorem fields_eq (h : IsDraft s assets p) :
    p.fields = (progressAfter p.check assets s.columns).fields :=
  congrArg Plan.fields h.eq_draft

theorem dropped_eq (h : IsDraft s assets p) :
    p.dropped = (progressAfter p.check assets s.columns).dropped :=
  congrArg Plan.dropped h.eq_draft

theorem divides (h : IsDraft s assets p) : Divides assets s.columns p.fields p.dropped := by
  rw [h.eq_draft]
  exact progressAfter_divides p.check assets h.nodup_columns

/-- The plan is made, or a column ends in a crash when its turn comes. -/
theorem build_cases (h : IsDraft s assets p) :
    (build s assets = .ok p ∧ ∀ before c after, s.columns = before ++ c :: after →
      crashAt? p.check assets (progressAfter p.check assets before) c = none) ∨
    ∃ before c after crash, s.columns = before ++ c :: after ∧
      crashAt? p.check assets (progressAfter p.check assets before) c = some crash ∧
      build s assets = .error (.crash crash) := by
  unfold build
  rw [h.check_eq]
  dsimp only
  rcases advanceAll_cases p.check assets s.columns ⟨[], [], checkNotices p.check⟩ with
    ⟨hall, hnone⟩ | ⟨before, c, after, crash, hsplit, hcrash, hall⟩
  · refine .inl ⟨?_, hnone⟩
    rw [hall]
    exact congrArg Except.ok h.eq_draft.symm
  · refine .inr ⟨before, c, after, crash, hsplit, hcrash, ?_⟩
    rw [hall]

theorem crashAt?_eq_none (h : IsDraft s assets p) (hbuild : build s assets = .ok p)
    {before after : List Column} {c : Column} (hsplit : s.columns = before ++ c :: after) :
    crashAt? p.check assets (progressAfter p.check assets before) c = none := by
  rcases h.build_cases with ⟨-, hnone⟩ | ⟨_, _, _, _, -, -, hcrash⟩
  · exact hnone before c after hsplit
  · rw [hbuild] at hcrash
    cases hcrash

end IsDraft

theorem nameFault?_eq_none_of_crash {crash : Crash} (h : build s assets = .error (.crash crash)) :
    s.nameFault? = none := by
  cases hnames : s.nameFault? with
  | none => rfl
  | some fault =>
    rw [build, Schema.check, hnames] at h
    cases h

theorem isDraft_of_build (h : build s assets = .ok p) : IsDraft s assets p := by
  cases hnames : s.nameFault? with
  | some fault =>
    rw [build, Schema.check, hnames] at h
    cases h
  | none =>
    obtain ⟨q, hq⟩ := exists_isDraft assets hnames
    rcases hq.build_cases with ⟨hbuild, -⟩ | ⟨_, _, _, _, -, -, hcrash⟩
    · rw [hbuild] at h
      rwa [← Except.ok.inj h]
    · rw [hcrash] at h
      cases h

end

end Plan

end SynthTable
