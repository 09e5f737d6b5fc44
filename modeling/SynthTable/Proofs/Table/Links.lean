import SynthTable.Proofs.Domain.Attributes
import SynthTable.Proofs.Table.Consistency

/-!
# Links resolve

A plan takes a link only to a field that shows the attribute. All that such a field draws is no
value or has the attribute, and so has all that it casts, but for texts that stray
(`Field.answers_cast_iff`). So a link of a row fails exactly if its target has no value, or has the
value made up for a stray text (`Plan.reports_iff_null_or_strays`).
-/

namespace SynthTable

theorem Value.not_answers_null {name : String} : ¬ Value.null.Answers name := by
  rintro ⟨text, h⟩
  cases h

/-! ## Fields -/

namespace Field

/-- The value made up for a text has only the field that stands for a record, and not the
attribute. -/
def Strays (f : Field) (text name : String) : Prop :=
  match f.content with
  | .declared _ domain _ => domain.Strays text name
  | .external _ => False

section

variable {c : Column} {assets : AssetSource} {f : Field} {name : String}

theorem domain_of_city {domain : Domain} (hkind : c.kind = .city)
    (h : Domain.build c assets = .ok domain) : ∃ all pick, domain = .city all pick := by
  simp only [Domain.build, hkind] at h
  obtain ⟨all, -, h⟩ := exists_ok_of_bind h
  cases h
  exact ⟨_, _, rfl⟩

theorem domain_of_name {domain : Domain} (hkind : c.kind = .name)
    (h : Domain.build c assets = .ok domain) : ∃ all pick, domain = .name all pick := by
  simp only [Domain.build, hkind] at h
  obtain ⟨all, -, h⟩ := exists_ok_of_bind h
  cases h
  exact ⟨_, _, rfl⟩

/-- The first record tells what all records have, as they have one header. -/
theorem shows_of_head {mainField : String} {all : List CsvRecord} {pick : PickList CsvRecord}
    (h : Domain.build c assets = .ok (.csv mainField all pick))
    (hhead : (all.head?.any fun r => r.header.contains name) = true) :
    (Domain.csv mainField all pick).Shows name := by
  obtain ⟨⟨header, hheader⟩, hpick⟩ := Domain.records_of_buildCsv (Domain.buildCsv_of_build h)
  refine ⟨fun r hr => ?_, hpick⟩
  cases all with
  | nil => cases hhead
  | cons first rest =>
    have hfirst : name ∈ first.header := by simpa using hhead
    rwa [hheader r hr, ← hheader first List.mem_cons_self]

/-- What a field lets links read is what its domain shows. -/
theorem shows_of_exposes (h : build c assets = .ok f) (hexposes : f.exposes name = some true) :
    ∃ kind domain computation?, f.content = .declared kind domain computation? ∧
      domain.Shows name := by
  obtain ⟨domain, computation?, rfl, hdomain, -⟩ := eq_of_build h
  refine ⟨c.kind, domain, computation?, rfl, ?_⟩
  unfold exposes at hexposes
  dsimp only at hexposes
  split at hexposes
  · next heq =>
    cases heq
    exact shows_of_head hdomain (Option.some.inj hexposes)
  · next heq =>
    cases heq
    cases hkind : c.kind <;> rw [hkind] at hexposes
    case city =>
      obtain ⟨all, pick, rfl⟩ := domain_of_city hkind hdomain
      exact List.contains_iff_mem.1 (Option.some.inj hexposes)
    case name =>
      obtain ⟨all, pick, rfl⟩ := domain_of_name hkind hdomain
      exact List.contains_iff_mem.1 (Option.some.inj hexposes)
    all_goals cases hexposes
  · next heq => cases heq

/-- What a field draws has the attributes that links may read. -/
theorem answers_of_generate (h : build c assets = .ok f) (hexposes : f.exposes name = some true)
    {σ : Type} [RandomSource σ] {w w' : World σ} {v : Value} (hdraw : f.generate w = (.ok v, w')) :
    v = .null ∨ v.Answers name := by
  obtain ⟨kind, domain, computation?, hcontent, hshows⟩ := shows_of_exposes h hexposes
  rw [generate, hcontent] at hdraw
  exact Domain.answers_of_generate hshows hdraw

/-- What a field casts has the attributes that links may read, unless the text strays. -/
theorem answers_cast_iff (h : build c assets = .ok f) (hexposes : f.exposes name = some true)
    {text : String} {v : Value} (hcast : f.cast text = .ok v) (hvalue : v ≠ .null) :
    v.Answers name ↔ ¬ f.Strays text name := by
  obtain ⟨kind, domain, computation?, hcontent, hshows⟩ := shows_of_exposes h hexposes
  rw [Strays, hcontent]
  rw [Field.cast, hcontent] at hcast
  dsimp only at hcast
  split at hcast
  · cases hcast
    exact absurd rfl hvalue
  · exact Domain.answers_cast_iff hshows hcast

theorem exists_cast_of_compute {row : Row} {v : Value} (hcomputed : f.isComputed = true)
    (h : f.compute row = .ok (.ok v)) : ∃ text, f.cast text = .ok v := by
  unfold compute at h
  split at h
  · next hcontent =>
    rw [isComputed, hcontent] at hcomputed
    cases hcomputed
  · split at h
    · exact ⟨_, Except.ok.inj h⟩
    · cases h
  · split at h
    · cases h
    · exact ⟨_, Except.ok.inj h⟩
    · cases h

/-- Only a computed value may lack an attribute that links may read. -/
theorem not_answers_iff (h : build c assets = .ok f) (hexposes : f.exposes name = some true)
    {σ : Type} [RandomSource σ] {row : Row} {w w' : World σ} {v : Value}
    (hvalue : f.valueFor row w = (.ok (.ok v), w')) :
    ¬ v.Answers name ↔
      v = .null ∨ f.isComputed = true ∧ ∃ text, f.Strays text name ∧ f.cast text = .ok v := by
  constructor
  · intro hnot
    by_cases hnull : v = .null
    · exact .inl hnull
    refine .inr ?_
    by_cases hcomputed : f.isComputed = true
    · have hcompute := compute_of_valueFor hvalue hcomputed
      obtain ⟨text, hcast⟩ := exists_cast_of_compute hcomputed hcompute
      refine ⟨hcomputed, text, ?_, hcast⟩
      by_contra hstrays
      exact hnot ((answers_cast_iff h hexposes hcast hnull).2 hstrays)
    · rw [valueFor, if_neg hcomputed] at hvalue
      split at hvalue
      · next hdraw =>
        cases hvalue
        exact ((answers_of_generate h hexposes hdraw).elim hnull hnot).elim
      · cases hvalue
  · rintro (rfl | ⟨-, text, hstrays, hcast⟩) hanswers
    · exact Value.not_answers_null hanswers
    · have hnull : v ≠ .null := by
        rintro rfl
        exact Value.not_answers_null hanswers
      exact (answers_cast_iff h hexposes hcast hnull).1 hanswers hstrays

end

end Field

/-! ## Links -/

theorem LinkTarget.resolve_eq_unknown_iff {link : LinkTarget} {row : Row} {v : Value}
    (h : row.get? link.column = some v) :
    link.resolve row = .error (.unknownAttribute link.column link.field) ↔
      ¬ v.Answers link.field := by
  unfold resolve Value.Answers
  rw [h]
  dsimp only
  cases v.attribute? link.field <;> simp

/-- An attribute that a link misses is its own. -/
theorem LinkTarget.eq_of_unknown {link : LinkTarget} {row : Row} {column field : String}
    (h : link.resolve row = .error (.unknownAttribute column field)) :
    link.resolve row = .error (.unknownAttribute link.column link.field) := by
  unfold resolve at h ⊢
  split at h
  · cases h
  · split at h
    · cases h
    · rfl

namespace Field

variable {c : Column} {assets : AssetSource} {f : Field} {source : String}

theorem content_of_link (h : build c assets = .ok f) (hlink : c.derivation? = some (.link source)) :
    ∃ link domain, LinkTarget.ofText? source = some link ∧
      f.content = .declared c.kind domain (some (.link link)) := by
  obtain ⟨domain, computation?, rfl, -, hread⟩ := eq_of_build h
  rw [computationOf, hlink] at hread
  obtain ⟨computation, hcomputation, rfl⟩ := exists_ok_of_map hread
  rw [Computation.ofDerivation] at hcomputation
  obtain ⟨link, hsource, hcomputation⟩ := exists_ok_of_bind hcomputation
  cases hcomputation
  unfold readLink at hsource
  split at hsource
  · next htext =>
    cases hsource
    exact ⟨_, domain, htext, rfl⟩
  · cases hsource

/-- A field that is a link misses an attribute exactly if the link does. -/
theorem compute_eq_unknown_iff {kind : ColumnKind} {domain : Domain} {link : LinkTarget}
    (hcontent : f.content = .declared kind domain (some (.link link))) {row : Row}
    {column field : String} :
    f.compute row = .ok (.error (.unknownAttribute column field)) ↔
      link.resolve row = .error (.unknownAttribute column field) := by
  have heval : (Computation.link link).evaluate row = link.resolve row := by
    rw [Computation.evaluate]
  rw [compute, hcontent]
  dsimp only
  rw [heval]
  split
  · next text htext =>
    rw [htext]
    simp only [Except.ok.injEq, reduceCtorEq, iff_false]
    intro hcast
    obtain ⟨_, _, heq⟩ := exists_cast_of_error hcast
    cases heq
  · next e he =>
    rw [he]
    simp

end Field

/-! ## Rows -/

namespace Plan

section

variable {s : Schema} {assets : AssetSource} {p : Plan} {c : Column} {f : Field}

variable {source : String} {link : LinkTarget} {result : RowResult}

/-- A link sees in its moment what its target has in the end. -/
theorem Moment.resolve_eq {mid : RowResult} {before after : List Field}
    {outcome : Except CellError Value} (m : Moment p result mid before f outcome)
    (h : build s assets = .ok p) (hfields : p.fields = before ++ f :: after) (hc : c ∈ s.columns)
    (hname : f.name = c.name) (hlink : c.derivation? = some (.link source))
    (htext : LinkTarget.ofText? source = some link) :
    link.resolve mid.row = link.resolve result.row := by
  obtain ⟨d, hd, hbuild, -, hrequired⟩ := reads_before h hfields
  have hsame : d.name = c.name := by rw [← Field.name_of_build hbuild, hname]
  obtain rfl := List.inj_on_of_nodup_map (nodup_columns h) hd hc hsame
  have hmem : link ∈ (Derivation.link source).links := by
    rw [Derivation.links, htext]
    exact List.mem_singleton_self link
  have hbefore := hrequired _ hlink _ (Derivation.column_mem_required hmem)
  refine LinkTarget.resolve_congr fun n hn => m.get?_eq hfields ?_
  obtain rfl := List.mem_singleton.1 hn
  exact not_mem_later h hfields hbefore

variable {σ : Type} [RandomSource σ] {w w' : World σ}

/-- Each field of a row has an outcome, which its cell holds. -/
theorem exists_outcome (h : build s assets = .ok p) (hrow : p.generateRow w = (.ok result, w'))
    (hf : f ∈ p.fields) :
    ∃ (row : Row) (v v' : World σ) (outcome : Except CellError Value),
      f.valueFor row v = (.ok outcome, v') ∧ result.row.get? f.name = some (stored outcome) := by
  obtain ⟨before, after, hfields⟩ := List.append_of_mem hf
  obtain ⟨mid, outcome, v, v', hvalue, m⟩ := moment_of_generateRow hfields hrow
  exact ⟨mid.row, v, v', outcome, hvalue, m.get?_self hfields (name_not_mem_later h hfields)⟩

/-- A column that is a link reports a missing attribute exactly if its link misses one in the
complete row. -/
theorem reports_iff_unknown (h : build s assets = .ok p)
    (hrow : p.generateRow w = (.ok result, w')) (hc : c ∈ s.columns) (hkeeps : p.keeps c = true)
    (hlink : c.derivation? = some (.link source))
    (htext : LinkTarget.ofText? source = some link) :
    (∃ column field, (c.name, CellError.unknownAttribute column field) ∈ result.errors) ↔
      link.resolve result.row = .error (.unknownAttribute link.column link.field) := by
  obtain ⟨f, hf, hname⟩ := isKept_iff.1 hkeeps
  obtain ⟨link', domain, htext', hcontent⟩ :=
    Field.content_of_link ((isDraft_of_build h).build_of_name_eq hc hf hname) hlink
  obtain rfl : link = link' := Option.some.inj (htext.symm.trans htext')
  have hcomputed : f.isComputed = true := by
    rw [Field.isComputed, hcontent]
    rfl
  constructor
  · rintro ⟨column, field, hmem⟩
    obtain ⟨before, g, after, mid, v, v', hfields, hvalue, hsame, m⟩ := moment_of_error hrow hmem
    have hg : g ∈ p.fields := by
      rw [hfields]
      simp
    obtain rfl := List.inj_on_of_nodup_map (nodup_fields h) hg hf (hsame.symm.trans hname.symm)
    have hcompute := Field.compute_of_valueFor hvalue hcomputed
    have hunknown := (Field.compute_eq_unknown_iff hcontent).1 hcompute
    rw [m.resolve_eq h hfields hc hname hlink htext] at hunknown
    exact LinkTarget.eq_of_unknown hunknown
  · intro hunknown
    obtain ⟨before, after, hfields⟩ := List.append_of_mem hf
    obtain ⟨mid, outcome, v, v', hvalue, m⟩ := moment_of_generateRow hfields hrow
    rw [← m.resolve_eq h hfields hc hname hlink htext] at hunknown
    have hcompute := (Field.compute_eq_unknown_iff hcontent).2 hunknown
    rw [Field.compute_of_valueFor hvalue hcomputed] at hcompute
    exact ⟨_, _, hname ▸ m.error_mem _ (Except.ok.inj hcompute)⟩

end

/-- The fields of a plan draw only values with the attributes that they let links read, and cast
each text to one unless the text strays. A column that is a link has a target that lets it read the
attribute; it reports a missing attribute in a row exactly if the target has no value there, or is
computed and has the value made up for a text that strays. -/
theorem reports_iff_null_or_strays {s : Schema} {assets : AssetSource} {p : Plan}
    (h : build s assets = .ok p) :
    (∀ f ∈ p.fields, ∀ name, f.exposes name = some true →
      (∀ (σ : Type) [RandomSource σ] (w w' : World σ) (v : Value),
        f.generate w = (.ok v, w') → v = .null ∨ v.Answers name) ∧
      ∀ text v, f.cast text = .ok v → v ≠ .null → (v.Answers name ↔ ¬ f.Strays text name)) ∧
    ∀ (σ : Type) [RandomSource σ] (w w' : World σ) (result : RowResult),
      p.generateRow w = (.ok result, w') → ∀ c ∈ s.columns, p.keeps c = true →
      ∀ source, c.derivation? = some (.link source) →
      ∃ link f v, LinkTarget.ofText? source = some link ∧ f ∈ p.fields ∧ f.name = link.column ∧
        f.exposes link.field = some true ∧ result.row.get? link.column = some v ∧
        ((∃ column field, (c.name, CellError.unknownAttribute column field) ∈ result.errors) ↔
          v = .null ∨ f.isComputed = true ∧
            ∃ text, f.Strays text link.field ∧ f.cast text = .ok v) := by
  refine ⟨fun f hf name hexposes => ?_, fun σ _ w w' result hrow c hc hkeeps source hlink => ?_⟩
  · obtain ⟨c, -, hbuild⟩ := (divides_of_build h).exists_column hf
    exact ⟨fun σ _ w w' v => Field.answers_of_generate hbuild hexposes,
      fun text v => Field.answers_cast_iff hbuild hexposes⟩
  · obtain ⟨g, hg, hname⟩ := isKept_iff.1 hkeeps
    obtain ⟨link, domain, htext, -⟩ :=
      Field.content_of_link ((isDraft_of_build h).build_of_name_eq hc hg hname) hlink
    obtain ⟨before, after, hsplit⟩ := List.append_of_mem hc
    have hmem : link ∈ linksOf c := by
      rw [linksOf, hlink]
      exact Option.mem_toList.2 htext
    have fit := (isDraft_of_build h).fit_of_keeps hsplit hkeeps
    obtain ⟨f, hf, hname, hexposes⟩ := fit.links link hmem
    obtain ⟨d, -, hbuild⟩ := (divides_of_build h).exists_column hf
    obtain ⟨row, u, u', outcome, hvalue, hcell⟩ := exists_outcome h hrow hf
    rw [hname] at hcell
    refine ⟨link, f, stored outcome, htext, hf, hname, hexposes, hcell, ?_⟩
    rw [reports_iff_unknown h hrow hc hkeeps hlink htext, LinkTarget.resolve_eq_unknown_iff hcell]
    cases outcome with
    | ok v => exact Field.not_answers_iff hbuild hexposes hvalue
    | error e => exact iff_of_true Value.not_answers_null (.inl rfl)

/-- A file with one record, of a code and a label. -/
def labelFile : AssetSource :=
  ⟨"", fun _ => .missing, fun _ => .bytes (Text.stringBytes "code,label\nFR,France\n")⟩

/-- A drawn record and one for the text `zz`, which is no code of the file, with links to the labels
of both. -/
def labels : Schema :=
  let records := { Column.plain "a" .csv with source? := some ⟨"labels.csv", ",", "code"⟩ }
  ⟨Schema.defaultVersion, none,
    [records, { records with name := "b", derivation? := some (.injection "zz") },
      { Column.plain "c" .string with derivation? := some (.link "a.label") },
      { Column.plain "d" .string with derivation? := some (.link "b.label") }]⟩

theorem generateRow_labels :
    ∃ p result w', build labels labelFile = .ok p ∧ p.generateRow sevens = (.ok result, w') ∧
      labels.columns.all p.keeps = true ∧
      result.errors = [("d", .unknownAttribute "b" "label")] ∧
      result.row.get? "b" = some (.record (.single "code" "zz")) := by
  have hrow : (build labels labelFile).toOption.map (fun p =>
      (labels.columns.all p.keeps, (p.generateRow sevens).1.toOption.map fun result =>
        (result.errors, result.row.get? "b"))) =
      some (true, some ([("d", .unknownAttribute "b" "label")],
        some (.record (.single "code" "zz")))) := by
    decide +kernel
  cases hbuild : build labels labelFile with
  | error fault => simp [hbuild, Except.toOption] at hrow
  | ok p =>
    simp only [hbuild, Except.toOption, Option.map_some, Option.some.injEq, Prod.mk.injEq] at hrow
    obtain ⟨hkeeps, hresult⟩ := hrow
    cases hgenerate : p.generateRow sevens with
    | mk produced w' =>
      cases produced with
      | error crash => simp [hgenerate] at hresult
      | ok result =>
        have hfacts : result.errors = [("d", .unknownAttribute "b" "label")] ∧
            result.row.get? "b" = some (.record (.single "code" "zz")) := by
          simpa [hgenerate] using hresult
        exact ⟨p, result, w', rfl, hgenerate, hkeeps, hfacts⟩

theorem reports_iff_null_or_strays_labels :
    ∃ p result w', build labels labelFile = .ok p ∧ p.generateRow sevens = (.ok result, w') ∧
      ("d", .unknownAttribute "b" "label") ∈ result.errors ∧
      ∃ f ∈ p.fields, f.name = "b" ∧ f.isComputed = true ∧ ∃ text, f.Strays text "label" := by
  obtain ⟨p, result, w', hbuild, hrow, hkeeps, herrors, hb⟩ := generateRow_labels
  have hmem : ("d", .unknownAttribute "b" "label") ∈ result.errors := by
    rw [herrors]
    exact List.mem_cons_self
  have hd : { Column.plain "d" .string with derivation? := some (.link "b.label") } ∈
      labels.columns := by
    simp [labels]
  obtain ⟨link, f, v, htext, hf, hname, -, hvalue, hiff⟩ :=
    (reports_iff_null_or_strays hbuild).2 _ sevens w' result hrow _ hd
      (List.all_eq_true.1 hkeeps _ hd) _ rfl
  have hlink : LinkTarget.ofText? "b.label" = some ⟨"b", "label"⟩ := by decide +kernel
  obtain rfl : ⟨"b", "label"⟩ = link := Option.some.inj (hlink.symm.trans htext)
  rw [hb] at hvalue
  cases hvalue
  rcases hiff.1 ⟨_, _, hmem⟩ with hnull | ⟨hcomputed, text, hstrays, -⟩
  · cases hnull
  · exact ⟨p, result, w', hbuild, hrow, hmem, f, hf, hname, hcomputed, text, hstrays⟩

/-- A link that was accepted may miss its attribute although its target has a value. -/
theorem not_reports_only_null : ¬ ∀ (s : Schema) (assets : AssetSource) (p : Plan),
    build s assets = .ok p → ∀ (w w' : World Random.WordCycle) (result : RowResult),
      p.generateRow w = (.ok result, w') → ∀ c ∈ s.columns, ∀ source link,
        c.derivation? = some (.link source) → LinkTarget.ofText? source = some link →
        (c.name, .unknownAttribute link.column link.field) ∈ result.errors →
        result.row.get? link.column = some .null := by
  intro hall
  obtain ⟨p, result, w', hbuild, hrow, -, herrors, hb⟩ := generateRow_labels
  have hd : { Column.plain "d" .string with derivation? := some (.link "b.label") } ∈
      labels.columns := by
    simp [labels]
  have hlink : LinkTarget.ofText? "b.label" = some ⟨"b", "label"⟩ := by decide +kernel
  have hmem : ("d", .unknownAttribute "b" "label") ∈ result.errors := by
    rw [herrors]
    exact List.mem_cons_self
  have hnull := hall labels labelFile p hbuild sevens w' result hrow _ hd _ _ rfl hlink hmem
  rw [hb] at hnull
  cases hnull

end Plan

end SynthTable
