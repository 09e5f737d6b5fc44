import SynthTable.Proofs.Schema.Variants
import SynthTable.Proofs.Sink.Visible
import SynthTable.Proofs.Table.SideBySide

/-!
# Schemas that differ in their ghosts

Whether a column is a ghost matters to the layout of rows and to nothing that comes before: neither
the check nor the making of a plan looks at it (`Plan.build_unveiled`), and no field sees it in a row.
So the plans of two schemas that differ only in their ghosts drop the same columns and give the same
values and errors (`Plan.endsAlike_generateRow`).
-/

namespace SynthTable

/-! ## Schemas without ghosts -/

/-- A column that is written out. -/
def Column.unveiled (c : Column) : Column := { c with ghost := false }

/-- A schema whose columns are all written out. -/
def Schema.unveiled (s : Schema) : Schema := { s with columns := s.columns.map Column.unveiled }

/-- A field that is written out. -/
def Field.unveiled (f : Field) : Field := { f with ghost := false }

namespace Schema

variable {s : Schema}

theorem sameAt_unveiled (s : Schema) (n : String) : s.unveiled.SameAt s n := by
  constructor
  · rw [position?, position?, unveiled, List.findIdx?_map]
    rfl
  · rw [column?, column?, unveiled, List.find?_map, Option.map_map]
    rfl

theorem check_unveiled (s : Schema) : s.unveiled.check = s.check := by
  have hnames : s.unveiled.nameFault? = s.nameFault? :=
    nameFaultFrom_map (g := Column.unveiled) (fun _ => rfl) s.columns 0 []
  have hissues : s.unveiled.issues = s.issues := by
    refine issuesFrom_map (g := Column.unveiled) (fun c _ => ⟨rfl, fun index alive => ?_⟩) 0 []
    exact Column.findings_congr (c := c.unveiled) fun n _ => sameAt_unveiled s n
  rw [check, check, hnames, hissues]

end Schema

theorem Field.build_unveiled (c : Column) (assets : AssetSource) :
    build c.unveiled assets = (build c assets).map unveiled := by
  have hdomain : Domain.build c.unveiled assets = Domain.build c assets := rfl
  have hcomputation : computationOf c.unveiled = computationOf c := rfl
  rw [build, build, hdomain, hcomputation]
  cases Domain.build c assets with
  | error e => rfl
  | ok domain => cases computationOf c <;> rfl

/-- The entries of a row are its names with its values. -/
theorem Row.entries_eq_zip (row : Row) : row.entries = row.layout.names.zip row.values := by
  rw [entries, cells, Layout.names, List.zip_map_left]
  rfl

/-- Two rows have the same names, values and errors. -/
structure RowResult.SameCells (a b : RowResult) : Prop where
  entries_eq : a.row.entries = b.row.entries
  errors_eq : a.errors = b.errors

/-! ## Plans without ghosts -/

namespace Plan

/-- A plan whose fields are all written out. -/
def unveiled (p : Plan) : Plan := { p with fields := p.fields.map Field.unveiled }

/-- The progress with fields that are all written out. -/
def Progress.unveiled (g : Progress) : Progress := { g with fields := g.fields.map Field.unveiled }

theorem lacks_unveiled (fields : List Field) :
    lacks (fields.map Field.unveiled) = lacks fields := by
  funext link
  rw [lacks, lacks, List.find?_map]
  show ((fields.find? (·.name = link.column)).map _).any _ = _
  rw [Option.any_map]
  rfl

theorem outcomeOf_unveiled (check : CheckReport) (assets : AssetSource) (g : Progress)
    (c : Column) :
    outcomeOf check assets g.unveiled c.unveiled =
      (outcomeOf check assets g c).map Field.unveiled := by
  have hname : c.unveiled.name = c.name := rfl
  have hlinks : linksOf c.unveiled = linksOf c := rfl
  have hdropped : droppedReference? c.unveiled g.dropped = droppedReference? c g.dropped := rfl
  rw [outcomeOf, outcomeOf, hname]
  cases findingFor? check c.name with
  | some finding => rfl
  | none =>
    show fieldOf c.unveiled assets (g.fields.map Field.unveiled) g.dropped =
      (fieldOf c assets g.fields g.dropped).map Field.unveiled
    rw [fieldOf, fieldOf, hdropped, Field.build_unveiled, hlinks, lacks_unveiled]
    cases droppedReference? c g.dropped with
    | some name => rfl
    | none =>
      cases Field.build c assets with
      | error e => rfl
      | ok f =>
        dsimp only [Except.map]
        cases (linksOf c).find? (lacks g.fields) <;> rfl

theorem advance_unveiled (check : CheckReport) (assets : AssetSource) (g : Progress) (c : Column) :
    advance check assets g.unveiled c.unveiled = (advance check assets g c).unveiled := by
  rw [advance, advance, outcomeOf_unveiled]
  cases outcomeOf check assets g c with
  | error reason => rfl
  | ok f =>
    show Progress.mk _ _ _ = Progress.mk _ _ _
    rw [List.map_append]
    rfl

theorem crashAt?_unveiled (check : CheckReport) (assets : AssetSource) (g : Progress) (c : Column) :
    crashAt? check assets g.unveiled c.unveiled = crashAt? check assets g c := by
  rw [crashAt?, crashAt?, outcomeOf_unveiled]
  cases outcomeOf check assets g c <;> rfl

theorem advanceAll_unveiled (check : CheckReport) (assets : AssetSource) (columns : List Column)
    (g : Progress) :
    advanceAll check assets (columns.map Column.unveiled) g.unveiled =
      (advanceAll check assets columns g).map Progress.unveiled := by
  induction columns generalizing g with
  | nil => rfl
  | cons c rest ih =>
    rw [List.map_cons, advanceAll, advanceAll, crashAt?_unveiled]
    cases crashAt? check assets g c with
    | some crash => rfl
    | none =>
      dsimp only
      rw [advance_unveiled, ih]

/-- The plan of a schema without ghosts is the plan of the schema, without ghosts. -/
theorem build_unveiled (s : Schema) (assets : AssetSource) :
    build s.unveiled assets = (build s assets).map unveiled := by
  rw [build, build, Schema.check_unveiled]
  cases s.check with
  | error fault => rfl
  | ok check =>
    have hprogress : advanceAll check assets s.unveiled.columns ⟨[], [], checkNotices check⟩ =
        (advanceAll check assets s.columns ⟨[], [], checkNotices check⟩).map Progress.unveiled :=
      advanceAll_unveiled check assets s.columns ⟨[], [], checkNotices check⟩
    dsimp only
    rw [hprogress]
    cases advanceAll check assets s.columns ⟨[], [], checkNotices check⟩ <;> rfl

/-! ## Rows -/

section

variable {s s' : Schema} {assets : AssetSource} {p p' : Plan} {f f' : Field}
  {rest rest' : List Field} {a b : RowResult}

theorem map_build_of_unveiled_eq (hsame : s.unveiled = s'.unveiled) (assets : AssetSource) :
    (build s assets).map unveiled = (build s' assets).map unveiled := by
  rw [← build_unveiled, ← build_unveiled, hsame]

/-- Schemas that differ only in their ghosts have plans that differ only in their ghosts. -/
theorem exists_build_of_unveiled_eq (hsame : s.unveiled = s'.unveiled)
    (h : build s assets = .ok p) : ∃ p', build s' assets = .ok p' ∧ p.unveiled = p'.unveiled := by
  have hboth := map_build_of_unveiled_eq hsame assets
  rw [h] at hboth
  obtain ⟨p', hp', heq⟩ := exists_ok_of_map hboth.symm
  exact ⟨p', hp', heq.symm⟩

theorem names_of_unveiled_eq (hplan : p.unveiled = p'.unveiled) :
    p.fields.map (·.name) = p'.fields.map (·.name) := by
  have hfields := congrArg (fun q : Plan => q.fields.map (·.name)) hplan
  rw [unveiled, unveiled, List.map_map, List.map_map] at hfields
  exact hfields

/-- Two rows of plans that differ only in their ghosts, with the same fields left, are the same so
far. -/
structure SameSoFar (p p' : Plan) (fields fields' : List Field) (a b : RowResult) : Prop where
  left : p.Left fields a.row
  left' : p'.Left fields' b.row
  fields_eq : fields.map Field.unveiled = fields'.map Field.unveiled
  values_eq : a.row.values = b.row.values
  errors_eq : a.errors = b.errors

theorem SameSoFar.names_eq {fields fields' : List Field} (h : SameSoFar p p' fields fields' a b)
    (hplan : p.unveiled = p'.unveiled) : a.row.layout.names = b.row.layout.names := by
  rw [h.left.layout_eq, h.left'.layout_eq, names_layout, names_layout, names_of_unveiled_eq hplan]

theorem SameSoFar.step {σ : Type} [RandomSource σ] (hbuild : build s assets = .ok p)
    (hplan : p.unveiled = p'.unveiled) (h : SameSoFar p p' (f :: rest) (f' :: rest') a b)
    (w : World σ) :
    EndsAlike (fun outcome outcome' =>
      SameSoFar p p' rest rest' (put a f.name outcome) (put b f'.name outcome'))
      (f.valueFor a.row w) (f'.valueFor b.row w) := by
  obtain ⟨hpair, hrest⟩ := List.cons.inj h.fields_eq
  have hname : f.name = f'.name := (congrArg Field.name hpair :)
  have hcontent : f.content = f'.content := (congrArg Field.content hpair :)
  have hvalue := Field.valueFor_congr hname hcontent (isDeclared_of_mem hbuild h.left.mem_fields)
    (fun n _ => Row.get?_congr (h.names_eq hplan) h.values_eq n) w
  refine EndsAlike.of_eq hvalue fun outcome => ?_
  refine ⟨h.left.put outcome, h.left'.put outcome, hrest, ?_, ?_⟩
  · rw [h.left.values_put, h.left'.values_put, h.values_eq]
  · cases outcome with
    | ok v => exact h.errors_eq
    | error e => rw [put, put, h.errors_eq, hname]

/-- Plans that differ only in their ghosts make rows with the same values and errors of the same
words, counters and clock. -/
theorem endsAlike_generateRow {σ : Type} [RandomSource σ] (hbuild : build s assets = .ok p)
    (hplan : p.unveiled = p'.unveiled) (w : World σ) :
    EndsAlike RowResult.SameCells (p.generateRow w) (p'.generateRow w) := by
  have hfields : p.fields.map Field.unveiled = p'.fields.map Field.unveiled :=
    congrArg Plan.fields hplan
  have hlength : p.fields.length = p'.fields.length := by
    simpa using congrArg List.length hfields
  have hstart : SameSoFar p p' p.fields p'.fields ⟨.empty p.layout, []⟩ ⟨.empty p'.layout, []⟩ :=
    ⟨.empty p, .empty p', hfields, rfl, rfl⟩
  refine (endsAlike_fill (fun h => h.step hbuild hplan) hlength hstart w).imp ?_
  intro a b h
  refine ⟨?_, h.errors_eq⟩
  rw [Row.entries_eq_zip, Row.entries_eq_zip, h.names_eq hplan, h.values_eq]

end

/-- Schemas that differ only in their ghosts are refused for the same fault, or they have plans with
the same columns and the same columns dropped, whose rows have the same values and errors if they are
made of the same words, counters and clock. And rows of a layout that differ in ghosts only are
written as the same bytes, as separated records and as JSON lines, however they are cut into batches.
-/
theorem ghosts_hide :
    (∀ (s s' : Schema) (assets : AssetSource), s.unveiled = s'.unveiled →
      (∀ fault, build s assets = .error fault → build s' assets = .error fault) ∧
      ∀ p, build s assets = .ok p → ∃ p', build s' assets = .ok p' ∧
        p'.fields.map (·.name) = p.fields.map (·.name) ∧ p'.dropped = p.dropped ∧
        ∀ (σ : Type) [RandomSource σ] (w : World σ),
          EndsAlike RowResult.SameCells (p.generateRow w) (p'.generateRow w)) ∧
    ∀ (layout : Layout) (batches batches' : List (List Row)),
      List.Forall₂ (Row.AgreeVisibly layout) batches.flatten batches'.flatten →
      (∀ s : CsvRows, Sink.deliver layout batches s = Sink.deliver layout batches' s) ∧
      ∀ s : JsonLines, Sink.deliver layout batches s = Sink.deliver layout batches' s := by
  constructor
  · intro s s' assets hsame
    constructor
    · intro fault hfault
      have hboth := map_build_of_unveiled_eq hsame assets
      rw [hfault] at hboth
      cases hbuild' : build s' assets <;> rw [hbuild'] at hboth <;> cases hboth
      rfl
    · intro p hbuild
      obtain ⟨p', hbuild', hplan⟩ := exists_build_of_unveiled_eq hsame hbuild
      have hdropped : p.dropped = p'.dropped := (congrArg Plan.dropped hplan :)
      exact ⟨p', hbuild', (names_of_unveiled_eq hplan).symm, hdropped.symm, fun σ _ w =>
        endsAlike_generateRow hbuild hplan w⟩
  · intro layout batches batches' hagree
    have hvisible := hagree.imp fun _ _ h => h.visible_eq
    exact ⟨Sink.deliver_congr CsvRows.seesVisible hvisible layout,
      Sink.deliver_congr JsonLines.seesVisible hvisible layout⟩

/-- A hidden number and a text that reads it. -/
def hiddenNumber : Schema :=
  ⟨Schema.defaultVersion, none,
    [{ Column.plain "a" .integer with
        ghost := true, min? := some (.integer 2), max? := some (.integer 2) },
      { Column.plain "b" .string with derivation? := some (.injection "no. ${a}") }]⟩

/-- A row with a hidden number and a text. -/
def hiddenRow (n : Int64) : Row := .ofValues [⟨"a", true⟩, ⟨"b", false⟩] [.int n, .text "no. 2"]

theorem agreeVisibly_hiddenRow (m n : Int64) :
    Row.AgreeVisibly [⟨"a", true⟩, ⟨"b", false⟩] (hiddenRow m) (hiddenRow n) := by
  refine ⟨⟨rfl, rfl⟩, ⟨rfl, rfl⟩, ?_⟩
  intro i c hi hghost
  match i with
  | 0 =>
    cases hi
    cases hghost
  | _ + 1 => rfl

theorem ghosts_hide_hiddenNumber :
    (∃ p p' result result' w, build hiddenNumber noFiles = .ok p ∧
      build hiddenNumber.unveiled noFiles = .ok p' ∧
      p.generateRow sevens = (.ok result, w) ∧ p'.generateRow sevens = (.ok result', w) ∧
      result.row.visible = [("b", .text "no. 2")] ∧
      result'.row.visible = [("a", .int 2), ("b", .text "no. 2")] ∧
      result.row.entries = result'.row.entries) ∧
    ∀ s : CsvRows, Sink.deliver [⟨"a", true⟩, ⟨"b", false⟩] [[hiddenRow 2], [hiddenRow 3]] s =
      Sink.deliver [⟨"a", true⟩, ⟨"b", false⟩] [[hiddenRow 4, hiddenRow 5]] s := by
  have hrow : (build hiddenNumber noFiles).toOption.bind (fun p =>
      (p.generateRow sevens).1.toOption.map (·.row.visible)) = some [("b", .text "no. 2")] := by
    decide +kernel
  have hrow' : (build hiddenNumber.unveiled noFiles).toOption.bind (fun p =>
      (p.generateRow sevens).1.toOption.map (·.row.visible)) =
      some [("a", .int 2), ("b", .text "no. 2")] := by
    decide +kernel
  obtain ⟨hschemas, hrows⟩ := ghosts_hide
  refine ⟨?_, (hrows _ [[hiddenRow 2], [hiddenRow 3]] [[hiddenRow 4, hiddenRow 5]]
    (.cons (agreeVisibly_hiddenRow 2 4) (.cons (agreeVisibly_hiddenRow 3 5) .nil))).1⟩
  obtain ⟨p, result, w, hbuild, hgenerate, hvisible⟩ := exists_row_of_eval hrow
  obtain ⟨p', result', w', hbuild', hgenerate', hvisible'⟩ := exists_row_of_eval hrow'
  obtain ⟨q, hq, -, -, hends⟩ := (hschemas hiddenNumber hiddenNumber.unveiled noFiles rfl).2 p hbuild
  obtain rfl := Except.ok.inj (hbuild'.symm.trans hq)
  have hsame := hends Random.WordCycle sevens
  rw [hgenerate, hgenerate'] at hsame
  cases hsame with
  | gives hcells =>
    exact ⟨p, p', result, result', w, hbuild, hbuild', hgenerate, hgenerate', hvisible, hvisible',
      hcells.entries_eq⟩

end Plan

end SynthTable
