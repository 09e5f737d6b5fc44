import SynthTable.Proofs.Schema.Variants
import SynthTable.Proofs.Table.Joining
import SynthTable.Proofs.Table.SideBySide

/-!
# Columns after all others

Columns that are appended to a schema come last in its check, in the making of its plan and in its
rows. If no column before reads them, nothing changes for these: they become the same fields or are
dropped for the same reasons (`exists_build_append`), and a row is the row without the new columns,
continued (`Continues`). External columns continue the rows of a plan in the same way. The main result
is `appended_continue`.
-/

namespace SynthTable

/-! ## Wider rows -/

/-- An external column is computed from the cells filled so far, whatever columns come later. -/
def ExternalSource.ReadsCells (source : ExternalSource) : Prop :=
  ∀ row row', row.layout.names.Nodup → row'.layout.names.Nodup → row.cells = row'.cells →
    source.compute row = source.compute row'

theorem Layout.position?_append_of_mem (before : Layout) {after : Layout} {name : String}
    (h : name ∈ after.names) : ∃ i, position? (before ++ after) name = some (before.length + i) := by
  induction before with
  | nil =>
    rcases hposition : after.position? name with _ | i
    · exact absurd h (position?_eq_none_iff.1 hposition)
    · exact ⟨i, by rw [List.nil_append, hposition, List.length_nil, Nat.zero_add]⟩
  | cons c rest ih =>
    obtain ⟨i, hi⟩ := ih
    exact ⟨i, by rw [List.cons_append, position?, hi, List.length_cons, Nat.add_right_comm]⟩

namespace Row

variable {row : Row} {more : Layout}

/-- A row with columns more to fill after its own. -/
def widen (row : Row) (more : Layout) : Row :=
  ⟨row.layout ++ more, row.values, by rw [List.length_append]; exact Nat.le_add_right_of_le row.fits⟩

theorem zip_append_of_le {layout : Layout} {values : List Value}
    (h : values.length ≤ layout.length) (more : Layout) :
    (layout ++ more).zip values = layout.zip values := by
  induction layout generalizing values with
  | nil =>
    obtain rfl := List.length_eq_zero_iff.1 (Nat.le_zero.1 h)
    rw [List.zip_nil_right, List.zip_nil_right]
  | cons c rest ih =>
    cases values with
    | nil => rfl
    | cons v vs => rw [List.cons_append, List.zip_cons_cons, List.zip_cons_cons,
        ih (Nat.le_of_succ_le_succ h)]

theorem cells_widen (row : Row) (more : Layout) : (row.widen more).cells = row.cells :=
  zip_append_of_le row.fits more

theorem nodup_of_widen (h : (row.widen more).layout.names.Nodup) :
    row.layout.names.Nodup ∧ ∀ n ∈ more.names, n ∉ row.layout.names := by
  have hnames : (row.widen more).layout.names = row.layout.names ++ more.names := List.map_append
  rw [hnames, List.nodup_append] at h
  exact ⟨h.1, fun n hn hrow => h.2.2 n hrow n hn rfl⟩

theorem widen_push (h : row.values.length < row.layout.length) (more : Layout) (v : Value) :
    (row.push v).widen more = (row.widen more).push v := by
  have hroom : (row.widen more).values.length < (row.widen more).layout.length := by
    show row.values.length < (row.layout ++ more).length
    rw [List.length_append]
    omega
  rw [push, push, dif_pos h, dif_pos hroom]
  rfl

theorem zip_prefix {values values' : List Value} (h : values <+: values') (layout : Layout) :
    layout.zip values <+: layout.zip values' := by
  induction layout generalizing values values' with
  | nil => exact List.prefix_refl _
  | cons c rest ih =>
    cases values with
    | nil => exact List.nil_prefix
    | cons v vs =>
      cases values' with
      | nil => cases List.prefix_nil.1 h
      | cons v' vs' =>
        obtain ⟨rfl, hrest⟩ := List.cons_prefix_cons.1 h
        exact List.cons_prefix_cons.2 ⟨rfl, ih hrest⟩

/-- A look-up does not see that there are columns more to fill. -/
theorem get?_widen (hdisjoint : ∀ n ∈ more.names, n ∉ row.layout.names) (n : String) :
    (row.widen more).get? n = row.get? n := by
  show ((row.layout ++ more).position? n).bind _ = (row.layout.position? n).bind _
  by_cases hn : n ∈ more.names
  · -- the place of a new column is after all values
    obtain ⟨i, hi⟩ := Layout.position?_append_of_mem row.layout hn
    have hlong : row.values.length ≤ row.layout.length + i := by
      have hfits := row.fits
      omega
    rw [hi, Layout.position?_eq_none_iff.2 (hdisjoint n hn)]
    exact List.getElem?_eq_none hlong
  · rw [Layout.position?_append_of_not_mem hn]
    rfl

theorem find?_zip {layout : Layout} (hnodup : layout.names.Nodup) (values : List Value)
    (name : String) :
    ((layout.zip values).find? (·.1.name = name)).map (·.2) =
      (layout.position? name).bind (values[·]?) := by
  induction layout generalizing values with
  | nil => rfl
  | cons c rest ih =>
    obtain ⟨hnew, hrest⟩ := List.nodup_cons.1 hnodup
    cases values with
    | nil =>
      rw [List.zip_nil_right]
      cases Layout.position? (c :: rest) name <;> rfl
    | cons v vs =>
      have hmissing : c.name = name → Layout.position? rest name = none := fun hname =>
        Layout.position?_eq_none_iff.2 (hname ▸ hnew)
      rw [List.zip_cons_cons, List.find?_cons, Layout.position?]
      by_cases hname : c.name = name
      · simp [hname, hmissing hname]
      · rw [decide_eq_false hname, if_neg hname]
        dsimp only
        rw [ih hrest]
        cases Layout.position? rest name <;> rfl

/-- A row whose columns have distinct names shows its cells. -/
theorem get?_eq_find? {row : Row} (hnodup : row.layout.names.Nodup) (name : String) :
    row.get? name = (row.cells.find? (·.1.name = name)).map (·.2) :=
  (Row.find?_zip hnodup row.values name).symm

end Row

/-- An external column that is computed from the values of names is computed from the cells. -/
theorem ExternalSource.readsCells_of_get? {source : ExternalSource}
    (h : ∀ row row', (∀ n, row.get? n = row'.get? n) → source.compute row = source.compute row') :
    source.ReadsCells := by
  intro row row' hnodup hnodup' hcells
  refine h row row' fun n => ?_
  rw [Row.get?_eq_find? hnodup, Row.get?_eq_find? hnodup', hcells]

/-- A row with its errors is the beginning of another one, which has no other errors in the columns of
the first. -/
structure RowResult.Begins (a b : RowResult) : Prop where
  cells : a.row.cells <+: b.row.cells
  errors : ∃ later, b.errors = a.errors ++ later ∧
    ∀ failure ∈ later, failure.1 ∉ a.row.layout.names

/-! ## Rows that go on -/

/-- A field of a column, or one from outside that is computed from the cells filled so far. -/
def Field.IsStable (f : Field) : Prop :=
  ∀ source, f.content = .external source → source.ReadsCells

theorem Field.IsDeclared.isStable {f : Field} (h : f.IsDeclared) : f.IsStable := by
  obtain ⟨kind, domain, computation?, hdeclared⟩ := h
  intro source hexternal
  rw [hdeclared] at hexternal
  cases hexternal

theorem Field.valueFor_widen {σ : Type} [RandomSource σ] {f : Field} (hf : f.IsStable) {row : Row}
    {more : Layout} (hnodup : (row.widen more).layout.names.Nodup) (w : World σ) :
    f.valueFor row w = f.valueFor (row.widen more) w := by
  obtain ⟨hrow, hdisjoint⟩ := Row.nodup_of_widen hnodup
  cases hcontent : f.content with
  | declared kind domain computation? =>
    exact valueFor_congr rfl rfl ⟨kind, domain, computation?, hcontent⟩
      (fun n _ => (Row.get?_widen hdisjoint n).symm) w
  | external source =>
    have hcompute : f.compute row = f.compute (row.widen more) := by
      rw [compute, compute, hcontent]
      dsimp only
      rw [hf source hcontent row _ hrow hnodup (row.cells_widen more).symm]
    rw [valueFor, valueFor, hcompute]

namespace Plan

section

variable {σ : Type} [RandomSource σ]

/-- A row of more columns crashes where the row of the first columns does, or it goes on with the
other fields after the same cells and errors, from what that row leaves behind. If it is completed,
that row is its beginning. -/
inductive GoesOn (more : List Field) :
    Except Crash RowResult × World σ → Except Crash RowResult × World σ → Prop
  | crashes {crash w} : GoesOn more (.error crash, w) (.error crash, w)
  | fills {a start w} (hcells : start.row.cells = a.row.cells) (herrors : start.errors = a.errors)
    (hbegins : ∀ b w', fill more start w = (.ok b, w') → a.Begins b) :
    GoesOn more (.ok a, w) (fill more start w)

theorem GoesOn.begins {more : List Field} {a b : RowResult} {w w' : World σ}
    (h : GoesOn more (.ok a, w) (.ok b, w')) : a.Begins b := by
  generalize hend : (Except.ok b, w') = wide at h
  cases h with
  | fills _ _ hbegins => exact hbegins b w' hend.symm

theorem exists_errors_of_fill {fields : List Field} {start result : RowResult} {w w' : World σ}
    (h : fill fields start w = (.ok result, w')) :
    ∃ later, result.errors = start.errors ++ later ∧
      ∀ failure ∈ later, failure.1 ∈ fields.map (·.name) := by
  induction fields generalizing start w with
  | nil =>
    cases h
    exact ⟨[], (List.append_nil _).symm, fun _ hmem => absurd hmem List.not_mem_nil⟩
  | cons f rest ih =>
    obtain ⟨outcome, v, -, hrest⟩ := fill_cons_eq_ok_iff.1 h
    obtain ⟨later, herrors, hlater⟩ := ih hrest
    cases outcome with
    | ok value =>
      exact ⟨later, herrors, fun failure hmem => List.mem_cons_of_mem _ (hlater failure hmem)⟩
    | error e =>
      refine ⟨(f.name, e) :: later, ?_, ?_⟩
      · rw [herrors, put, List.append_assoc, List.singleton_append]
      · intro failure hmem
        rcases List.mem_cons.1 hmem with rfl | hmem
        · exact List.mem_cons_self
        · exact List.mem_cons_of_mem _ (hlater failure hmem)

/-- The same fields are left of a row and of a wider one, and these have the same values and errors
so far. -/
structure WidensSoFar (p : Plan) (more : Layout) (fields fields' : List Field) (a b : RowResult) :
    Prop where
  left : p.Left fields a.row
  fields_eq : fields = fields'
  row_eq : b.row = a.row.widen more
  errors_eq : b.errors = a.errors

theorem WidensSoFar.step {p : Plan} {more : Layout} {f f' : Field} {rest rest' : List Field}
    {a b : RowResult} (hnodup : (Layout.names (p.layout ++ more)).Nodup)
    (hstable : ∀ f ∈ p.fields, f.IsStable)
    (h : WidensSoFar p more (f :: rest) (f' :: rest') a b) (w : World σ) :
    EndsAlike (fun outcome outcome' =>
      WidensSoFar p more rest rest' (put a f.name outcome) (put b f'.name outcome'))
      (f.valueFor a.row w) (f'.valueFor b.row w) := by
  obtain ⟨rfl, rfl⟩ := List.cons.inj h.fields_eq
  rw [← h.left.layout_eq] at hnodup
  have hvalue := Field.valueFor_widen (hstable f h.left.mem_fields) hnodup w
  rw [← h.row_eq] at hvalue
  refine EndsAlike.of_eq hvalue fun outcome => ?_
  refine ⟨h.left.put outcome, rfl, ?_, ?_⟩
  · rw [row_put, row_put, h.row_eq, Row.widen_push h.left.room]
  · cases outcome with
    | ok v => exact h.errors_eq
    | error e => rw [put, put, h.errors_eq]

end

/-- A plan has the fields of another one and then some more, under other names, and its rows go on
where those of the other one end. -/
structure Continues (p q : Plan) (more : List Field) : Prop where
  fields_eq : q.fields = p.fields ++ more
  nodup : q.layout.names.Nodup
  rows : ∀ (σ : Type) [RandomSource σ] (w : World σ),
    GoesOn more (p.generateRow w) (q.generateRow w)

/-- The columns of a row that goes on to fill more fields begin it. -/
theorem begins_of_fill {σ : Type} [RandomSource σ] {more : List Field} {a b start : RowResult}
    {w w' : World σ} (hdisjoint : ∀ n ∈ more.map (·.name), n ∉ a.row.layout.names)
    (hcells : start.row.cells = a.row.cells) (herrors : start.errors = a.errors)
    (h : fill more start w = (.ok b, w')) : a.Begins b := by
  have hextends := extends_of_fill h
  obtain ⟨later, hall, hlater⟩ := exists_errors_of_fill h
  refine ⟨?_, later, ?_, fun failure hmem => hdisjoint _ (hlater failure hmem)⟩
  · rw [← hcells, Row.cells, Row.cells, hextends.layout_eq]
    exact Row.zip_prefix hextends.values_prefix _
  · rw [hall, herrors]

/-- Rows that are the same but for columns more to fill go on where they end. -/
theorem goesOn_fill {σ : Type} [RandomSource σ] {p : Plan} {fields more : List Field}
    {start start' : RowResult} {w : World σ}
    (hdisjoint : ∀ n ∈ more.map (·.name), n ∉ p.layout.names)
    (hends : EndsAlike (WidensSoFar p (layoutOf more) [] []) (fill fields start w)
      (fill fields start' w)) :
    GoesOn more (fill fields start w) (fill (fields ++ more) start' w) := by
  rw [fill_append]
  rcases hrow : fill fields start w with ⟨crash | a, v⟩ <;>
    rcases hwide : fill fields start' w with ⟨crash' | b, v'⟩ <;>
    rw [hrow, hwide] at hends <;> cases hends
  · exact .crashes
  · next hwidens =>
    have hcells : b.row.cells = a.row.cells := by rw [hwidens.row_eq, Row.cells_widen]
    refine .fills hcells hwidens.errors_eq fun c w' => begins_of_fill ?_ hcells hwidens.errors_eq
    rwa [hwidens.left.layout_eq]

theorem continues_of_stable {p q : Plan} {more : List Field} (hfields : q.fields = p.fields ++ more)
    (hnodup : (q.fields.map (·.name)).Nodup) (hstable : ∀ f ∈ p.fields, f.IsStable) :
    Continues p q more := by
  rw [← names_layout] at hnodup
  refine ⟨hfields, hnodup, fun σ _ w => ?_⟩
  have hlayout : q.layout = p.layout ++ layoutOf more := by
    rw [layout, layout, hfields, layoutOf, List.map_append]
    rfl
  rw [hlayout] at hnodup
  have hdisjoint : ∀ n ∈ (layoutOf more).names, n ∉ p.layout.names :=
    (@Row.nodup_of_widen (.empty p.layout) _ hnodup).2
  have hnames : (layoutOf more).names = more.map (·.name) := List.map_map
  rw [hnames] at hdisjoint
  have hstart : WidensSoFar p (layoutOf more) p.fields p.fields ⟨.empty p.layout, []⟩
      ⟨.empty q.layout, []⟩ := by
    refine ⟨.empty p, rfl, ?_, rfl⟩
    rw [hlayout]
    rfl
  rw [generateRow, generateRow, hfields]
  exact goesOn_fill hdisjoint (endsAlike_fill (fun h => h.step hnodup hstable) rfl hstart w)

/-! ## Plans of longer schemas -/

section

variable {check check' : CheckReport} {assets : AssetSource}

/-- What becomes of a column depends on the finding about it and on what is there before. -/
theorem outcomeOf_congr {c : Column} (hfinding : findingFor? check c.name = findingFor? check' c.name)
    {g g' : Progress} (hfields : g.fields = g'.fields) (hdropped : g.dropped = g'.dropped) :
    outcomeOf check assets g c = outcomeOf check' assets g' c := by
  rw [outcomeOf, outcomeOf, hfinding, hfields, hdropped]

/-- What becomes of some columns depends on the findings about them. -/
theorem foldl_advance_congr {columns : List Column}
    (hfinding : ∀ c ∈ columns, findingFor? check c.name = findingFor? check' c.name)
    {g g' : Progress} (hfields : g.fields = g'.fields) (hdropped : g.dropped = g'.dropped) :
    (columns.foldl (advance check assets) g).fields =
        (columns.foldl (advance check' assets) g').fields ∧
      (columns.foldl (advance check assets) g).dropped =
        (columns.foldl (advance check' assets) g').dropped := by
  induction columns generalizing g g' with
  | nil => exact ⟨hfields, hdropped⟩
  | cons c rest ih =>
    have houtcome : outcomeOf check assets g c = outcomeOf check' assets g' c :=
      outcomeOf_congr (hfinding c List.mem_cons_self) hfields hdropped
    rw [List.foldl_cons, List.foldl_cons]
    refine ih (fun d hd => hfinding d (List.mem_cons_of_mem _ hd)) ?_ ?_
    · rw [advance, advance, houtcome]
      cases outcomeOf check' assets g' c <;> simp [hfields]
    · rw [advance, advance, houtcome]
      cases outcomeOf check' assets g' c <;> simp [hdropped]

theorem progressAfter_congr (assets : AssetSource) {columns : List Column}
    (hfinding : ∀ c ∈ columns, findingFor? check c.name = findingFor? check' c.name) :
    (progressAfter check assets columns).fields = (progressAfter check' assets columns).fields ∧
      (progressAfter check assets columns).dropped =
        (progressAfter check' assets columns).dropped :=
  foldl_advance_congr hfinding rfl rfl

/-- Later columns add dropped columns after those that are there. -/
theorem dropped_foldl (check : CheckReport) (assets : AssetSource) (g : Progress)
    (columns : List Column) :
    ∃ more, (columns.foldl (advance check assets) g).dropped = g.dropped ++ more ∧
      ∀ d ∈ more, d.column ∈ columns.map (·.name) := by
  induction columns generalizing g with
  | nil => exact ⟨[], (List.append_nil _).symm, fun _ hd => absurd hd List.not_mem_nil⟩
  | cons c rest ih =>
    obtain ⟨more, hdropped, hmore⟩ := ih (advance check assets g c)
    have hrest : ∀ d ∈ more, d.column ∈ (c :: rest).map (·.name) := fun d hd =>
      List.mem_cons_of_mem _ (hmore d hd)
    rw [List.foldl_cons, hdropped]
    cases hout : outcomeOf check assets g c with
    | ok f => exact ⟨more, by rw [(advance_of_ok hout).2], hrest⟩
    | error reason =>
      refine ⟨⟨c.name, reason⟩ :: more, ?_, ?_⟩
      · rw [advance_of_error hout, List.append_assoc, List.singleton_append]
      · intro d hd
        rcases List.mem_cons.1 hd with rfl | hd
        · exact List.mem_cons_self
        · exact hrest d hd

end

section

variable {s s' : Schema} {assets : AssetSource} {p : Plan} {added : List Column}

/-- Columns after all others that none of these reads become fields or are dropped after the others,
and these end in a crash where they did before. -/
theorem exists_isDraft_append (h : IsDraft s assets p) (hcolumns : s'.columns = s.columns ++ added)
    (hblank : ∀ c ∈ added, Text.isAllBlank c.name = false)
    (hnodup : (s'.columns.map (·.name)).Nodup)
    (hunread : ∀ c ∈ s.columns, ∀ n ∈ c.references, n ∉ added.map (·.name)) :
    ∃ q more fallen, IsDraft s' assets q ∧ q.fields = p.fields ++ more ∧
      q.dropped = p.dropped ++ fallen ∧ (∀ f ∈ more, f.name ∈ added.map (·.name)) ∧
      (∀ d ∈ fallen, d.column ∈ added.map (·.name)) ∧
      ∀ before c after, s.columns = before ++ c :: after →
        crashAt? q.check assets (progressAfter q.check assets before) c =
          crashAt? p.check assets (progressAfter p.check assets before) c := by
  have hnames := Schema.nameFault?_eq_none_iff.1 h.nameFault?_eq_none
  have hnames' : s'.nameFault? = none := by
    refine Schema.nameFault?_eq_none_iff.2 ⟨fun c hc => ?_, hnodup⟩
    rw [hcolumns] at hc
    exact (List.mem_append.1 hc).elim (hnames.1 c) (hblank c)
  obtain ⟨q, hq⟩ := exists_isDraft assets hnames'
  obtain ⟨issues, hissues, hadded⟩ := Schema.issues_append hcolumns hunread
  rw [hcolumns, List.map_append, List.nodup_append] at hnodup
  have hfinding : ∀ c ∈ s.columns, findingFor? q.check c.name = findingFor? p.check c.name := by
    intro c hc
    -- the issues that come to it are about the new columns
    have hnone : (issues.filter (·.finding.isError)).find? (·.column = c.name) = none := by
      refine List.find?_eq_none.2 fun issue hissue => ?_
      have hname := hadded issue (List.mem_filter.1 hissue).1
      have hne := hnodup.2.2 c.name (List.mem_map_of_mem hc) issue.column hname
      simpa using hne.symm
    rw [findingFor?, findingFor?, hq.errors_eq, h.errors_eq, hissues, List.filter_append,
      List.find?_append, hnone, Option.or_none]
  obtain ⟨hfields, hdropped⟩ := progressAfter_congr assets hfinding
  obtain ⟨more, hmore, hbuilt⟩ :=
    fields_foldl q.check assets (progressAfter q.check assets s.columns) added
  obtain ⟨fallen, hfallen, hnamed⟩ :=
    dropped_foldl q.check assets (progressAfter q.check assets s.columns) added
  rw [← progressAfter_append, ← hcolumns] at hmore hfallen
  refine ⟨q, more, fallen, hq, ?_, ?_, fun f hf => ?_, hnamed, fun before c after hsplit => ?_⟩
  · rw [hq.fields_eq, h.fields_eq, hmore, hfields]
  · rw [hq.dropped_eq, h.dropped_eq, hfallen, hdropped]
  · obtain ⟨c, hc, hbuild⟩ := hbuilt f hf
    rw [Field.name_of_build hbuild]
    exact List.mem_map_of_mem hc
  · have hmem : ∀ d ∈ before ++ [c], d ∈ s.columns := fun d hd => by
      rw [hsplit, List.append_cons]
      exact List.mem_append_left _ hd
    obtain ⟨hfields, hdropped⟩ := progressAfter_congr assets fun d hd =>
      hfinding d (hmem d (List.mem_append_left _ hd))
    rw [crashAt?, crashAt?, outcomeOf_congr (hfinding c (hmem c (by simp))) hfields hdropped]

/-- A plan of more columns has the fields and dropped columns of the plan without them and then some
more, or one of these columns ends in a crash. -/
theorem exists_build_append (h : build s assets = .ok p) (hcolumns : s'.columns = s.columns ++ added)
    (hblank : ∀ c ∈ added, Text.isAllBlank c.name = false)
    (hnodup : (s'.columns.map (·.name)).Nodup)
    (hunread : ∀ c ∈ s.columns, ∀ n ∈ c.references, n ∉ added.map (·.name)) :
    (∃ q more fallen, build s' assets = .ok q ∧ q.fields = p.fields ++ more ∧
      q.dropped = p.dropped ++ fallen ∧ (∀ f ∈ more, f.name ∈ added.map (·.name)) ∧
      ∀ d ∈ fallen, d.column ∈ added.map (·.name)) ∨
    build s' assets = .error (.crash ⟨some "capacity overflow"⟩) ∧
      ∃ c ∈ added, HasTurn s' assets c ∧ c.Overflows := by
  have hp := isDraft_of_build h
  obtain ⟨q, more, fallen, hq, hfields, hdropped, hmore, hfallen, hcrashes⟩ :=
    exists_isDraft_append hp hcolumns hblank hnodup hunread
  rcases hq.build_overflow_cases with ⟨hbuild, -⟩ | ⟨hbuild, c, hc, hcrash⟩
  · exact .inl ⟨q, more, fallen, hbuild, hfields, hdropped, hmore, hfallen⟩
  · refine .inr ⟨hbuild, c, ?_, hcrash⟩
    rw [hcolumns] at hc
    refine (List.mem_append.1 hc).resolve_left fun hold => ?_
    -- a column of before would have ended in a crash without the new columns, too
    obtain ⟨before, after, hsplit⟩ := List.append_of_mem hold
    have hsplit' : s'.columns = before ++ c :: (after ++ added) := by
      rw [hcolumns, hsplit, List.append_assoc, List.cons_append]
    have hcrash := (hq.crashAt?_eq_some_iff hsplit').2 ⟨hcrash, rfl⟩
    rw [hcrashes before c after hsplit, hp.crashAt?_eq_none h hsplit] at hcrash
    cases hcrash

/-- Columns that are appended to a schema, under names that its columns do not read, become fields or
are dropped after all others, and each row goes on where it ends without them, unless the turn comes
of one that overflows and breaks the making of the plan off. Rows go on in the same way when external
columns join, one by one and whatever these do, and the names stay distinct; the texts of external
columns that joined before stay the same, too, if these are computed from the cells filled so far. -/
theorem appended_continue (h : build s assets = .ok p) :
    (∀ (s' : Schema) (added : List Column), s'.columns = s.columns ++ added →
      (∀ c ∈ added, Text.isAllBlank c.name = false) → (s'.columns.map (·.name)).Nodup →
      (∀ c ∈ s.columns, ∀ n ∈ c.references, n ∉ added.map (·.name)) →
      (∃ q more fallen, build s' assets = .ok q ∧ Continues p q more ∧
        q.dropped = p.dropped ++ fallen ∧ (∀ f ∈ more, f.name ∈ added.map (·.name)) ∧
        ∀ d ∈ fallen, d.column ∈ added.map (·.name)) ∨
      build s' assets = .error (.crash ⟨some "capacity overflow"⟩) ∧
        ∃ c ∈ added, HasTurn s' assets c ∧ c.Overflows) ∧
    ∀ q, Relation.ReflTransGen Joins p q →
      (∃ more, Continues p q more ∧ q.dropped = p.dropped) ∧
      ∀ r, Relation.ReflTransGen Joins q r → ∃ more, r.fields = q.fields ++ more ∧
        r.layout.names.Nodup ∧ r.dropped = q.dropped ∧
        ((∀ f ∈ q.fields, f.IsStable) → Continues q r more) := by
  have hnodup := nodup_fields h
  have hstable : ∀ f ∈ p.fields, f.IsStable := fun f hf => (isDeclared_of_mem h hf).isStable
  constructor
  · intro s' added hcolumns hblank hnames hunread
    refine (exists_build_append h hcolumns hblank hnames hunread).imp_left ?_
    rintro ⟨q, more, fallen, hbuild, hfields, hrest⟩
    exact ⟨q, more, fallen, hbuild, continues_of_stable hfields (nodup_fields hbuild) hstable,
      hrest⟩
  · intro q hq
    obtain ⟨joined, hjoined⟩ := exists_joined hq
    refine ⟨⟨joined, continues_of_stable hjoined.fields_eq (hjoined.nodup hnodup) hstable,
      hjoined.dropped_eq⟩, fun r hr => ?_⟩
    obtain ⟨more, hmore⟩ := exists_joined hr
    have hnames := hmore.nodup (hjoined.nodup hnodup)
    refine ⟨more, hmore.fields_eq, ?_, hmore.dropped_eq,
      continues_of_stable hmore.fields_eq hnames⟩
    rwa [names_layout]

/-- A number and a text that reads it. -/
def numberText : Schema :=
  ⟨Schema.defaultVersion, none,
    [{ Column.plain "a" .integer with min? := some (.integer 2), max? := some (.integer 2) },
      { Column.plain "b" .string with derivation? := some (.injection "no. ${a}") }]⟩

/-- A text that reads the text before, and bounds that cross. -/
def textCopies : List Column :=
  [{ Column.plain "c" .string with derivation? := some (.injection "${b}!") },
    { Column.plain "d" .integer with min? := some (.integer 9), max? := some (.integer 1) }]

/-- The text of a column. -/
def textOf (name : String) : ExternalSource :=
  ⟨"text", fun row => .ok (.ok (((row.get? name).map Value.toText).getD ""))⟩

theorem readsCells_textOf (name : String) : (textOf name).ReadsCells :=
  ExternalSource.readsCells_of_get? fun row row' h => by rw [textOf]; dsimp only; rw [h]

theorem appended_continue_numberText :
    (∃ p q result result' w w', build numberText noFiles = .ok p ∧
      build { numberText with columns := numberText.columns ++ textCopies } noFiles = .ok q ∧
      p.generateRow sevens = (.ok result, w) ∧ q.generateRow sevens = (.ok result', w') ∧
      result.row.entries = [("a", .int 2), ("b", .text "no. 2")] ∧
      result'.row.entries = [("a", .int 2), ("b", .text "no. 2"), ("c", .text "no. 2!")] ∧
      result.Begins result' ∧ q.dropped.map (·.column) = ["d"]) ∧
    ∃ p q r more more', build numberText noFiles = .ok p ∧
      p.withExternal "e" (textOf "b") = .ok q ∧ q.withExternal "f" (textOf "e") = .ok r ∧
      Continues p q more ∧ Continues q r more' := by
  have hrow : (build numberText noFiles).toOption.bind (fun p =>
      (p.generateRow sevens).1.toOption.map fun result =>
        (p.fields.map (·.name), result.row.entries)) =
      some (["a", "b"], [("a", .int 2), ("b", .text "no. 2")]) := by
    decide +kernel
  have hrow' : (build { numberText with columns := numberText.columns ++ textCopies }
      noFiles).toOption.bind (fun q => (q.generateRow sevens).1.toOption.map fun result =>
        (q.dropped.map (·.column), result.row.entries)) =
      some (["d"], [("a", .int 2), ("b", .text "no. 2"), ("c", .text "no. 2!")]) := by
    decide +kernel
  obtain ⟨p, result, w, hbuild, hgenerate, hshown⟩ := exists_row_of_eval hrow
  obtain ⟨hnames, hentries⟩ := Prod.mk.inj hshown
  obtain ⟨happends, hjoins⟩ := appended_continue hbuild
  constructor
  · obtain ⟨q, result', w', hbuild', hgenerate', hshown'⟩ := exists_row_of_eval hrow'
    obtain ⟨hdropped, hentries'⟩ := Prod.mk.inj hshown'
    obtain ⟨q', more, fallen, hq', hcontinues, -⟩ :=
      (happends { numberText with columns := numberText.columns ++ textCopies } textCopies rfl
        (by decide) (by decide) (by decide +kernel)).resolve_right fun hcrash => by
          rw [hbuild'] at hcrash
          cases hcrash.1
    obtain rfl := Except.ok.inj (hbuild'.symm.trans hq')
    have hgoes := hcontinues.rows Random.WordCycle sevens
    rw [hgenerate, hgenerate'] at hgoes
    exact ⟨p, q, result, result', w, w', hbuild, hbuild', hgenerate, hgenerate', hentries,
      hentries', hgoes.begins, hdropped⟩
  · let q : Plan := { p with fields := p.fields ++ [.external "e" (textOf "b")] }
    let r : Plan := { q with fields := q.fields ++ [.external "f" (textOf "e")] }
    have hnames' : q.fields.map (·.name) = ["a", "b", "e"] := by
      rw [List.map_append, hnames]
      rfl
    have hjoin : p.withExternal "e" (textOf "b") = .ok q :=
      withExternal_eq_ok_iff.2 ⟨by decide, by rw [hnames]; decide, rfl⟩
    have hjoin' : q.withExternal "f" (textOf "e") = .ok r :=
      withExternal_eq_ok_iff.2 ⟨by decide, by rw [hnames']; decide, rfl⟩
    have hstable : ∀ f ∈ q.fields, f.IsStable := by
      intro f hf
      rcases List.mem_append.1 hf with hf | hf
      · exact (isDeclared_of_mem hbuild hf).isStable
      · obtain rfl := List.mem_singleton.1 hf
        rintro source ⟨⟩
        exact readsCells_textOf "b"
    obtain ⟨⟨more, hcontinues, -⟩, hlater⟩ := hjoins q (.single ⟨_, _, hjoin⟩)
    obtain ⟨more', -, -, -, hcontinues'⟩ := hlater r (.single ⟨_, _, hjoin'⟩)
    exact ⟨p, q, r, more, more', hbuild, hjoin, hjoin', hcontinues, hcontinues' hstable⟩

end

end Plan

end SynthTable
