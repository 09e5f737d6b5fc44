import SynthTable.Table.Generate

/-!
# How a row is filled

Filling a row adds a cell at a time and never goes back: the row after some fields is the beginning
of every later one (`fill_append_eq_ok_iff`, `Extends`). So a row that is complete still shows what
each field saw in its moment (`moment_of_generateRow`), and each error comes from such a moment
(`moment_of_error`).
-/

namespace SynthTable

/-! ## Looking up -/

theorem Layout.position?_eq_none_iff {layout : Layout} {name : String} :
    layout.position? name = none ↔ name ∉ layout.names := by
  induction layout with
  | nil => simp [position?, names]
  | cons c rest ih =>
    rw [position?, names, List.map_cons, List.mem_cons, not_or]
    cases hrest : position? rest name with
    | some i =>
      have hmem : name ∈ Layout.names rest := by
        by_cases h : name ∈ Layout.names rest
        · exact h
        · rw [ih.2 h] at hrest
          cases hrest
      simp only [reduceCtorEq, false_iff, not_and, Classical.not_not]
      exact fun _ => hmem
    | none =>
      have hnot := ih.1 hrest
      by_cases hc : c.name = name
      · simp [hc]
      · simp only [hc, if_false, true_iff]
        exact ⟨fun h => hc h.symm, hnot⟩

theorem Layout.position?_append_of_not_mem {before after : Layout} {name : String}
    (h : name ∉ after.names) : position? (before ++ after) name = before.position? name := by
  induction before with
  | nil => exact position?_eq_none_iff.2 h
  | cons c rest ih => rw [List.cons_append, position?, position?, ih]

theorem Layout.position?_lt {layout : Layout} {name : String} {i : Nat}
    (h : layout.position? name = some i) : i < layout.length := by
  induction layout generalizing i with
  | nil => cases h
  | cons c rest ih =>
    unfold position? at h
    split at h
    · next j hj =>
      cases h
      exact Nat.succ_lt_succ (ih hj)
    · split at h
      · cases h
        exact Nat.zero_lt_succ _
      · cases h

/-- The last column of a layout stands at the end. -/
theorem Layout.position?_concat (before : Layout) (c : LayoutColumn) :
    position? (before ++ [c]) c.name = some before.length := by
  induction before with
  | nil => simp [position?]
  | cons d rest ih => simp [position?, ih]

/-- The place of a name holds that name. -/
theorem Layout.name_of_position? {layout : Layout} {name : String} {i : Nat}
    (h : layout.position? name = some i) : (layout[i]?).map (·.name) = some name := by
  induction layout generalizing i with
  | nil => cases h
  | cons c rest ih =>
    unfold position? at h
    split at h
    · next j hj =>
      cases h
      exact ih hj
    · split at h
      · next hname =>
        cases h
        exact congrArg some hname
      · cases h

/-- Layouts with the same names have them at the same places. -/
theorem Layout.position?_congr {layout layout' : Layout} (h : layout.names = layout'.names)
    (name : String) : layout.position? name = layout'.position? name := by
  induction layout generalizing layout' with
  | nil =>
    obtain rfl := List.map_eq_nil_iff.1 h.symm
    rfl
  | cons c rest ih =>
    obtain ⟨c', rest', rfl, hname, hrest⟩ := List.map_eq_cons_iff.1 h.symm
    rw [position?, position?, ih hrest.symm, hname]

/-- Rows with the same names and values look the same. -/
theorem Row.get?_congr {row row' : Row} (hnames : row.layout.names = row'.layout.names)
    (hvalues : row.values = row'.values) (name : String) : row.get? name = row'.get? name := by
  rw [get?, get?, Layout.position?_congr hnames, hvalues]

/-- A row whose values are the first ones of another row sees what the other one sees, up to the
columns filled. -/
theorem Row.get?_eq_of_prefix {row row' : Row} (hlayout : row.layout = row'.layout)
    (hvalues : row.values <+: row'.values) {name : String}
    (h : ∀ i, row.layout.position? name = some i → i < row.values.length) :
    row.get? name = row'.get? name := by
  obtain ⟨more, hmore⟩ := hvalues
  unfold get?
  rw [← hlayout]
  cases hposition : row.layout.position? name with
  | none => rfl
  | some i =>
    show row.values[i]? = row'.values[i]?
    rw [← hmore, List.getElem?_append_left (h i hposition)]

theorem Row.get?_empty (layout : Layout) (name : String) : (empty layout).get? name = none := by
  rw [get?, empty]
  cases layout.position? name <;> rfl

namespace Plan

variable {σ : Type} [RandomSource σ]

theorem names_layout (p : Plan) : p.layout.names = p.fields.map (·.name) := by
  rw [Layout.names, layout, layoutOf, List.map_map]
  rfl

/-! ## One field after the other -/

/-- The value that is stored for an outcome. -/
def stored : Except CellError Value → Value
  | .ok v => v
  | .error _ => .null

/-- The row with the cell of an outcome. -/
def put (result : RowResult) (name : String) : Except CellError Value → RowResult
  | .ok v => ⟨result.row.push v, result.errors⟩
  | .error e => ⟨result.row.push .null, result.errors ++ [(name, e)]⟩

theorem row_put (result : RowResult) (name : String) (outcome : Except CellError Value) :
    (put result name outcome).row = result.row.push (stored outcome) := by
  cases outcome <;> rfl

theorem fill_cons_of_ok {f : Field} {rest : List Field} {start : RowResult} {w v : World σ}
    {outcome : Except CellError Value} (h : f.valueFor start.row w = (.ok outcome, v)) :
    fill (f :: rest) start w = fill rest (put start f.name outcome) v := by
  rw [fill, h]
  cases outcome <;> rfl

theorem fill_cons_of_crash {f : Field} {rest : List Field} {start : RowResult} {w v : World σ}
    {crash : Crash} (h : f.valueFor start.row w = (.error crash, v)) :
    fill (f :: rest) start w = (.error crash, v) := by
  rw [fill, h]

theorem fill_cons_eq_ok_iff {f : Field} {rest : List Field} {start result : RowResult}
    {w w' : World σ} :
    fill (f :: rest) start w = (.ok result, w') ↔
      ∃ outcome v, f.valueFor start.row w = (.ok outcome, v) ∧
        fill rest (put start f.name outcome) v = (.ok result, w') := by
  constructor
  · intro h
    rcases hvalue : f.valueFor start.row w with ⟨crash | outcome, v⟩
    · rw [fill_cons_of_crash hvalue] at h
      cases h
    · exact ⟨outcome, v, rfl, (fill_cons_of_ok hvalue).symm.trans h⟩
  · rintro ⟨outcome, v, hvalue, h⟩
    rw [fill_cons_of_ok hvalue, h]

theorem fill_append_eq_ok_iff {xs ys : List Field} {start result : RowResult} {w w' : World σ} :
    fill (xs ++ ys) start w = (.ok result, w') ↔
      ∃ mid v, fill xs start w = (.ok mid, v) ∧ fill ys mid v = (.ok result, w') := by
  induction xs generalizing start w with
  | nil =>
    constructor
    · exact fun h => ⟨start, w, rfl, h⟩
    · rintro ⟨_, _, heq, h⟩
      cases heq
      exact h
  | cons f rest ih =>
    rw [List.cons_append, fill_cons_eq_ok_iff]
    constructor
    · rintro ⟨outcome, u, hvalue, hrest⟩
      obtain ⟨mid, v, hmid, hys⟩ := ih.1 hrest
      exact ⟨mid, v, fill_cons_eq_ok_iff.2 ⟨outcome, u, hvalue, hmid⟩, hys⟩
    · rintro ⟨mid, v, hmid, hys⟩
      obtain ⟨outcome, u, hvalue, hrest⟩ := fill_cons_eq_ok_iff.1 hmid
      exact ⟨outcome, u, hvalue, ih.2 ⟨mid, v, hrest, hys⟩⟩

/-- A row with `count` cells more than another one. -/
structure Extends (start result : RowResult) (count : Nat) : Prop where
  layout_eq : result.row.layout = start.row.layout
  values_prefix : start.row.values <+: result.row.values
  errors_prefix : start.errors <+: result.errors
  length_eq : start.row.values.length + count ≤ start.row.layout.length →
    result.row.values.length = start.row.values.length + count

theorem extends_put (start : RowResult) (name : String) (outcome : Except CellError Value) :
    Extends start (put start name outcome) 1 := by
  have herrors : start.errors <+: (put start name outcome).errors := by
    cases outcome <;> simp [put]
  by_cases h : start.row.values.length < start.row.layout.length
  · refine ⟨?_, ?_, herrors, fun _ => ?_⟩ <;> simp [row_put, Row.push, h]
  · refine ⟨?_, ?_, herrors, fun hle => absurd hle h⟩ <;> simp [row_put, Row.push, h]

theorem Extends.trans {a b c : RowResult} {m n : Nat} (hab : Extends a b m) (hbc : Extends b c n) :
    Extends a c (m + n) := by
  refine ⟨hbc.layout_eq.trans hab.layout_eq, hab.values_prefix.trans hbc.values_prefix,
    hab.errors_prefix.trans hbc.errors_prefix, fun hle => ?_⟩
  have hb := hab.length_eq (by omega)
  rw [hbc.length_eq (by rw [hb, hab.layout_eq]; omega), hb]
  omega

theorem extends_of_fill {fields : List Field} {start result : RowResult} {w w' : World σ}
    (h : fill fields start w = (.ok result, w')) : Extends start result fields.length := by
  induction fields generalizing start w with
  | nil =>
    cases h
    exact ⟨rfl, List.prefix_refl _, List.prefix_refl _, fun _ => rfl⟩
  | cons f rest ih =>
    obtain ⟨outcome, v, -, hrest⟩ := fill_cons_eq_ok_iff.1 h
    have hall := (extends_put start f.name outcome).trans (ih hrest)
    rwa [Nat.add_comm] at hall

/-- An error is that of a field in its moment. -/
theorem mem_errors_of_fill {fields : List Field} {start result : RowResult} {w w' : World σ}
    (h : fill fields start w = (.ok result, w')) {failure : String × CellError}
    (hmem : failure ∈ result.errors) :
    failure ∈ start.errors ∨ ∃ before f after mid v v', fields = before ++ f :: after ∧
      fill before start w = (.ok mid, v) ∧ f.valueFor mid.row v = (.ok (.error failure.2), v') ∧
      fill after (put mid f.name (.error failure.2)) v' = (.ok result, w') ∧
      failure.1 = f.name := by
  induction fields generalizing start w with
  | nil =>
    cases h
    exact .inl hmem
  | cons f rest ih =>
    obtain ⟨outcome, v, hvalue, hrest⟩ := fill_cons_eq_ok_iff.1 h
    rcases ih hrest with hput | ⟨before, g, after, mid, u, u', rfl, hmid, hg, hafter, hname⟩
    · cases outcome with
      | ok value => exact .inl hput
      | error e =>
        rcases List.mem_append.1 hput with hstart | hself
        · exact .inl hstart
        · obtain rfl := List.mem_singleton.1 hself
          exact .inr ⟨[], f, rest, start, w, v, rfl, rfl, hvalue, hrest, rfl⟩
    · exact .inr ⟨f :: before, g, after, mid, u, u', rfl,
        fill_cons_eq_ok_iff.2 ⟨outcome, v, hvalue, hmid⟩, hg, hafter, hname⟩

/-! ## The fields that are left -/

/-- A row of a plan in which the fields of a list are left. -/
structure Left (p : Plan) (fields : List Field) (row : Row) : Prop where
  exists_before : ∃ before, p.fields = before ++ fields ∧ row.values.length = before.length
  layout_eq : row.layout = p.layout

namespace Left

variable {p : Plan} {f : Field} {rest : List Field} {row : Row}

theorem empty (p : Plan) : p.Left p.fields (.empty p.layout) := ⟨⟨[], rfl, rfl⟩, rfl⟩

theorem room (h : p.Left (f :: rest) row) : row.values.length < row.layout.length := by
  obtain ⟨before, hfields, hlength⟩ := h.exists_before
  rw [h.layout_eq, hlength, layout, layoutOf, hfields, List.length_map, List.length_append,
    List.length_cons]
  omega

theorem mem_fields (h : p.Left (f :: rest) row) : f ∈ p.fields := by
  obtain ⟨before, hfields, -⟩ := h.exists_before
  rw [hfields]
  exact List.mem_append_right _ List.mem_cons_self

theorem name_not_mem (h : p.Left (f :: rest) row) (hnodup : (p.fields.map (·.name)).Nodup) :
    f.name ∉ rest.map (·.name) := by
  obtain ⟨before, hfields, -⟩ := h.exists_before
  rw [hfields, List.map_append, List.map_cons, List.nodup_append, List.nodup_cons] at hnodup
  exact hnodup.2.1.1

theorem push (h : p.Left (f :: rest) row) (v : Value) : p.Left rest (row.push v) := by
  obtain ⟨before, hfields, hlength⟩ := h.exists_before
  rw [Row.push, dif_pos h.room]
  refine ⟨⟨before ++ [f], ?_, ?_⟩, h.layout_eq⟩
  · rw [hfields, List.append_assoc, List.singleton_append]
  · rw [List.length_append, List.length_append, hlength, List.length_singleton,
      List.length_singleton]

theorem put {result : RowResult} (h : p.Left (f :: rest) result.row)
    (outcome : Except CellError Value) : p.Left rest (put result f.name outcome).row := by
  rw [row_put]
  exact h.push _

theorem values_put {result : RowResult} (h : p.Left (f :: rest) result.row)
    (outcome : Except CellError Value) :
    (Plan.put result f.name outcome).row.values = result.row.values ++ [stored outcome] := by
  rw [row_put, Row.push, dif_pos h.room]

/-- The next field fills the place of its name. -/
theorem position?_eq_iff (h : p.Left (f :: rest) row) (hnodup : (p.fields.map (·.name)).Nodup)
    {n : String} : row.layout.position? n = some row.values.length ↔ n = f.name := by
  obtain ⟨before, hfields, hlength⟩ := h.exists_before
  have hlayout : p.layout = (layoutOf before ++ [⟨f.name, f.ghost⟩]) ++ layoutOf rest := by
    simp [layout, layoutOf, hfields]
  rw [h.layout_eq, hlength]
  constructor
  · intro hposition
    have hname := Layout.name_of_position? hposition
    rw [layout, layoutOf, hfields] at hname
    simpa using hname.symm
  · rintro rfl
    have hlater : f.name ∉ Layout.names (layoutOf rest) := by
      simpa [Layout.names, layoutOf] using h.name_not_mem hnodup
    have hposition := Layout.position?_concat (layoutOf before) ⟨f.name, f.ghost⟩
    rw [hlayout, Layout.position?_append_of_not_mem hlater]
    simpa [layoutOf] using hposition

/-- A cell more is seen by its own name only. -/
theorem get?_push (h : p.Left (f :: rest) row) (hnodup : (p.fields.map (·.name)).Nodup)
    (n : String) (v : Value) :
    (row.push v).get? n = if n = f.name then some v else row.get? n := by
  have hposition := h.position?_eq_iff hnodup (n := n)
  rw [Row.push, dif_pos h.room, Row.get?, Row.get?]
  dsimp only
  by_cases hn : n = f.name
  · rw [if_pos hn, hposition.2 hn]
    simp
  · rw [if_neg hn]
    cases hplace : row.layout.position? n with
    | none => rfl
    | some i =>
      have hother : i ≠ row.values.length := fun heq => hn (hposition.1 (heq ▸ hplace))
      rcases Nat.lt_or_gt_of_ne hother with hlt | hgt
      · simp [List.getElem?_append_left hlt]
      · rw [Option.bind_some, Option.bind_some, List.getElem?_eq_none, List.getElem?_eq_none]
        · omega
        · rw [List.length_append, List.length_singleton]
          omega

end Left

/-! ## The moment of a field -/

/-- A complete row and the row `mid` that the field `f` after the fields `before` saw, with the
outcome of the field. -/
structure Moment (p : Plan) (result mid : RowResult) (before : List Field) (f : Field)
    (outcome : Except CellError Value) : Prop where
  layout_eq : mid.row.layout = p.layout
  length_eq : mid.row.values.length = before.length
  final_layout_eq : result.row.layout = p.layout
  values_prefix : mid.row.values ++ [stored outcome] <+: result.row.values
  error_mem : ∀ e, outcome = .error e → (f.name, e) ∈ result.errors

theorem moment_of_fill {p : Plan} {before after : List Field} {f : Field}
    (hfields : p.fields = before ++ f :: after) {result mid : RowResult} {w v v' w' : World σ}
    {outcome : Except CellError Value} (hmid : fill before ⟨.empty p.layout, []⟩ w = (.ok mid, v))
    (hafter : fill after (put mid f.name outcome) v' = (.ok result, w')) :
    Moment p result mid before f outcome := by
  have hbefore := extends_of_fill hmid
  have hput := extends_put mid f.name outcome
  have hlast := extends_of_fill hafter
  have hlength : p.layout.length = before.length + (after.length + 1) := by
    simp [layout, layoutOf, hfields]
  have hlayout : mid.row.layout = p.layout := hbefore.layout_eq
  have hmidlength : mid.row.values.length = before.length := by
    rw [hbefore.length_eq (by simp [Row.empty]; omega)]
    simp [Row.empty]
  refine ⟨hlayout, hmidlength, hlast.layout_eq.trans (hput.layout_eq.trans hlayout), ?_, ?_⟩
  · have hroom : mid.row.values.length < mid.row.layout.length := by
      rw [hmidlength, hlayout]
      omega
    have hvalues : (put mid f.name outcome).row.values = mid.row.values ++ [stored outcome] := by
      simp [row_put, Row.push, hroom]
    rw [← hvalues]
    exact hlast.values_prefix
  · rintro e rfl
    exact hlast.errors_prefix.subset (List.mem_append_right _ List.mem_cons_self)

/-- Each field has its moment. -/
theorem moment_of_generateRow {p : Plan} {before after : List Field} {f : Field}
    (hfields : p.fields = before ++ f :: after) {result : RowResult} {w w' : World σ}
    (h : p.generateRow w = (.ok result, w')) :
    ∃ mid outcome, ∃ v v' : World σ, f.valueFor mid.row v = (.ok outcome, v') ∧
      Moment p result mid before f outcome := by
  unfold generateRow at h
  rw [hfields, fill_append_eq_ok_iff] at h
  obtain ⟨mid, v, hmid, hrest⟩ := h
  obtain ⟨outcome, v', hvalue, hafter⟩ := fill_cons_eq_ok_iff.1 hrest
  exact ⟨mid, outcome, v, v', hvalue, moment_of_fill hfields hmid hafter⟩

/-- Each error is that of a field in its moment. -/
theorem moment_of_error {p : Plan} {result : RowResult} {w w' : World σ}
    (h : p.generateRow w = (.ok result, w')) {failure : String × CellError}
    (hmem : failure ∈ result.errors) :
    ∃ before f after mid, ∃ v v' : World σ, p.fields = before ++ f :: after ∧
      f.valueFor mid.row v = (.ok (.error failure.2), v') ∧ failure.1 = f.name ∧
      Moment p result mid before f (.error failure.2) := by
  rcases mem_errors_of_fill h hmem with hstart | ⟨before, f, after, mid, v, v', hfields, hmid,
    hvalue, hafter, hname⟩
  · exact absurd hstart List.not_mem_nil
  · exact ⟨before, f, after, mid, v, v', hfields, hvalue, hname,
      moment_of_fill hfields hmid hafter⟩

namespace Moment

variable {p : Plan} {result mid : RowResult} {before after : List Field} {f : Field}
  {outcome : Except CellError Value}

/-- A name that is none of a later field looks the same in the moment and in the end. -/
theorem get?_eq (m : Moment p result mid before f outcome)
    (hfields : p.fields = before ++ f :: after) {n : String}
    (hn : n ∉ (f :: after).map (·.name)) : mid.row.get? n = result.row.get? n := by
  refine Row.get?_eq_of_prefix (m.layout_eq.trans m.final_layout_eq.symm)
    ((List.prefix_append _ _).trans m.values_prefix) ?_
  intro i hi
  have hlayout : p.layout = layoutOf before ++ layoutOf (f :: after) := by
    simp [layout, layoutOf, hfields]
  have hlater : n ∉ Layout.names (layoutOf (f :: after)) := by
    simpa [Layout.names, layoutOf] using hn
  rw [m.layout_eq, hlayout, Layout.position?_append_of_not_mem hlater] at hi
  rw [m.length_eq]
  simpa [layoutOf] using Layout.position?_lt hi

/-- A field before has a value. -/
theorem get?_isSome (m : Moment p result mid before f outcome)
    (hfields : p.fields = before ++ f :: after) {n : String} (hn : n ∈ before.map (·.name))
    (hlater : n ∉ (f :: after).map (·.name)) : (mid.row.get? n).isSome = true := by
  have hlayout : p.layout = layoutOf before ++ layoutOf (f :: after) := by
    simp [layout, layoutOf, hfields]
  have hlater : n ∉ Layout.names (layoutOf (f :: after)) := by
    simpa [Layout.names, layoutOf] using hlater
  unfold Row.get?
  rw [m.layout_eq, hlayout, Layout.position?_append_of_not_mem hlater]
  cases hi : Layout.position? (layoutOf before) n with
  | none =>
    refine absurd ?_ (Layout.position?_eq_none_iff.1 hi)
    simpa [Layout.names, layoutOf] using hn
  | some i =>
    have hlt : i < mid.row.values.length := by
      rw [m.length_eq]
      simpa [layoutOf] using Layout.position?_lt hi
    simp [hlt]

/-- The cell of the field holds what its outcome stored. -/
theorem get?_self (m : Moment p result mid before f outcome)
    (hfields : p.fields = before ++ f :: after) (hn : f.name ∉ after.map (·.name)) :
    result.row.get? f.name = some (stored outcome) := by
  have hlayout : p.layout = (layoutOf before ++ [⟨f.name, f.ghost⟩]) ++ layoutOf after := by
    simp [layout, layoutOf, hfields]
  have hlater : f.name ∉ Layout.names (layoutOf after) := by
    simpa [Layout.names, layoutOf] using hn
  obtain ⟨more, hmore⟩ := m.values_prefix
  have hlength : (layoutOf before).length = mid.row.values.length := by
    rw [m.length_eq]
    simp [layoutOf]
  have hposition := Layout.position?_concat (layoutOf before) ⟨f.name, f.ghost⟩
  unfold Row.get?
  rw [m.final_layout_eq, hlayout, Layout.position?_append_of_not_mem hlater]
  dsimp only at hposition
  rw [hposition]
  simp [← hmore, hlength]

end Moment

end Plan

end SynthTable
