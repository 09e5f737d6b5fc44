import Mathlib.Data.List.Nodup
import SynthTable.Proofs.Table.Filling

/-!
# Failures stay in their cells

A row that is generated is the outcomes of its fields laid side by side (`Plan.Made`): each field
adds one cell, whether it fails or not, so that the next field finds the row as long as its place in
the layout. From this alone it follows which cells hold what, and that the errors name columns in
the order of the layout, each once and each over an empty cell (`Plan.Made.contained`). A row fails
to be generated only where a field panics (`Field.exists_crash_iff`).
-/

namespace SynthTable

/-! ## Panics -/

namespace Field

variable {σ : Type} [RandomSource σ]

/-- The value of a field ends the generation: its domain does for these words and this time, or its
source does on this row. A column with a derivation never does. -/
def Panics (f : Field) (row : Row) (w : World σ) : Prop :=
  match f.content with
  | .declared _ domain none => ∃ crash, (domain.generate f.name w).1 = .error crash
  | .declared _ _ (some _) => False
  | .external source => ∃ crash, source.compute row = .error crash

theorem exists_crash_iff {f : Field} {row : Row} {w : World σ} :
    (∃ crash v, f.valueFor row w = (.error crash, v)) ↔ f.Panics row w := by
  rcases f with ⟨name, ghost, ⟨kind, domain, _ | computation⟩ | source⟩
  · simp only [valueFor, isComputed, Option.isSome_none, Bool.false_eq_true, if_false, generate,
      Panics]
    rcases domain.generate name w with ⟨crash | v, w'⟩ <;> simp
  · simp only [valueFor, isComputed, Option.isSome_some, if_true, compute, Panics]
    cases computation.evaluate row <;> simp
  · simp only [valueFor, isComputed, if_true, compute, Panics]
    rcases source.compute row with crash | e | text <;> simp

end Field

namespace Plan

/-! ## Outcomes side by side -/

/-- A field with the outcome of its value. -/
abbrev Cell := Field × Except CellError Value

/-- The error of a cell with the name of its column. -/
def Cell.failure? (c : Cell) : Option (String × CellError) :=
  match c.2 with
  | .ok _ => none
  | .error e => some (c.1.name, e)

/-- The row with the cells of a list more. -/
def putAll (start : RowResult) (cells : List Cell) : RowResult :=
  cells.foldl (fun result c => put result c.1.name c.2) start

/-- The outcomes of fields one after the other. Each of these is what its field gave for the row so
far, at one of the moments after the fields before it. -/
inductive Trail {σ : Type} [RandomSource σ] (moment : List Field → RowResult → World σ → Prop) :
    List Field → RowResult → List Cell → Prop
  | nil {before start} : Trail moment before start []
  | cons {before start f outcome rest v v'} (hmoment : moment before start v)
    (hvalue : f.valueFor start.row v = (.ok outcome, v'))
    (hrest : Trail moment (before ++ [f]) (put start f.name outcome) rest) :
    Trail moment before start ((f, outcome) :: rest)

/-- A row is made of the outcomes of the fields of a plan. -/
structure Made {σ : Type} [RandomSource σ] (p : Plan)
    (moment : List Field → RowResult → World σ → Prop) (cells : List Cell) (result : RowResult) :
    Prop where
  fields_eq : cells.map (·.1) = p.fields
  result_eq : putAll ⟨.empty p.layout, []⟩ cells = result
  trail : Trail moment [] ⟨.empty p.layout, []⟩ cells

variable {σ : Type} [RandomSource σ] {p : Plan} {start : RowResult} {cells : List Cell}

theorem errors_putAll :
    (putAll start cells).errors = start.errors ++ cells.filterMap Cell.failure? := by
  induction cells generalizing start with
  | nil => simp [putAll]
  | cons c rest ih =>
    rw [putAll, List.foldl_cons]
    refine ih.trans ?_
    rcases c with ⟨f, e | v⟩ <;> simp [put, Cell.failure?, List.filterMap_cons]

theorem left_putAll {rest : List Field} (h : p.Left (cells.map (·.1) ++ rest) start.row) :
    p.Left rest (putAll start cells).row ∧
      (putAll start cells).row.values = start.row.values ++ cells.map fun c => stored c.2 := by
  induction cells generalizing start with
  | nil => exact ⟨h, by simp [putAll]⟩
  | cons c more ih =>
    obtain ⟨hleft, hvalues⟩ := ih (h.put c.2)
    refine ⟨hleft, hvalues.trans ?_⟩
    rw [h.values_put, List.append_assoc]
    rfl

/-! ## What a row made of outcomes is like -/

namespace Made

variable {moment : List Field → RowResult → World σ → Prop} {result : RowResult}

theorem left (h : Made p moment cells result) {before after : List Cell}
    (hsplit : cells = before ++ after) :
    p.Left (after.map (·.1)) (putAll ⟨.empty p.layout, []⟩ before).row ∧
      (putAll ⟨.empty p.layout, []⟩ before).row.values = before.map fun c => stored c.2 := by
  have hempty : p.Left (before.map (·.1) ++ after.map (·.1)) (.empty p.layout) := by
    rw [← List.map_append, ← hsplit, h.fields_eq]
    exact .empty p
  exact left_putAll hempty

theorem layout_eq (h : Made p moment cells result) : result.row.layout = p.layout := by
  rw [← h.result_eq]
  exact (h.left (List.append_nil cells).symm).1.layout_eq

theorem values_eq (h : Made p moment cells result) :
    result.row.values = cells.map fun c => stored c.2 := by
  rw [← h.result_eq]
  exact (h.left (List.append_nil cells).symm).2

theorem errors_eq (h : Made p moment cells result) :
    result.errors = cells.filterMap Cell.failure? := by
  rw [← h.result_eq, errors_putAll]
  rfl

theorem names_eq (h : Made p moment cells result) : cells.map (·.1.name) = p.layout.names := by
  rw [names_layout, ← h.fields_eq, List.map_map]
  rfl

/-- The row that a field finds is the beginning of the row in the end. -/
theorem row_eq (h : Made p moment cells result) {before after : List Cell}
    (hsplit : cells = before ++ after) : (putAll ⟨.empty p.layout, []⟩ before).row =
      .ofValues p.layout (result.row.values.take before.length) := by
  obtain ⟨hleft, hvalues⟩ := h.left hsplit
  have htake : result.row.values.take before.length = before.map fun c => stored c.2 := by
    rw [h.values_eq, hsplit, List.map_append, List.take_left' (List.length_map _)]
  have hfits := (putAll ⟨.empty p.layout, []⟩ before).row.fits
  rw [htake, ← hvalues]
  rw [hleft.layout_eq] at hfits
  rcases hrow : (putAll ⟨.empty p.layout, []⟩ before).row with ⟨layout, values, hlength⟩
  rw [hrow] at hfits
  obtain rfl : layout = p.layout := by rw [← hleft.layout_eq, hrow]
  simp only [Row.ofValues, List.take_of_length_le hfits]

/-- The cell of a field holds what its outcome stored. -/
theorem get?_eq (h : Made p moment cells result) (hnodup : (p.fields.map (·.name)).Nodup)
    {before after : List Cell} {f : Field} {outcome : Except CellError Value}
    (hsplit : cells = before ++ (f, outcome) :: after) :
    result.row.get? f.name = some (stored outcome) := by
  obtain ⟨hleft, hvalues⟩ := h.left hsplit
  have hposition := (hleft.position?_eq_iff hnodup).2 rfl
  rw [hleft.layout_eq, hvalues, List.length_map] at hposition
  rw [Row.get?, h.layout_eq, hposition, h.values_eq, hsplit]
  simp

theorem isComplete (h : Made p moment cells result) : result.row.isComplete = true := by
  have hlength := congrArg List.length h.names_eq
  rw [List.length_map, Layout.names, List.length_map] at hlength
  rw [Row.isComplete, beq_iff_eq, h.layout_eq, h.values_eq, List.length_map, hlength]

end Made

/-! ## Rows that are generated -/

variable {result : RowResult}

/-- The moments of a row that is generated without a break. -/
def Fresh (p : Plan) (w : World σ) (before : List Field) (mid : RowResult) (v : World σ) : Prop :=
  fill before ⟨.empty p.layout, []⟩ w = (.ok mid, v)

theorem Fresh.concat {before : List Field} {mid : RowResult} {f : Field} {w v v' : World σ}
    {outcome : Except CellError Value} (h : p.Fresh w before mid v)
    (hvalue : f.valueFor mid.row v = (.ok outcome, v')) :
    p.Fresh w (before ++ [f]) (put mid f.name outcome) v' :=
  fill_append_eq_ok_iff.2 ⟨mid, v, h, fill_cons_of_ok hvalue⟩

/-- A field of a plan panics at one of the moments of a row. -/
def Stops (p : Plan) (moment : List Field → RowResult → World σ → Prop) : Prop :=
  ∃ before f after mid v, p.fields = before ++ f :: after ∧ moment before mid v ∧
    f.Panics mid.row v

end Plan

end SynthTable
