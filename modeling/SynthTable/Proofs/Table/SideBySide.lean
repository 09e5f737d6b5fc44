import SynthTable.Proofs.Table.Consistency

/-!
# Rows side by side

Two rows are generated from the same words, counters and clock. As long as the fields of both do the
same to these, the rows end alike (`EndsAlike`): both crash, or both are made and are related in the
way that each pair of fields keeps up (`Plan.endsAlike_fill`). A declared field does the same for two
rows that have the same values in the columns that it reads (`Field.valueFor_congr`).
-/

namespace SynthTable

/-! ## Ends -/

section

variable {σ α β : Type} {alike : α → β → Prop}

/-- Both of two steps crash, with the same crash, or both give something, and these are alike; both
leave the same source and the same things shared behind. -/
inductive EndsAlike (alike : α → β → Prop) :
    Except Crash α × World σ → Except Crash β × World σ → Prop
  | crashes {crash w} : EndsAlike alike (.error crash, w) (.error crash, w)
  | gives {a b w} (h : alike a b) : EndsAlike alike (.ok a, w) (.ok b, w)

theorem EndsAlike.imp {alike' : α → β → Prop} {end₁ : Except Crash α × World σ}
    {end₂ : Except Crash β × World σ} (h : EndsAlike alike end₁ end₂)
    (himp : ∀ a b, alike a b → alike' a b) : EndsAlike alike' end₁ end₂ := by
  cases h with
  | crashes => exact .crashes
  | gives h => exact .gives (himp _ _ h)

theorem EndsAlike.of_eq {alike : α → α → Prop} {end₁ end₂ : Except Crash α × World σ}
    (h : end₁ = end₂) (hrefl : ∀ a, alike a a) : EndsAlike alike end₁ end₂ := by
  subst h
  rcases end₁ with ⟨crash | a, w⟩
  · exact .crashes
  · exact .gives (hrefl a)

end

/-! ## Fields -/

namespace Field

/-- A field of a column, not one from outside. -/
def IsDeclared (f : Field) : Prop :=
  ∃ kind domain computation?, f.content = .declared kind domain computation?

/-- The columns that the computation of a field reads. -/
def readNames (f : Field) : List String :=
  match f.content with
  | .declared _ _ (some c) => c.readNames true
  | _ => []

variable {σ : Type} [RandomSource σ] {f f' : Field} {row row' : Row}

theorem isDeclared_of_build {c : Column} {assets : AssetSource} (h : build c assets = .ok f) :
    f.IsDeclared := by
  obtain ⟨domain, computation?, rfl, -, -⟩ := eq_of_build h
  exact ⟨_, _, _, rfl⟩

/-- A computed field of a column has an outcome and leaves alone what rows share. -/
theorem exists_valueFor_of_computed (hdeclared : f.IsDeclared) (hcomputed : f.isComputed = true)
    (row : Row) : ∃ outcome, ∀ w : World σ, f.valueFor row w = (.ok outcome, w) := by
  obtain ⟨kind, domain, computation?, hcontent⟩ := hdeclared
  have hcompute : ∃ outcome, f.compute row = .ok outcome := by
    rw [compute, hcontent]
    cases computation? with
    | none => exact ⟨_, rfl⟩
    | some c =>
      dsimp only
      split <;> exact ⟨_, rfl⟩
  obtain ⟨outcome, houtcome⟩ := hcompute
  exact ⟨outcome, fun w => by rw [valueFor, if_pos hcomputed, houtcome]⟩

/-- Two fields that differ at most in whether they are written out do the same for rows with the same
values in the columns that they read. -/
theorem valueFor_congr (hname : f.name = f'.name) (hcontent : f.content = f'.content)
    (hdeclared : f.IsDeclared) (h : Row.AgreeOn f.readNames row row') (w : World σ) :
    f.valueFor row w = f'.valueFor row' w := by
  have hcompute : f.compute row = f.compute row' := by
    obtain ⟨kind, domain, computation?, hdecl⟩ := hdeclared
    cases computation? with
    | none => rw [compute, compute, hdecl]
    | some c =>
      rw [readNames, hdecl] at h
      exact compute_congr hdecl h
  have hcast : f.cast = f'.cast := by
    funext text
    rw [cast, cast, hcontent]
  rw [valueFor, valueFor, hcompute, isComputed, isComputed, compute, compute, generate, generate,
    hname, hcontent, hcast]

end Field

/-! ## Rows -/

namespace Plan

theorem isDeclared_of_mem {s : Schema} {assets : AssetSource} {p : Plan}
    (h : build s assets = .ok p) {f : Field} (hf : f ∈ p.fields) : f.IsDeclared := by
  obtain ⟨c, -, hbuild⟩ := (divides_of_build h).exists_column hf
  exact Field.isDeclared_of_build hbuild

variable {σ : Type} [RandomSource σ]

/-- A plan and a row that give a value when they are evaluated are made. -/
theorem exists_row_of_eval {s : Schema} {assets : AssetSource} {w : World σ} {α : Type}
    {shown : Plan → RowResult → α} {x : α}
    (h : (build s assets).toOption.bind
      (fun p => (p.generateRow w).1.toOption.map (shown p)) = some x) :
    ∃ p result w', build s assets = .ok p ∧ p.generateRow w = (.ok result, w') ∧
      shown p result = x := by
  obtain ⟨p, hbuild, hrow⟩ := Option.bind_eq_some_iff.1 h
  obtain ⟨result, hresult, hshown⟩ := Option.map_eq_some_iff.1 hrow
  exact ⟨p, result, _, eq_ok_of_toOption hbuild, Prod.ext (eq_ok_of_toOption hresult) rfl, hshown⟩

theorem fill_append (xs ys : List Field) (start : RowResult) (w : World σ) :
    fill (xs ++ ys) start w =
      match fill xs start w with
      | (.error crash, v) => (.error crash, v)
      | (.ok mid, v) => fill ys mid v := by
  induction xs generalizing start w with
  | nil => rfl
  | cons f rest ih =>
    rcases hvalue : f.valueFor start.row w with ⟨crash | outcome, v⟩
    · rw [List.cons_append, fill_cons_of_crash hvalue, fill_cons_of_crash hvalue]
    · rw [List.cons_append, fill_cons_of_ok hvalue, fill_cons_of_ok hvalue, ih]

/-- Rows that are alike before a pair of fields, and alike again after it, are alike in the end.
What it means to be alike may depend on the fields that are left. -/
theorem endsAlike_fill {alike : List Field → List Field → RowResult → RowResult → Prop}
    (hstep : ∀ {f f' rest rest' a b}, alike (f :: rest) (f' :: rest') a b → ∀ w : World σ,
      EndsAlike (fun outcome outcome' =>
        alike rest rest' (put a f.name outcome) (put b f'.name outcome'))
        (f.valueFor a.row w) (f'.valueFor b.row w))
    {fields fields' : List Field} (hlength : fields.length = fields'.length) {a b : RowResult}
    (h : alike fields fields' a b) (w : World σ) :
    EndsAlike (alike [] []) (fill fields a w) (fill fields' b w) := by
  induction fields generalizing fields' a b w with
  | nil =>
    obtain rfl := List.length_eq_zero_iff.1 hlength.symm
    exact .gives h
  | cons f rest ih =>
    obtain ⟨f', rest', rfl⟩ := List.exists_cons_of_length_eq_add_one hlength.symm
    have hends := hstep h w
    rcases hvalue : f.valueFor a.row w with ⟨crash | outcome, v⟩ <;>
      rcases hvalue' : f'.valueFor b.row w with ⟨crash' | outcome', v'⟩ <;>
      rw [hvalue, hvalue'] at hends <;> cases hends
    · rw [fill_cons_of_crash hvalue, fill_cons_of_crash hvalue']
      exact .crashes
    · next halike =>
      rw [fill_cons_of_ok hvalue, fill_cons_of_ok hvalue']
      exact ih (Nat.succ.inj hlength) halike v

/-! ### Cells and errors of a field more -/

theorem mem_errors_put {result : RowResult} {name n : String} {outcome : Except CellError Value}
    {e : CellError} :
    (n, e) ∈ (put result name outcome).errors ↔
      (n, e) ∈ result.errors ∨ n = name ∧ outcome = .error e := by
  cases outcome with
  | ok v => simp [put]
  | error e' => simp [put, eq_comm]

/-- A cell more is seen by its own name only. -/
theorem Left.get?_put {p : Plan} {f : Field} {rest : List Field} {result : RowResult}
    (h : p.Left (f :: rest) result.row) (hnodup : (p.fields.map (·.name)).Nodup) (n : String)
    (outcome : Except CellError Value) :
    (Plan.put result f.name outcome).row.get? n =
      if n = f.name then some (stored outcome) else result.row.get? n := by
  rw [row_put, h.get?_push hnodup]

end Plan

end SynthTable
