import Mathlib.Logic.Relation
import SynthTable.Proofs.Schema.Arrangement
import SynthTable.Proofs.Table.SideBySide

/-!
# What depends on a derivation

A computed column neither draws nor counts, and a computation sees only the columns that its
derivation reads. So when the derivation of a column is replaced, only the columns that reach it by
their references can change: all others have the same values and errors as before, although some of
them are drawn after it (`generateRow_rederived`).
-/

namespace SynthTable

/-! ## Another derivation -/

/-- A column with another derivation if it has the name. -/
def Column.rederived (name : String) (d : Derivation) (c : Column) : Column :=
  if c.name = name then { c with derivation? := some d } else c

/-- A schema with another derivation of the column of a name. -/
def Schema.rederived (s : Schema) (name : String) (d : Derivation) : Schema :=
  { s with columns := s.columns.map (·.rederived name d) }

/-- The conditions of each derivation read only columns that the derivation says it reads. -/
def Schema.ConditionsScanned (s : Schema) : Prop :=
  ∀ c ∈ s.columns, ∀ d, c.derivation? = some d → ConditionsWithin d.references d.conditionTexts

/-- A column reaches another one by references, its own or those of the columns that it reads. -/
def Schema.Reaches (s : Schema) : String → String → Prop := Relation.ReflTransGen s.Reads

theorem Column.name_rederived (name : String) (d : Derivation) (c : Column) :
    (c.rederived name d).name = c.name := by
  rw [rederived]
  split <;> rfl

theorem Column.rederived_of_ne {name : String} {c : Column} (h : c.name ≠ name) (d : Derivation) :
    c.rederived name d = c := if_neg h

theorem Column.isComputed_rederived {name : String} {d : Derivation} {c : Column}
    (h : c.isComputed = true) : (c.rederived name d).isComputed = true := by
  rw [rederived]
  split
  · rfl
  · exact h

namespace Field

theorem readNames_subset {c : Column} {assets : AssetSource} {f : Field}
    (h : build c assets = .ok f)
    (hscanned : ∀ d, c.derivation? = some d → ConditionsWithin d.references d.conditionTexts)
    {n : String} (hn : n ∈ f.readNames) : n ∈ c.references := by
  obtain ⟨domain, computation?, rfl, -, hread⟩ := eq_of_build h
  cases computation? with
  | none => exact absurd hn List.not_mem_nil
  | some computation =>
    obtain ⟨d, hd, hofDerivation⟩ := derivation_of_computationOf hread
    rw [Column.references_of_derivation hd]
    exact (Computation.readNames_of_derivation d hofDerivation (hscanned d hd) hn).elim id
      Names.mem_ofList.2

end Field

/-! ## Rows that agree on other columns -/

theorem forall₂_of_map_eq {α β γ δ ε : Type} {xs : List α} {ys : List β} {zs : List γ}
    {f : α → δ} {f' : α → ε} {g : β → δ} {g' : γ → ε} (h : ys.map g = xs.map f)
    (h' : zs.map g' = xs.map f') :
    List.Forall₂ (fun y z => ∃ x ∈ xs, g y = f x ∧ g' z = f' x) ys zs := by
  induction xs generalizing ys zs with
  | nil =>
    obtain rfl := List.map_eq_nil_iff.1 h
    obtain rfl := List.map_eq_nil_iff.1 h'
    exact .nil
  | cons x rest ih =>
    obtain ⟨y, ys, rfl, hy, hys⟩ := List.map_eq_cons_iff.1 h
    obtain ⟨z, zs, rfl, hz, hzs⟩ := List.map_eq_cons_iff.1 h'
    refine .cons ⟨x, List.mem_cons_self, hy, hz⟩ ((ih hys hzs).imp ?_)
    exact fun _ _ hx => hx.imp fun _ hmem => ⟨List.mem_cons_of_mem _ hmem.1, hmem.2⟩

/-- Two rows have the same columns, and the same values and errors in all columns but some. -/
structure RowResult.AgreeApart (apart : String → Prop) (a b : RowResult) : Prop where
  names_eq : a.row.layout.names = b.row.layout.names
  get?_eq : ∀ n, ¬ apart n → a.row.get? n = b.row.get? n
  errors_iff : ∀ n, ¬ apart n → ∀ e, (n, e) ∈ a.errors ↔ (n, e) ∈ b.errors

namespace Plan

/-- Two fields of one column, before and after its derivation may have been replaced. -/
def Rederives (s : Schema) (assets : AssetSource) (name : String) (d : Derivation)
    (f f' : Field) : Prop :=
  ∃ c ∈ s.columns, Field.build c assets = .ok f ∧
    Field.build (c.rederived name d) assets = .ok f'

section

variable {s : Schema} {assets : AssetSource} {p p' : Plan} {c : Column} {d : Derivation}
  {f f' : Field}

theorem Rederives.name_eq (h : Rederives s assets c.name d f f') : f.name = f'.name := by
  obtain ⟨e, -, hbuild, hbuild'⟩ := h
  rw [Field.name_of_build hbuild, Field.name_of_build hbuild', Column.name_rederived]

theorem Rederives.isDeclared (h : Rederives s assets c.name d f f') :
    f.IsDeclared ∧ f'.IsDeclared := by
  obtain ⟨e, -, hbuild, hbuild'⟩ := h
  exact ⟨Field.isDeclared_of_build hbuild, Field.isDeclared_of_build hbuild'⟩

/-- Columns that reach a computed column are computed. -/
theorem Rederives.isComputed (h : Rederives s assets c.name d f f')
    (hnodup : (s.columns.map (·.name)).Nodup) (hc : c ∈ s.columns) (hcomputed : c.isComputed = true)
    (hreaches : s.Reaches f.name c.name) : f.isComputed = true ∧ f'.isComputed = true := by
  obtain ⟨e, he, hbuild, hbuild'⟩ := h
  have hname := Field.name_of_build hbuild
  have hboth : e.isComputed = true := by
    rw [hname] at hreaches
    rcases hreaches.cases_head with hself | ⟨n, ⟨e', he', hname', hread, -⟩, -⟩
    · obtain rfl := List.inj_on_of_nodup_map hnodup he hc hself
      exact hcomputed
    · obtain rfl := List.inj_on_of_nodup_map hnodup he' he hname'
      obtain ⟨_, hd, -⟩ := Column.exists_derivation hread
      rw [Column.isComputed, hd]
      rfl
  rw [Field.isComputed_of_build hbuild, Field.isComputed_of_build hbuild']
  exact ⟨hboth, Column.isComputed_rederived hboth⟩

/-- A column that does not reach the one with the other derivation is as before, and it reads no
column that reaches that one. -/
theorem Rederives.unchanged (h : Rederives s assets c.name d f f')
    (hscanned : s.ConditionsScanned) (hc : c ∈ s.columns)
    (hreaches : ¬ s.Reaches f.name c.name) :
    f = f' ∧ ∀ n ∈ f.readNames, ¬ s.Reaches n c.name := by
  obtain ⟨e, he, hbuild, hbuild'⟩ := h
  have hname := Field.name_of_build hbuild
  rw [hname] at hreaches
  have hne : e.name ≠ c.name := fun heq => hreaches (heq ▸ .refl)
  rw [Column.rederived_of_ne hne, hbuild] at hbuild'
  refine ⟨Except.ok.inj hbuild', fun n hn hother => hreaches ?_⟩
  have hread := Field.readNames_subset hbuild (hscanned e he) hn
  -- a name from which references lead on, or that of the column itself, is declared
  have hdeclared : n ∈ s.columns.map (·.name) := by
    rcases hother.cases_head with rfl | ⟨m, ⟨e', he', rfl, -⟩, -⟩
    · exact List.mem_map_of_mem hc
    · exact List.mem_map_of_mem he'
  exact .head ⟨e, he, rfl, hread, hdeclared⟩ hother

/-- The fields of the plans before and after are those of the same columns. -/
theorem rederives_of_build (h : build s assets = .ok p)
    (h' : build (s.rederived c.name d) assets = .ok p')
    (hsame : p.fields.map (·.name) = p'.fields.map (·.name)) :
    List.Forall₂ (Rederives s assets c.name d) p.fields p'.fields := by
  have hfields := (divides_of_build h).fields_eq
  have hfields' := (divides_of_build h').fields_eq
  have hkept : (isKept p'.fields ∘ fun e => e.rederived c.name d) = isKept p.fields := by
    funext e
    rw [Function.comp, isKept, isKept, ← hsame, Column.name_rederived]
  rw [Schema.rederived, List.filter_map, List.map_map, hkept] at hfields'
  refine (forall₂_of_map_eq hfields hfields').imp ?_
  rintro f f' ⟨e, he, hbuild, hbuild'⟩
  exact ⟨e, (List.mem_filter.1 he).1, hbuild.symm, hbuild'.symm⟩

/-- Two rows of the plans before and after, with the same fields left, agree so far. -/
structure AgreeSoFar (s : Schema) (assets : AssetSource) (p p' : Plan) (name : String)
    (d : Derivation) (fields fields' : List Field) (a b : RowResult) : Prop where
  left : p.Left fields a.row
  left' : p'.Left fields' b.row
  fields : List.Forall₂ (Rederives s assets name d) fields fields'
  agree : a.AgreeApart (s.Reaches · name) b

/-- The outcomes of a pair of fields are the same unless the column reaches the one with the other
derivation. -/
theorem AgreeSoFar.put {rest rest' : List Field} {a b : RowResult}
    (h : AgreeSoFar s assets p p' c.name d (f :: rest) (f' :: rest') a b)
    (hnodup : (p.fields.map (·.name)).Nodup) (hnodup' : (p'.fields.map (·.name)).Nodup)
    (outcome outcome' : Except CellError Value)
    (hsame : ¬ s.Reaches f.name c.name → outcome = outcome') :
    AgreeSoFar s assets p p' c.name d rest rest' (put a f.name outcome)
      (put b f'.name outcome') := by
  obtain ⟨hpair, hrest⟩ := List.forall₂_cons.1 h.fields
  refine ⟨h.left.put outcome, h.left'.put outcome', hrest, ?_, ?_, ?_⟩
  · rw [(h.left.put outcome).layout_eq, (h.left'.put outcome').layout_eq, ← h.left.layout_eq,
      ← h.left'.layout_eq]
    exact h.agree.names_eq
  · intro n hn
    rw [h.left.get?_put hnodup, h.left'.get?_put hnodup', ← hpair.name_eq, h.agree.get?_eq n hn]
    by_cases hself : n = f.name
    · subst hself
      rw [hsame hn]
    · rw [if_neg hself, if_neg hself]
  · intro n hn e
    rw [mem_errors_put, mem_errors_put, ← hpair.name_eq, h.agree.errors_iff n hn e]
    by_cases hself : n = f.name
    · subst hself
      rw [hsame hn]
    · simp [hself]

theorem AgreeSoFar.step {σ : Type} [RandomSource σ] (hbuild : build s assets = .ok p)
    (hbuild' : build (s.rederived c.name d) assets = .ok p') (hc : c ∈ s.columns)
    (hcomputed : c.isComputed = true) (hscanned : s.ConditionsScanned)
    {rest rest' : List Field} {a b : RowResult}
    (h : AgreeSoFar s assets p p' c.name d (f :: rest) (f' :: rest') a b) (w : World σ) :
    EndsAlike (fun outcome outcome' =>
      AgreeSoFar s assets p p' c.name d rest rest' (Plan.put a f.name outcome)
        (Plan.put b f'.name outcome'))
      (f.valueFor a.row w) (f'.valueFor b.row w) := by
  have hput := h.put (nodup_fields hbuild) (nodup_fields hbuild')
  obtain ⟨hpair, -⟩ := List.forall₂_cons.1 h.fields
  obtain ⟨hdeclared, hdeclared'⟩ := hpair.isDeclared
  by_cases hreaches : s.Reaches f.name c.name
  · -- both are computed, with whatever outcomes
    obtain ⟨hf, hf'⟩ := hpair.isComputed (nodup_columns hbuild) hc hcomputed hreaches
    obtain ⟨outcome, hvalue⟩ := Field.exists_valueFor_of_computed (σ := σ) hdeclared hf a.row
    obtain ⟨outcome', hvalue'⟩ := Field.exists_valueFor_of_computed (σ := σ) hdeclared' hf' b.row
    rw [hvalue, hvalue']
    exact .gives (hput _ _ fun hnot => absurd hreaches hnot)
  · obtain ⟨rfl, hreads⟩ := hpair.unchanged hscanned hc hreaches
    have hvalue := Field.valueFor_congr rfl rfl hdeclared
      (fun n hn => h.agree.get?_eq n (hreads n hn)) w
    exact EndsAlike.of_eq hvalue fun _ => hput _ _ fun _ => rfl

end

/-- When the derivation of a computed column is replaced and the same columns survive, every column
that does not reach it by references has the same value and the same error in the rows that the two
plans make of the same words, counters and clock, whatever the derivations yield; and both rows leave
the same behind. -/
theorem generateRow_rederived {s : Schema} {assets : AssetSource} {p p' : Plan} {c : Column}
    {d : Derivation} (hbuild : build s assets = .ok p)
    (hbuild' : build (s.rederived c.name d) assets = .ok p') (hc : c ∈ s.columns)
    (hcomputed : c.isComputed = true) (hscanned : s.ConditionsScanned)
    (hsame : p.fields.map (·.name) = p'.fields.map (·.name)) {σ : Type} [RandomSource σ]
    (w : World σ) :
    EndsAlike (RowResult.AgreeApart (s.Reaches · c.name)) (p.generateRow w) (p'.generateRow w) := by
  have hfields := rederives_of_build hbuild hbuild' hsame
  have hstart : AgreeSoFar s assets p p' c.name d p.fields p'.fields ⟨.empty p.layout, []⟩
      ⟨.empty p'.layout, []⟩ := by
    refine ⟨.empty p, .empty p', hfields, ?_, ?_, fun _ _ _ => Iff.rfl⟩
    · show p.layout.names = p'.layout.names
      rw [names_layout, names_layout, hsame]
    · intro n _
      rw [Row.get?_empty, Row.get?_empty]
  exact (endsAlike_fill (fun h => h.step hbuild hbuild' hc hcomputed hscanned) hfields.length_eq
    hstart w).imp fun _ _ h => h.agree

/-- A copy of a number, on a condition. -/
def numberCopy : Column :=
  { Column.plain "b" .integer with
    derivation? := some (.conditional [.mk "$a > 1" (.derived (.injection "${a}"))] none) }

/-- A drawn number, its copy, a text that needs the copy, and a drawn truth value. -/
def numberCopies : Schema :=
  ⟨Schema.defaultVersion, none,
    [{ Column.plain "a" .integer with min? := some (.integer 2), max? := some (.integer 2) },
      numberCopy, { Column.plain "c" .string with derivation? := some (.injection "${b}!") },
      Column.plain "z" .boolean]⟩

theorem numberCopies_conditionsScanned : numberCopies.ConditionsScanned := by
  intro c hc d hd text htext condition hcondition n hn
  have hconditions : ∀ c ∈ numberCopies.columns, ∀ d ∈ c.derivation?, ∀ text ∈ d.conditionTexts,
      ∀ n ∈ ((Condition.ofText text).toOption.map (·.columns)).getD [], n ∈ d.references := by
    decide +kernel
  refine hconditions c hc d hd text htext n ?_
  rw [hcondition]
  exact hn

theorem not_reaches_numberCopies : ¬ numberCopies.Reaches "z" "b" := by
  intro h
  have hnone : ∀ c ∈ numberCopies.columns, c.name = "z" → c.references = [] := by decide +kernel
  rcases h.cases_head with hself | ⟨n, ⟨c, hc, hname, hread, -⟩, -⟩
  · exact absurd hself (by decide)
  · rw [hnone c hc hname] at hread
    exact absurd hread List.not_mem_nil

theorem generateRow_rederived_numberCopies :
    ∃ p p' result result' w', build numberCopies noFiles = .ok p ∧
      build (numberCopies.rederived "b" (.injection "no. ${a}")) noFiles = .ok p' ∧
      p.generateRow sevens = (.ok result, w') ∧ p'.generateRow sevens = (.ok result', w') ∧
      result.errors = [] ∧ result'.errors = [("b", .cast "no. 2" "integer")] ∧
      result.row.get? "z" = result'.row.get? "z" := by
  have hrow : (build numberCopies noFiles).toOption.bind (fun p =>
      (p.generateRow sevens).1.toOption.map fun result => (p.fields.map (·.name), result.errors)) =
      some (["a", "b", "c", "z"], []) := by
    decide +kernel
  have hrow' : (build (numberCopies.rederived "b" (.injection "no. ${a}")) noFiles).toOption.bind
      (fun p =>
        (p.generateRow sevens).1.toOption.map fun result => (p.fields.map (·.name), result.errors)) =
      some (["a", "b", "c", "z"], [("b", .cast "no. 2" "integer")]) := by
    decide +kernel
  obtain ⟨p, result, w, hbuild, hgenerate, hshown⟩ := exists_row_of_eval hrow
  obtain ⟨p', result', w', hbuild', hgenerate', hshown'⟩ := exists_row_of_eval hrow'
  obtain ⟨hnames, herrors⟩ := Prod.mk.inj hshown
  obtain ⟨hnames', herrors'⟩ := Prod.mk.inj hshown'
  have hends := generateRow_rederived hbuild hbuild' (List.mem_cons_of_mem _ List.mem_cons_self)
    rfl numberCopies_conditionsScanned (hnames.trans hnames'.symm) sevens
  rw [hgenerate, hgenerate'] at hends
  cases hends with
  | gives hagree =>
    exact ⟨p, p', result, result', w, hbuild, hbuild', hgenerate, hgenerate', herrors, herrors',
      hagree.get?_eq "z" not_reaches_numberCopies⟩

end Plan

end SynthTable
