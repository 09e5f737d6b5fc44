import Mathlib.Data.List.Basic
import SynthTable.Computation.Basic
import SynthTable.Proofs.Fallible
import SynthTable.Proofs.Formula.Columns

/-!
# What a computation reads

A computation sees of a row only the values of the columns that it reads (`evaluate_congr`), and it
misses a value only of a column that must have one (`missing_of_evaluate`). What it reads are names
that its derivation reads, and columns of its conditions (`readNames_of_derivation`).
-/

namespace SynthTable

/-- Two rows have the same values in some columns. -/
def Row.AgreeOn (names : List String) (row row' : Row) : Prop :=
  ∀ n ∈ names, row.get? n = row'.get? n

namespace Row.AgreeOn

variable {names more : List String} {row row' : Row}

theorem left (h : AgreeOn (names ++ more) row row') : AgreeOn names row row' :=
  fun n hn => h n (List.mem_append_left _ hn)

theorem right (h : AgreeOn (names ++ more) row row') : AgreeOn more row row' :=
  fun n hn => h n (List.mem_append_right _ hn)

end Row.AgreeOn

/-! ## Conditions -/

/-- The column that an operand reads, if it is no literal. -/
def Operand.columns : Operand → List String
  | .column name => [name]
  | .literal _ => []

/-- The columns that a comparison reads. -/
def Comparison.columns (c : Comparison) : List String := c.column :: c.operand.columns

/-- The columns that a condition reads. -/
def Condition.columns : Condition → List String
  | .always => []
  | .anyOf groups => groups.flatMap (·.flatMap Comparison.columns)

section

variable {row row' : Row} {n : String}

theorem Row.textOf_congr (h : row.get? n = row'.get? n) : row.textOf n = row'.textOf n := by
  rw [Row.textOf, Row.textOf, h]

theorem Row.missing_of_textOf {name : String}
    (h : row.textOf name = .error (.missingReference n)) : n = name ∧ row.get? n = none := by
  unfold Row.textOf at h
  split at h
  · cases h
  · next hnone =>
    cases h
    exact ⟨rfl, hnone⟩

theorem Operand.textIn_congr {o : Operand} (h : Row.AgreeOn o.columns row row') :
    o.textIn row = o.textIn row' := by
  cases o with
  | column name => exact Row.textOf_congr (h name List.mem_cons_self)
  | literal text => rfl

theorem Operand.missing_of_textIn {o : Operand}
    (h : o.textIn row = .error (.missingReference n)) : n ∈ o.columns ∧ row.get? n = none := by
  cases o with
  | column name =>
    obtain ⟨rfl, hnone⟩ := Row.missing_of_textOf h
    exact ⟨List.mem_cons_self, hnone⟩
  | literal text => cases h

theorem Comparison.holds_congr {c : Comparison} (h : Row.AgreeOn c.columns row row') :
    c.holds row = c.holds row' := by
  have hleft := Row.textOf_congr (h c.column List.mem_cons_self)
  have hright := Operand.textIn_congr (o := c.operand) fun n hn => h n (List.mem_cons_of_mem _ hn)
  rw [holds, holds, hleft, hright]

theorem Comparison.missing_of_holds {c : Comparison}
    (h : c.holds row = .error (.missingReference n)) : n ∈ c.columns ∧ row.get? n = none := by
  unfold holds at h
  split at h
  · next e hleft =>
    cases h
    obtain ⟨rfl, hnone⟩ := Row.missing_of_textOf hleft
    exact ⟨List.mem_cons_self, hnone⟩
  · split at h
    · next e hright =>
      cases h
      obtain ⟨hmem, hnone⟩ := Operand.missing_of_textIn hright
      exact ⟨List.mem_cons_of_mem _ hmem, hnone⟩
    · cases h

namespace Condition

theorem allHold_congr {group : List Comparison}
    (h : Row.AgreeOn (group.flatMap Comparison.columns) row row') :
    allHold row group = allHold row' group := by
  induction group with
  | nil => rfl
  | cons c rest ih =>
    rw [List.flatMap_cons] at h
    rw [allHold, allHold, Comparison.holds_congr h.left, ih h.right]

theorem missing_of_allHold {group : List Comparison}
    (h : allHold row group = .error (.missingReference n)) :
    n ∈ group.flatMap Comparison.columns ∧ row.get? n = none := by
  induction group with
  | nil => cases h
  | cons c rest ih =>
    rw [List.flatMap_cons, List.mem_append]
    unfold allHold at h
    split at h
    · next e hc =>
      cases h
      exact (Comparison.missing_of_holds hc).imp_left Or.inl
    · cases h
    · exact (ih h).imp_left Or.inr

theorem anyHolds_congr {groups : List (List Comparison)}
    (h : Row.AgreeOn (groups.flatMap (·.flatMap Comparison.columns)) row row') :
    anyHolds row groups = anyHolds row' groups := by
  induction groups with
  | nil => rfl
  | cons group rest ih =>
    rw [List.flatMap_cons] at h
    rw [anyHolds, anyHolds, allHold_congr h.left, ih h.right]

theorem missing_of_anyHolds {groups : List (List Comparison)}
    (h : anyHolds row groups = .error (.missingReference n)) :
    n ∈ groups.flatMap (·.flatMap Comparison.columns) ∧ row.get? n = none := by
  induction groups with
  | nil => cases h
  | cons group rest ih =>
    rw [List.flatMap_cons, List.mem_append]
    unfold anyHolds at h
    split at h
    · next e hgroup =>
      cases h
      exact (missing_of_allHold hgroup).imp_left Or.inl
    · cases h
    · exact (ih h).imp_left Or.inr

theorem holds_congr {condition : Condition} (h : Row.AgreeOn condition.columns row row') :
    condition.holds row = condition.holds row' := by
  cases condition with
  | always => rfl
  | anyOf groups => exact anyHolds_congr h

theorem missing_of_holds {condition : Condition}
    (h : condition.holds row = .error (.missingReference n)) :
    n ∈ condition.columns ∧ row.get? n = none := by
  cases condition with
  | always => cases h
  | anyOf groups => exact missing_of_anyHolds h

end Condition

/-! ## Formulas -/

namespace Formula

theorem eval_congr {e : Expr} (h : Row.AgreeOn e.columns row row') : eval row e = eval row' e := by
  induction e with
  | literal value => rfl
  | column name => rw [eval, eval, h name List.mem_cons_self]
  | neg operand ih => rw [eval, eval, ih h]
  | not operand ih => rw [eval, eval, ih h]
  | binary op left right ihl ihr => rw [eval, eval, ihl h.left, ihr h.right]
  | conditional condition yes no ihc ihy ihn =>
    rw [eval, eval, ihc h.left.left, ihy h.left.right, ihn h.right]

/-- An operator that fails does so for what its operands are. -/
theorem exists_fault_of_apply {op : BinaryOp} {a b : Scalar} {e : CellError}
    (h : apply op a b = .error e) : ∃ fault, e = .evaluation fault := by
  cases op <;> simp only [apply, comparison, plus, arithmetic, division, mismatch] at h
  all_goals
    repeat' split at h
    all_goals cases h
    all_goals exact ⟨_, rfl⟩

theorem missing_of_eval {e : Expr} (h : eval row e = .error (.missingReference n)) :
    n ∈ e.columns ∧ row.get? n = none := by
  induction e with
  | literal value => cases h
  | column name =>
    unfold eval at h
    split at h
    · cases h
    · next hnone =>
      cases h
      exact ⟨List.mem_cons_self, hnone⟩
  | neg operand ih =>
    unfold eval at h
    split at h
    · next hoperand =>
      cases h
      exact ih hoperand
    · cases h
    · cases h
  | not operand ih =>
    unfold eval at h
    split at h
    · next hoperand =>
      cases h
      exact ih hoperand
    · cases h
  | binary op left right ihl ihr =>
    rw [Expr.columns, List.mem_append]
    unfold eval at h
    split at h
    · next hleft =>
      cases h
      exact (ihl hleft).imp_left Or.inl
    · split at h
      · cases h
      · split at h
        · cases h
        · split at h
          · next hright =>
            cases h
            exact (ihr hright).imp_left Or.inr
          · obtain ⟨fault, hfault⟩ := exists_fault_of_apply h
            cases hfault
  | conditional condition yes no ihc ihy ihn =>
    rw [Expr.columns, List.mem_append, List.mem_append]
    unfold eval at h
    split at h
    · next hcondition =>
      cases h
      exact (ihc hcondition).imp_left (Or.inl ∘ Or.inl)
    · split at h
      · exact (ihy h).imp_left (Or.inl ∘ Or.inr)
      · exact (ihn h).imp_left Or.inr

theorem evaluate_congr {f : Formula} (h : Row.AgreeOn f.expr.columns row row') :
    f.evaluate row = f.evaluate row' := by
  rw [evaluate, evaluate, eval_congr h]

theorem missing_of_evaluate {f : Formula} (h : f.evaluate row = .error (.missingReference n)) :
    n ∈ f.expr.columns ∧ row.get? n = none := by
  unfold evaluate at h
  split at h
  · next heval =>
    cases h
    exact missing_of_eval heval
  · split at h <;> cases h
  · cases h

end Formula

/-! ## Templates and links -/

theorem Template.render_congr {t : Template}
    (h : Row.AgreeOn (t.segments.filterMap Reference.Segment.name?) row row') :
    t.render row = t.render row' := by
  have hsegment : ∀ part ∈ t.segments, segmentText row part = segmentText row' part := by
    intro part hpart
    cases part with
    | plain text => rfl
    | reference text name =>
      have hname := h (String.ofList name) (List.mem_filterMap.2 ⟨_, hpart, rfl⟩)
      rw [segmentText, segmentText, hname]
  rw [render, render, List.flatMap_congr hsegment]

theorem LinkTarget.resolve_congr {link : LinkTarget} (h : Row.AgreeOn [link.column] row row') :
    link.resolve row = link.resolve row' := by
  rw [resolve, resolve, h link.column List.mem_cons_self]

theorem LinkTarget.missing_of_resolve {link : LinkTarget}
    (h : link.resolve row = .error (.missingReference n)) :
    n ∈ [link.column] ∧ row.get? n = none := by
  unfold resolve at h
  split at h
  · next hnone =>
    cases h
    exact ⟨List.mem_cons_self, hnone⟩
  · split at h <;> cases h

end

/-! ## Computations -/

mutual

/-- The columns that a computation reads; those of templates only if `withTemplates`. -/
def Computation.readNames (withTemplates : Bool) : Computation → List String
  | .conditional lines default? =>
    ComputationLine.readNamesOfList withTemplates lines ++
      ComputedValue.readNamesOfOption withTemplates default?
  | .formula f => f.expr.columns
  | .template t => if withTemplates then t.segments.filterMap Reference.Segment.name? else []
  | .link l => [l.column]

/-- The columns that lines read. -/
def ComputationLine.readNamesOfList (withTemplates : Bool) : List ComputationLine → List String
  | [] => []
  | .mk condition value :: rest =>
    condition.columns ++ ComputedValue.readNames withTemplates value ++
      ComputationLine.readNamesOfList withTemplates rest

/-- The columns that a value reads. -/
def ComputedValue.readNames (withTemplates : Bool) : ComputedValue → List String
  | .literal _ => []
  | .derived c => Computation.readNames withTemplates c

/-- The columns that the value after all lines reads. -/
def ComputedValue.readNamesOfOption (withTemplates : Bool) : Option ComputedValue → List String
  | some value => ComputedValue.readNames withTemplates value
  | none => []

end

section

variable {row row' : Row}

mutual

/-- A computation sees of a row only the columns that it reads. -/
theorem Computation.evaluate_congr :
    ∀ c : Computation, Row.AgreeOn (c.readNames true) row row' → c.evaluate row = c.evaluate row'
  | .conditional lines default?, h => by
    rw [Computation.readNames] at h
    rw [Computation.evaluate, Computation.evaluate, ComputationLine.firstText_congr lines h.left,
      ComputedValue.textOrEmpty_congr default? h.right]
  | .formula f, h => by
    rw [Computation.readNames] at h
    rw [Computation.evaluate, Computation.evaluate, Formula.evaluate_congr h]
  | .template t, h => by
    rw [Computation.readNames, if_pos rfl] at h
    rw [Computation.evaluate, Computation.evaluate, Template.render_congr h]
  | .link l, h => by
    rw [Computation.readNames] at h
    rw [Computation.evaluate, Computation.evaluate, LinkTarget.resolve_congr h]

theorem ComputationLine.firstText_congr :
    ∀ lines : List ComputationLine,
      Row.AgreeOn (ComputationLine.readNamesOfList true lines) row row' →
        ComputationLine.firstText row lines = ComputationLine.firstText row' lines
  | [], _ => rfl
  | .mk condition value :: rest, h => by
    rw [ComputationLine.readNamesOfList] at h
    rw [ComputationLine.firstText, ComputationLine.firstText, Condition.holds_congr h.left.left,
      ComputedValue.textIn_congr value h.left.right, ComputationLine.firstText_congr rest h.right]

theorem ComputedValue.textIn_congr :
    ∀ value : ComputedValue, Row.AgreeOn (value.readNames true) row row' →
      value.textIn row = value.textIn row'
  | .literal _, _ => by rw [ComputedValue.textIn, ComputedValue.textIn]
  | .derived c, h => by
    rw [ComputedValue.textIn, ComputedValue.textIn]
    rw [ComputedValue.readNames] at h
    exact Computation.evaluate_congr c h

theorem ComputedValue.textOrEmpty_congr :
    ∀ default? : Option ComputedValue,
      Row.AgreeOn (ComputedValue.readNamesOfOption true default?) row row' →
        ComputedValue.textOrEmpty row default? = ComputedValue.textOrEmpty row' default?
  | none, _ => rfl
  | some value, h => ComputedValue.textIn_congr value h

end

variable {n : String}

mutual

/-- A value is missed only of a column that must have one. -/
theorem Computation.missing_of_evaluate :
    ∀ c : Computation, c.evaluate row = .error (.missingReference n) →
      n ∈ c.readNames false ∧ row.get? n = none
  | .conditional lines default?, h => by
    rw [Computation.readNames, List.mem_append]
    unfold Computation.evaluate at h
    split at h
    · next hlines =>
      cases h
      exact (ComputationLine.missing_of_firstText lines hlines).imp_left Or.inl
    · cases h
    · exact (ComputedValue.missing_of_textOrEmpty default? h).imp_left Or.inr
  | .formula f, h => by
    rw [Computation.readNames]
    unfold Computation.evaluate at h
    split at h
    · next hformula =>
      cases h
      exact Formula.missing_of_evaluate hformula
    · cases h
  | .template t, h => by
    unfold Computation.evaluate at h
    cases h
  | .link l, h => by
    rw [Computation.readNames]
    unfold Computation.evaluate at h
    exact LinkTarget.missing_of_resolve h

theorem ComputationLine.missing_of_firstText :
    ∀ lines : List ComputationLine,
      ComputationLine.firstText row lines = .error (.missingReference n) →
        n ∈ ComputationLine.readNamesOfList false lines ∧ row.get? n = none
  | [], h => by cases h
  | .mk condition value :: rest, h => by
    rw [ComputationLine.readNamesOfList, List.mem_append, List.mem_append]
    unfold ComputationLine.firstText at h
    split at h
    · next hcondition =>
      cases h
      exact (Condition.missing_of_holds hcondition).imp_left (Or.inl ∘ Or.inl)
    · split at h
      · next hvalue =>
        cases h
        exact (ComputedValue.missing_of_textIn value hvalue).imp_left (Or.inl ∘ Or.inr)
      · cases h
    · exact (ComputationLine.missing_of_firstText rest h).imp_left Or.inr

theorem ComputedValue.missing_of_textIn :
    ∀ value : ComputedValue, value.textIn row = .error (.missingReference n) →
      n ∈ value.readNames false ∧ row.get? n = none
  | .literal _, h => by
    unfold ComputedValue.textIn at h
    cases h
  | .derived c, h => by
    rw [ComputedValue.readNames]
    unfold ComputedValue.textIn at h
    exact Computation.missing_of_evaluate c h

theorem ComputedValue.missing_of_textOrEmpty :
    ∀ default? : Option ComputedValue,
      ComputedValue.textOrEmpty row default? = .error (.missingReference n) →
        n ∈ ComputedValue.readNamesOfOption false default? ∧ row.get? n = none
  | none, h => by cases h
  | some value, h => ComputedValue.missing_of_textIn value h

end

end

/-! ## Derivations -/

mutual

/-- The texts of the conditions of a derivation. -/
def Derivation.conditionTexts : Derivation → List String
  | .conditional rules default? =>
    ConditionalRule.conditionTextsOfList rules ++
      ConditionalValue.conditionTextsOfOption default?
  | .formula _ | .injection _ | .link _ => []

/-- The texts of the conditions of rules. -/
def ConditionalRule.conditionTextsOfList : List ConditionalRule → List String
  | [] => []
  | .mk w v :: rest =>
    w :: (ConditionalValue.conditionTexts v ++ ConditionalRule.conditionTextsOfList rest)

/-- The texts of the conditions of a value. -/
def ConditionalValue.conditionTexts : ConditionalValue → List String
  | .derived d => Derivation.conditionTexts d
  | _ => []

/-- The texts of the conditions of the value after all rules. -/
def ConditionalValue.conditionTextsOfOption : Option ConditionalValue → List String
  | some v => ConditionalValue.conditionTexts v
  | none => []

end

/-- The conditions of some texts read no other columns than `names`. -/
def ConditionsWithin (names : List String) (texts : List String) : Prop :=
  ∀ text ∈ texts, ∀ condition, Condition.ofText text = .ok condition →
    ∀ n ∈ condition.columns, n ∈ names

namespace ConditionsWithin

variable {names xs ys : List String}

theorem left (h : ConditionsWithin names (xs ++ ys)) : ConditionsWithin names xs :=
  fun text htext => h text (List.mem_append_left _ htext)

theorem right (h : ConditionsWithin names (xs ++ ys)) : ConditionsWithin names ys :=
  fun text htext => h text (List.mem_append_right _ htext)

theorem head {x : String} (h : ConditionsWithin names (x :: xs)) {condition : Condition}
    (hread : readCondition x = .ok condition) : ∀ n ∈ condition.columns, n ∈ names := by
  unfold readCondition at hread
  split at hread
  · next hcondition =>
    cases hread
    exact h x List.mem_cons_self _ hcondition
  · cases hread

theorem tail {x : String} (h : ConditionsWithin names (x :: xs)) : ConditionsWithin names xs :=
  fun text htext => h text (List.mem_cons_of_mem _ htext)

end ConditionsWithin

section

variable {withTemplates : Bool} {names : List String} {n : String}

mutual

/-- What a computation reads are names that its derivation reads, and columns of its conditions. -/
theorem Computation.readNames_of_derivation :
    ∀ (d : Derivation) {c : Computation}, Computation.ofDerivation d = .ok c →
      ConditionsWithin names d.conditionTexts → n ∈ c.readNames withTemplates →
        n ∈ names ∨ n ∈ d.readNames withTemplates
  | .conditional rules default?, c, h, hwithin, hn => by
    rw [Computation.ofDerivation] at h
    obtain ⟨lines, hlines, h⟩ := exists_ok_of_bind h
    obtain ⟨value?, hvalue, h⟩ := exists_ok_of_bind h
    cases h
    rw [Derivation.conditionTexts] at hwithin
    rw [Computation.readNames, List.mem_append] at hn
    rw [Derivation.readNames, List.mem_append]
    rcases hn with hn | hn
    · exact (ComputationLine.readNames_of_rules rules hlines hwithin.left hn).imp_right Or.inl
    · exact (ComputedValue.readNames_of_option default? hvalue hwithin.right hn).imp_right Or.inr
  | .formula source, c, h, _, hn => by
    rw [Computation.ofDerivation, readFormula] at h
    split at h
    · next f hformula =>
      cases h
      unfold Formula.ofText at hformula
      split at hformula
      · next expr hexpr =>
        cases hformula
        rw [Computation.readNames, Expr.columns_ofText hexpr] at hn
        rw [Derivation.readNames]
        exact .inr hn
      · cases hformula
    · cases h
  | .injection source, c, h, _, hn => by
    cases h
    rw [Derivation.readNames, Reference.placeholders, Reference.names_scan]
    exact .inr hn
  | .link source, c, h, _, hn => by
    rw [Computation.ofDerivation] at h
    obtain ⟨link, hlink, h⟩ := exists_ok_of_bind h
    cases h
    unfold readLink at hlink
    split at hlink
    · next hsource =>
      cases hlink
      rw [Derivation.readNames, hsource]
      exact .inr hn
    · cases hlink

theorem ComputationLine.readNames_of_rules :
    ∀ (rules : List ConditionalRule) {lines : List ComputationLine},
      ComputationLine.ofRules rules = .ok lines →
        ConditionsWithin names (ConditionalRule.conditionTextsOfList rules) →
          n ∈ ComputationLine.readNamesOfList withTemplates lines →
            n ∈ names ∨ n ∈ ConditionalRule.readNamesOfList withTemplates rules
  | [], lines, h, _, hn => by
    cases h
    exact absurd hn List.not_mem_nil
  | .mk w v :: rest, lines, h, hwithin, hn => by
    rw [ComputationLine.ofRules] at h
    obtain ⟨condition, hcondition, h⟩ := exists_ok_of_bind h
    obtain ⟨value, hvalue, h⟩ := exists_ok_of_bind h
    obtain ⟨later, hlater, h⟩ := exists_ok_of_bind h
    cases h
    rw [ConditionalRule.conditionTextsOfList] at hwithin
    rw [ComputationLine.readNamesOfList, List.mem_append, List.mem_append] at hn
    rw [ConditionalRule.readNamesOfList, List.mem_append, List.mem_append]
    rcases hn with (hn | hn) | hn
    · exact .inl (hwithin.head hcondition n hn)
    · exact (ComputedValue.readNames_of_value v hvalue hwithin.tail.left hn).imp_right
        (Or.inl ∘ Or.inr)
    · exact (ComputationLine.readNames_of_rules rest hlater hwithin.tail.right hn).imp_right Or.inr

theorem ComputedValue.readNames_of_value :
    ∀ (v : ConditionalValue) {value : ComputedValue}, ComputedValue.ofValue v = .ok value →
      ConditionsWithin names v.conditionTexts → n ∈ value.readNames withTemplates →
        n ∈ names ∨ n ∈ v.readNames withTemplates
  | .derived d, value, h, hwithin, hn => by
    rw [ComputedValue.ofValue] at h
    obtain ⟨c, hc, h⟩ := exists_ok_of_bind h
    cases h
    exact Computation.readNames_of_derivation d hc hwithin hn
  | .text _, value, h, _, hn | .integer _, value, h, _, hn | .float _, value, h, _, hn
  | .bool _, value, h, _, hn => by
    cases h
    exact absurd hn List.not_mem_nil

theorem ComputedValue.readNames_of_option :
    ∀ (v? : Option ConditionalValue) {value? : Option ComputedValue},
      ComputedValue.ofOption v? = .ok value? →
        ConditionsWithin names (ConditionalValue.conditionTextsOfOption v?) →
          n ∈ ComputedValue.readNamesOfOption withTemplates value? →
            n ∈ names ∨ n ∈ ConditionalValue.readNamesOfOption withTemplates v?
  | none, value?, h, _, hn => by
    cases h
    exact absurd hn List.not_mem_nil
  | some v, value?, h, hwithin, hn => by
    rw [ComputedValue.ofOption] at h
    obtain ⟨value, hvalue, h⟩ := exists_ok_of_bind h
    cases h
    exact ComputedValue.readNames_of_value v hvalue hwithin hn

end

end

end SynthTable
