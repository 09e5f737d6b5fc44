import SynthTable.Proofs.Domain.Copies
import SynthTable.Proofs.Domain.IntegerTexts
import SynthTable.Proofs.Formula.Printing
import SynthTable.Proofs.Number.Shortest

/-!
# Integers in formulas

A formula computes with doubles. A formula that is one reference to an integer has the double
nearest to it, its text is that of the shortest integer that is rounded to this double
(`Scalar.render_ofInt`), and a column of integers reads the text of an integer as this integer
(`Field.cast_toString`). So the column gets the integer that is referred to if this is the shortest
one of its double, as all integers up to 2^53 are, and no other (`Field.formulaCopy_iff`); a
template always gives it. From 2^53 + 1 on there are integers that a formula changes, and some that
it does not bring back at all (`Field.not_formulaCopy_beyond`).
-/

namespace SynthTable

open Double

/-! ## The text of a number -/

/-- The double nearest to an integer is written as the shortest integer that is rounded to it. -/
theorem Scalar.render_ofInt (n : Int64) : ∃ k : Int, IsShortest (ofInt n.toInt) k ∧
    (Scalar.number (ofInt n.toInt)).render = toString k := by
  obtain ⟨v, hv⟩ := exists_intCast_ofInt (natAbs_toInt_lt n)
  have hlimit : (ofNat (Nat.pow 10 15)).value? = some ((Nat.pow 10 15 : Nat) : ℚ) := by
    rw [← ofInt_natCast]
    exact value?_ofInt (by norm_num)
  rw [render]
  split
  · next hsmall =>
    rw [Bool.and_eq_true, sizeBelow_iff hv hlimit] at hsmall
    have hn : n.toInt.natAbs ≤ 2 ^ 53 := by
      by_contra hgt
      obtain ⟨x, hx⟩ := exists_value?_natCast (Nat.le_refl (2 ^ 53))
      have hfull := (abs_of_ofInt hv hx).1 (by omega)
      have hbelow := hsmall.2
      norm_num at hfull hbelow
      linarith
    rw [value?_ofInt hn, Option.some_inj, Int.cast_inj] at hv
    refine ⟨n.toInt, isShortest_ofInt hn, ?_⟩
    have hlow := n.minValue_le_toInt
    have hhigh := n.toInt_le
    rw [toInt_toInt64 (value?_ofInt hn)]
    congr 1
    omega
  · next hlarge =>
    have hwhole := (isWhole_iff hv).2 ⟨v, rfl⟩
    rw [Bool.and_eq_true, sizeBelow_iff hv hlimit] at hlarge
    have hne : v ≠ 0 := by
      rintro rfl
      exact hlarge ⟨hwhole, by norm_num⟩
    have hend : (Double.finite false (2 ^ 52) 11 (by decide)).value? =
        some ((2 ^ 63 : Nat) : ℚ) := by
      norm_num [value?, signed, unit]
    have hv64 : v.natAbs < 2 ^ 64 := by
      have habs := (abs_of_ofInt hv hend).2 (natAbs_toInt_le n)
      rw [← Int.cast_abs, Int.abs_eq_natAbs] at habs
      have : v.natAbs ≤ 2 ^ 63 := by exact_mod_cast habs
      omega
    obtain ⟨k, htext, hk⟩ := exists_isShortest hv hne hv64
    exact ⟨k, hk, htext⟩

/-! ## Reading the text back -/

theorem Domain.readInteger?_of_outside {k : Int}
    (h : ¬ (Int64.minValue.toInt ≤ k ∧ k ≤ Int64.maxValue.toInt)) :
    readInteger? (toString k) = none := by
  have hdenotes : Numeral.Denotes (Text.trim (toString k).toList) k := by
    rw [Text.trim_of_tight (Numeral.tight_toString k)]
    exact (Numeral.denotes_of_integer? (Numeral.integer?_toString k)).2
  rw [Option.eq_none_iff_forall_ne_some]
  intro n hn
  obtain ⟨hlow, hhigh⟩ := range_of_readInteger? hn hdenotes
  exact h ⟨by exact_mod_cast hlow, by exact_mod_cast hhigh⟩

namespace Field

variable {c d : Column} {assets : AssetSource} {f g : Field} {name : String} {row : Row}

/-- A field of integers casts the text of an integer to this integer, unless it is out of range. -/
theorem cast_toString (h : build c assets = .ok f) (hkind : c.kind = .long) (k : Int) :
    f.cast (toString k) =
      if Int64.minValue.toInt ≤ k ∧ k ≤ Int64.maxValue.toInt then .ok (.int (.ofInt k))
      else .error (.cast (toString k) "integer") := by
  obtain ⟨domain, computation?, rfl, hdomain, -⟩ := eq_of_build h
  rw [Domain.build, hkind] at hdomain
  obtain ⟨values, low, high, -, -, -, -, rfl⟩ := Domain.exists_of_buildInteger hdomain
  have hne : toString k ≠ "" := by
    intro hempty
    have htight := (Numeral.tight_toString k).ne_nil
    rw [hempty] at htight
    exact htight rfl
  simp only [cast, hne, decide_false, Bool.false_and, Bool.false_eq_true, if_false, Domain.cast]
  split_ifs with hrange
  · have hread := Domain.readInteger?_toString (.ofInt k)
    rw [Numeral.toInt_ofInt_of_range hrange] at hread
    rw [hread, Domain.castTo]
  · rw [Domain.readInteger?_of_outside hrange, Domain.castTo]

end Field

/-! ## Formulas that are one reference -/

namespace Formula

/-- A reference to a column, without braces. -/
def referenceTo (name : String) : String := String.ofList ('$' :: name.toList)

/-- A formula that is one reference is the column that it refers to. -/
theorem ofText_referenceTo {name : String} (hname : Reference.IsName name.toList) :
    ofText (referenceTo name) = .ok ⟨referenceTo name, .column name⟩ := by
  have hempty : ∀ c ∈ ([] : List Char), Text.isBlank c = true := nofun
  have hlaid : Token.Laid [.column name] ('$' :: name.toList) := by
    simpa using Token.Laid.cons hempty (Token.Spells.bare hname) (.nil hempty)
  have hderives : Expr.Derives 0 [.column name] (.column name) :=
    (Expr.Derives.column name).of_le (Nat.zero_le 8)
  rw [ofText, referenceTo, Expr.ofText_laid hderives hlaid]

/-- On an integer it gives the double nearest to it. -/
theorem evaluate_reference {source name : String} {row : Row} {n : Int64}
    (hn : row.get? name = some (.int n)) :
    evaluate ⟨source, .column name⟩ row = .ok (.number (ofInt n.toInt)) := by
  obtain ⟨v, hv⟩ := exists_value?_ofInt (natAbs_toInt_lt n)
  simp only [evaluate, eval, hn, Scalar.ofValue]
  rw [if_pos (isFinite_of_value? hv)]

end Formula

namespace Field

variable {c d : Column} {assets : AssetSource} {f g : Field} {name : String} {row : Row}
  {n : Int64}

/-- A field that is a formula of one reference has the shortest integer of the double nearest to
the integer that it refers to. -/
theorem exists_compute_reference (h : build c assets = .ok f) (hkind : c.kind = .long)
    (hname : Reference.IsName name.toList)
    (hformula : c.derivation? = some (.formula (Formula.referenceTo name)))
    (hn : row.get? name = some (.int n)) :
    ∃ k : Int, IsShortest (ofInt n.toInt) k ∧ f.compute row =
      .ok (if Int64.minValue.toInt ≤ k ∧ k ≤ Int64.maxValue.toInt then .ok (.int (.ofInt k))
        else .error (.cast (toString k) "integer")) := by
  obtain ⟨k, hk, hrender⟩ := Scalar.render_ofInt n
  refine ⟨k, hk, ?_⟩
  rw [← cast_toString h hkind]
  obtain ⟨domain, computation?, rfl, -, hcomputation⟩ := eq_of_build h
  rw [computationOf, hformula] at hcomputation
  simp only [Computation.ofDerivation, readFormula, Formula.ofText_referenceTo hname]
    at hcomputation
  cases hcomputation
  rw [compute]
  simp only [Computation.evaluate, Formula.evaluate_reference hn, hrender]

/-- Copies of an integer by a template and by a formula. The template gives the integer. The
formula gives the shortest integer that is rounded to the same double, or an error where this is out
of range; so it gives the integer just if this is the shortest one itself, and up to 2^53 it
is. -/
theorem formulaCopy_iff (hf : build c assets = .ok f) (hg : build d assets = .ok g)
    (hlong : c.kind = .long) (hlong' : d.kind = .long) (hname : Reference.IsName name.toList)
    (hformula : c.derivation? = some (.formula (Formula.referenceTo name)))
    (hinjection : d.derivation? = some (.injection (Template.referenceTo name)))
    (hn : row.get? name = some (.int n)) :
    g.compute row = .ok (.ok (.int n)) ∧
      (∃ k : Int, IsShortest (ofInt n.toInt) k ∧ f.compute row =
        .ok (if Int64.minValue.toInt ≤ k ∧ k ≤ Int64.maxValue.toInt then .ok (.int (.ofInt k))
          else .error (.cast (toString k) "integer"))) ∧
      (f.compute row = .ok (.ok (.int n)) ↔ IsShortest (ofInt n.toInt) n.toInt) ∧
      (n.toInt.natAbs ≤ 2 ^ 53 → f.compute row = .ok (.ok (.int n))) := by
  have hcopy : g.compute row = .ok (.ok (.int n)) := by
    have hholds : d.kind.Holds (.int n) := hlong' ▸ .long n
    rw [compute_of_referenceTo hg hname hinjection hn,
      cast_of_holds hg (hlong' ▸ by decide) hholds]
  obtain ⟨k, hk, hcompute⟩ := exists_compute_reference hf hlong hname hformula hn
  have hiff : f.compute row = .ok (.ok (.int n)) ↔ IsShortest (ofInt n.toInt) n.toInt := by
    rw [hcompute]
    constructor
    · intro h
      split at h
      · next hrange =>
        cases h
        rw [Numeral.toInt_ofInt_of_range hrange] at hk ⊢
        exact hk
      · cases h
    · intro h
      obtain ⟨v, hv⟩ := exists_value?_ofInt (natAbs_toInt_lt n)
      rw [hk.unique hv h, if_pos ⟨n.minValue_le_toInt, n.toInt_le⟩, Int64.ofInt_toInt]
  exact ⟨hcopy, ⟨k, hk, hcompute⟩, hiff, fun hsmall => hiff.2 (isShortest_ofInt hsmall)⟩

/-- A copy of the column `a` by a formula. -/
def formulaCopy : Column :=
  { Column.plain "b" .long with derivation? := some (.formula "$a") }

/-- A copy of the column `a` by a template. -/
def templateCopy : Column :=
  { Column.plain "b" .long with derivation? := some (.injection "${a}") }

/-- A row with an integer in the column `a`. -/
def integerRow (n : Int64) : Row := .ofValues [⟨"a", false⟩, ⟨"b", false⟩] [.int n]

theorem isName_a : Reference.IsName "a".toList :=
  ⟨by decide, List.all_eq_true.1 (by decide +kernel)⟩

theorem formulaCopy_derivation :
    formulaCopy.derivation? = some (.formula (Formula.referenceTo "a")) := by
  have htext : Formula.referenceTo "a" = "$a" := by decide
  rw [htext]
  rfl

theorem templateCopy_derivation :
    templateCopy.derivation? = some (.injection (Template.referenceTo "a")) := by
  have htext : Template.referenceTo "a" = "${a}" := by decide
  rw [htext]
  rfl

theorem build_formulaCopy (assets : AssetSource) : build formulaCopy assets = .ok ⟨"b", false,
    .declared .long (.integer ⟨[]⟩ Int64.minValue (Int64.maxValue - 1))
      (some (.formula ⟨Formula.referenceTo "a", .column "a"⟩))⟩ := by
  have hcomputation : computationOf formulaCopy =
      .ok (some (.formula ⟨Formula.referenceTo "a", .column "a"⟩)) := by
    rw [computationOf, formulaCopy_derivation]
    simp only [Computation.ofDerivation, readFormula, Formula.ofText_referenceTo isName_a]
    rfl
  rw [build, hcomputation]
  rfl

theorem build_templateCopy (assets : AssetSource) : build templateCopy assets = .ok ⟨"b", false,
    .declared .long (.integer ⟨[]⟩ Int64.minValue (Int64.maxValue - 1))
      (some (.template (.ofText "${a}")))⟩ := by
  rfl

theorem formulaCopy_iff_full : Reference.IsName "a".toList ∧
    (integerRow 9007199254740992).get? "a" = some (.int 9007199254740992) ∧
    ∀ assets, ∃ f g, build formulaCopy assets = .ok f ∧ build templateCopy assets = .ok g ∧
      f.compute (integerRow 9007199254740992) = .ok (.ok (.int 9007199254740992)) ∧
      g.compute (integerRow 9007199254740992) = .ok (.ok (.int 9007199254740992)) := by
  have hn : (integerRow 9007199254740992).get? "a" = some (.int 9007199254740992) := by decide
  refine ⟨isName_a, hn, fun assets => ?_⟩
  obtain ⟨hcopy, -, -, hsmall⟩ := formulaCopy_iff (build_formulaCopy assets)
    (build_templateCopy assets) rfl rfl isName_a formulaCopy_derivation templateCopy_derivation hn
  exact ⟨_, _, build_formulaCopy assets, build_templateCopy assets, hsmall (by decide), hcopy⟩

/-- Beyond 2^53 the formula gives another integer than the template, and for the greatest integer
it gives an error. -/
theorem not_formulaCopy_beyond :
    (integerRow 9007199254740993).get? "a" = some (.int 9007199254740993) ∧
      (integerRow Int64.maxValue).get? "a" = some (.int Int64.maxValue) ∧
      ∀ assets, ∃ f g, build formulaCopy assets = .ok f ∧ build templateCopy assets = .ok g ∧
        f.compute (integerRow 9007199254740993) = .ok (.ok (.int 9007199254740992)) ∧
        g.compute (integerRow 9007199254740993) = .ok (.ok (.int 9007199254740993)) ∧
        f.compute (integerRow Int64.maxValue) =
          .ok (.error (.cast "9223372036854776000" "integer")) ∧
        g.compute (integerRow Int64.maxValue) = .ok (.ok (.int Int64.maxValue)) := by
  have hbeyond : (integerRow 9007199254740993).get? "a" = some (.int 9007199254740993) := by decide
  have hgreatest : (integerRow Int64.maxValue).get? "a" = some (.int Int64.maxValue) := by decide
  refine ⟨hbeyond, hgreatest, fun assets => ?_⟩
  have hcopy (n : Int64) (hn : (integerRow n).get? "a" = some (.int n)) :
      (Field.mk "b" false (.declared .long (.integer ⟨[]⟩ Int64.minValue (Int64.maxValue - 1))
        (some (.template (.ofText "${a}"))))).compute (integerRow n) = .ok (.ok (.int n)) := by
    rw [compute_of_referenceTo (build_templateCopy assets) isName_a templateCopy_derivation hn,
      cast_of_holds (build_templateCopy assets) (by decide) (.long n)]
  exact ⟨_, _, build_formulaCopy assets, build_templateCopy assets, by rfl, hcopy _ hbeyond,
    by rfl, hcopy _ hgreatest⟩

end Field

end SynthTable
