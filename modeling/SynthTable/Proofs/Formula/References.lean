import SynthTable.Proofs.Computation.Reads
import SynthTable.Proofs.Formula.Printing

/-!
# The references of a formula

The scan for references and the reader of tokens pass over a formula in step: wherever a token
begins, the scan has found the columns of the tokens before it, and it stands where the reader does
(`exists_cut_of_ofChars`). A quoted text is passed over by both with all that is escaped in it. So
the references of a derivation by a formula are the columns that the formula reads
(`references_of_ofText`).
-/

namespace SynthTable

open Reference

namespace Token

variable {c quote : Char} {cs text rest : List Char} {t : Token} {s : String}
  {ts xs ys : List Token}

theorem columnsOf_cons : columnsOf (t :: ts) = (column? t).toList ++ columnsOf ts := by
  cases t <;> rfl

/-! ## What a token takes -/

/-- What is read of a quoted text is all up to its closing quote. -/
theorem escapes_of_readQuoted? (h : readQuoted? quote cs = some (text, rest)) :
    ∃ body, cs = body ++ quote :: rest ∧ Escapes quote body text := by
  fun_induction readQuoted? quote cs generalizing text rest with
  | case1 => cases h
  | case2 => cases h
  | case3 c cs ih =>
    obtain ⟨⟨text', rest'⟩, hread, heq⟩ := Option.map_eq_some_iff.1 h
    cases heq
    obtain ⟨body, rfl, hescapes⟩ := ih hread
    exact ⟨'\\' :: c :: body, rfl, .escaped c hescapes⟩
  | case4 cs =>
    cases h
    exact ⟨[], rfl, .nil⟩
  | case5 c cs hend hescape hne ih =>
    obtain ⟨⟨text', rest'⟩, hread, heq⟩ := Option.map_eq_some_iff.1 h
    cases heq
    obtain ⟨body, rfl, hescapes⟩ := ih hread
    refine ⟨c :: body, rfl, .plain hne (fun hc => ?_) hescapes⟩
    obtain ⟨d, ds, hds⟩ := List.exists_cons_of_ne_nil
      (List.append_ne_nil_of_right_ne_nil body (List.cons_ne_nil quote rest))
    exact hescape d ds hc hds

theorem suffix_readColumn (h : readColumn cs = .ok (t, rest)) : rest <:+ cs := by
  have hdrop (l : List Char) : l.dropWhile Text.isNameChar <:+ l := List.dropWhile_suffix _
  unfold readColumn at h
  split at h
  · next inner =>
    dsimp only at h
    split at h
    · cases h
    · split at h
      · next rest' hrest =>
        cases h
        have hinner : '}' :: rest <:+ inner := hrest ▸ hdrop inner
        exact ((List.suffix_cons _ _).trans hinner).trans (List.suffix_cons _ _)
      · cases h
  · dsimp only at h
    split at h
    · cases h
    · cases h
      exact hdrop cs

theorem suffix_readToken (h : readToken c cs = .ok (t, rest)) : rest <:+ cs := by
  unfold readToken at h
  split at h
  · split at h <;> cases h
    exact List.dropWhile_suffix _
  · split at h
    · split at h
      · next hread =>
        cases h
        obtain ⟨body, rfl, -⟩ := escapes_of_readQuoted? hread
        exact (List.suffix_cons _ _).trans (List.suffix_append _ _)
      · cases h
    · split at h
      · exact suffix_readColumn h
      · split at h
        · cases h
          exact List.dropWhile_suffix _
        · rcases readSign_cases h with ⟨d, rfl, -⟩ | ⟨-, rfl⟩
          · exact List.suffix_cons _ _
          · exact List.suffix_refl _

/-- Only what stands in quotes is read as a quoted text. -/
theorem quote_of_readToken (h : readToken c cs = .ok (.quoted s, rest)) :
    (c = '\'' ∨ c = '"') ∧ ∃ body, cs = body ++ c :: rest ∧ Escapes c body s.toList := by
  unfold readToken at h
  split at h
  · split at h
    · next hnumber =>
      cases h
      unfold readNumber at hnumber
      dsimp only at hnumber
      split at hnumber <;> cases hnumber
    · cases h
  · split at h
    · next hquote =>
      split at h
      · next hread =>
        cases h
        obtain ⟨body, hcs, hescapes⟩ := escapes_of_readQuoted? hread
        exact ⟨hquote, body, hcs, by rwa [String.toList_ofList]⟩
      · cases h
    · split at h
      · obtain ⟨name, heq, -⟩ := afterDollar_of_readColumn h
        cases heq
      · split at h
        · cases h
        · rcases readSign_cases h with ⟨d, rfl, hpair⟩ | ⟨hsingle, rfl⟩
          · unfold pair? at hpair
            split at hpair <;> cases hpair
          · unfold single? at hsingle
            split at hsingle <;> cases hsingle

/-! ## In step -/

/-- The first token begins after some blanks, and the others are read behind it. -/
theorem ofChars_cons (h : ofChars cs = .ok (t :: ts)) :
    ∃ gap c mid rest, cs = gap ++ c :: mid ∧ (∀ b ∈ gap, Text.isBlank b = true) ∧
      readToken c mid = .ok (t, rest) ∧ ofChars rest = .ok ts := by
  fun_induction ofChars cs generalizing ts with
  | case1 => cases h
  | case2 b cs hblank ih =>
    obtain ⟨gap, c, mid, rest, rfl, hgap, hread, hrest⟩ := ih h
    exact ⟨b :: gap, c, mid, rest, rfl, List.forall_mem_cons.2 ⟨hblank, hgap⟩, hread, hrest⟩
  | case3 => cases h
  | case4 => cases h
  | case5 c cs hblank t' rest hread hle tokens hrest ih =>
    cases h
    exact ⟨[], c, cs, rest, rfl, by simp, hread, hrest⟩

/-- Where a token begins, the scan has found the columns of the tokens before it, and goes on
there. -/
theorem exists_cut_of_ofChars (h : ofChars cs = .ok (xs ++ t :: ys)) :
    ∃ pre c mid rest, cs = pre ++ c :: mid ∧ readToken c mid = .ok (t, rest) ∧
      ofChars rest = .ok ys ∧
      namesIn formulaStyle cs = columnsOf xs ++ namesIn formulaStyle (c :: mid) := by
  induction xs generalizing cs with
  | nil =>
    obtain ⟨gap, c, mid, rest, rfl, hgap, hread, hrest⟩ := ofChars_cons h
    refine ⟨gap, c, mid, rest, rfl, hread, hrest, ?_⟩
    exact namesIn_append_plain fun b hb => not_marks_of_isBlank (hgap b hb)
  | cons x xs ih =>
    obtain ⟨gap, c, mid, rest, rfl, hgap, hread, hrest⟩ := ofChars_cons h
    obtain ⟨pre, c', mid', rest', rfl, hread', hrest', hnames⟩ := ih hrest
    obtain ⟨taken, rfl⟩ := suffix_readToken hread
    refine ⟨gap ++ c :: (taken ++ pre), c', mid', rest', by simp, hread', hrest', ?_⟩
    rw [namesIn_append_plain fun b hb => not_marks_of_isBlank (hgap b hb),
      ← columns_readToken hread, hnames, columnsOf_cons, List.append_assoc]

/-- The scan finds nothing between the quotes of a quoted text, whatever is escaped there. -/
theorem exists_quotes_of_ofChars (h : ofChars cs = .ok (xs ++ .quoted s :: ys)) :
    ∃ pre quote body rest, cs = pre ++ quote :: (body ++ quote :: rest) ∧
      (quote = '\'' ∨ quote = '"') ∧ Escapes quote body s.toList ∧ ofChars rest = .ok ys ∧
      namesIn formulaStyle cs = columnsOf xs ++ namesIn formulaStyle rest := by
  obtain ⟨pre, c, mid, rest, rfl, hread, hrest, hnames⟩ := exists_cut_of_ofChars h
  obtain ⟨hquote, body, rfl, hescapes⟩ := quote_of_readToken hread
  refine ⟨pre, c, body, rest, rfl, hquote, hescapes, hrest, ?_⟩
  rw [hnames, ← columns_readToken hread]
  rfl

end Token

namespace Formula

/-- The names that the scan finds in a formula are, in order, those of its tokens and the columns of
its expression. So the references of the derivation are what the formula reads of a row: its value
depends on no other column, and it misses no other. Quoted texts have no references. -/
theorem references_of_ofText {source : String} {f : Formula} (h : ofText source = .ok f) :
    (∃ ts, Token.ofChars source.toList = .ok ts ∧
      Reference.names (formulaVariables source) = Token.columnsOf ts) ∧
    Reference.names (formulaVariables source) = f.expr.columns ∧
    (∀ n, n ∈ (Derivation.formula source).references ↔ n ∈ f.expr.columns) ∧
    (∀ row row' : Row, (∀ n ∈ (Derivation.formula source).references, row.get? n = row'.get? n) →
      f.evaluate row = f.evaluate row') ∧
    (∀ row n, f.evaluate row = .error (.missingReference n) →
      n ∈ (Derivation.formula source).references ∧ row.get? n = none) ∧
    ∀ xs s ys, Token.ofChars source.toList = .ok (xs ++ .quoted s :: ys) →
      ∃ pre quote body rest, source.toList = pre ++ quote :: (body ++ quote :: rest) ∧
        (quote = '\'' ∨ quote = '"') ∧ Token.Escapes quote body s.toList ∧
        Token.ofChars rest = .ok ys ∧
        Reference.names (formulaVariables source) =
          Token.columnsOf xs ++ namesIn formulaStyle rest := by
  have hexpr : Expr.ofText source = .ok f.expr := by
    unfold ofText at h
    split at h
    · next e he =>
      cases h
      exact he
    · cases h
  have hcolumns := Expr.columns_ofText hexpr
  have hmem : ∀ n, n ∈ (Derivation.formula source).references ↔ n ∈ f.expr.columns := by
    intro n
    rw [Derivation.references, Names.mem_ofList, Derivation.readNames, hcolumns]
  obtain ⟨ts, htokens, -⟩ := Expr.ofText_eq_ok_iff.1 hexpr
  refine ⟨⟨ts, htokens, ?_⟩, hcolumns.symm, hmem, fun row row' hsame => ?_,
    fun row n hmissing => ?_, fun xs s ys hquoted => ?_⟩
  · rw [formulaVariables, names_scan, Token.columnsOf_ofChars htokens]
  · exact evaluate_congr fun n hn => hsame n ((hmem n).2 hn)
  · obtain ⟨hn, hnone⟩ := missing_of_evaluate hmissing
    exact ⟨(hmem n).2 hn, hnone⟩
  · rw [formulaVariables, names_scan]
    exact Token.exists_quotes_of_ofChars hquoted

/-- A quote is escaped in each kind of quoted text, and a dollar sign stands in both. -/
def quotations : String := "$\x7ba\x7d > 1 && '\\'$b' != \"\\\"$c\" ? $d : $a"

/-- The expression of `quotations`. -/
def quotationsExpr : Expr :=
  .conditional
    (.binary .and
      (.binary .gt (.column "a") (.literal (.number (.ofDecimal false 1 0))))
      (.binary .ne (.literal (.text "'$b")) (.literal (.text "\"$c"))))
    (.column "d") (.column "a")

theorem ofText_quotations : ofText quotations = .ok ⟨quotations, quotationsExpr⟩ := by
  have hdigit : ∀ d ∈ ['1'], Numeral.isDigit d = true := List.forall_mem_singleton.2 (by decide)
  have hone : Numeral.double? ['1'] = some (.ofDecimal false 1 0) :=
    Numeral.double?_whole (by simp) hdigit
  have hdecimal : Numeral.IsDecimal ['1'] := .whole (by simp) hdigit
  have ha : IsName ['a'] := ⟨by simp, List.forall_mem_singleton.2 (by decide +kernel)⟩
  have hd : IsName ['d'] := ⟨by simp, List.forall_mem_singleton.2 (by decide +kernel)⟩
  have hnone : ∀ c ∈ ([] : List Char), Text.isBlank c = true := by simp
  have hspace := Token.isBlank_space
  have hb : Token.Escapes '\'' ['\\', '\'', '$', 'b'] ['\'', '$', 'b'] :=
    .escaped '\'' (.plain (by decide) (by decide) (.plain (by decide) (by decide) .nil))
  have hc : Token.Escapes '"' ['\\', '"', '$', 'c'] ['"', '$', 'c'] :=
    .escaped '"' (.plain (by decide) (by decide) (.plain (by decide) (by decide) .nil))
  have hlaid : Token.Laid (quotationsExpr.tokens 0) quotations.toList :=
    .cons hnone (.braced ha) <| .cons hspace (.op .gt) <| .cons hspace (.number hdecimal hone) <|
    .cons hspace (.op .and) <| .cons hspace (.quoted (.inl rfl) hb) <| .cons hspace (.op .ne) <|
    .cons hspace (.quoted (.inr rfl) hc) <| .cons hspace .question <| .cons hspace (.bare hd) <|
    .cons hspace .colon <| .cons hspace (.bare ha) <| .nil hnone
  have hexpr := Expr.ofText_laid (Expr.derives_tokens quotationsExpr (Nat.zero_le 8)) hlaid
  rw [String.ofList_toList] at hexpr
  rw [ofText, hexpr]

/-- Only the columns outside the quotes are found. -/
theorem references_of_ofText_quotations :
    Reference.names (formulaVariables quotations) = ["a", "d", "a"] ∧
      ∀ n, n ∈ (Derivation.formula quotations).references ↔ n = "a" ∨ n = "d" := by
  obtain ⟨-, hnames, hreferences, -⟩ := references_of_ofText ofText_quotations
  refine ⟨hnames, fun n => (hreferences n).trans ?_⟩
  simp only [quotationsExpr, Expr.columns, List.append_nil, List.cons_append, List.nil_append,
    List.mem_cons, List.not_mem_nil, or_false]
  tauto

end Formula

end SynthTable
