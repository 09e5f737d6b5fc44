import SynthTable.Formula.Expr
import SynthTable.Proofs.Reference.Names

/-!
# The columns of a formula

Reading a formula loses no reference and makes none up. The names that the scan of a text finds are
those of its tokens (`columnsOf_ofChars`), each reader divides the columns of its tokens between the
expression it gives and the tokens it leaves (`columns_read`), and so the names found in the text are
the columns of the expression, in order (`columns_ofText`).
-/

namespace SynthTable

open Reference

/-- The column that a token names. -/
def Token.column? : Token → Option String
  | .column name => some name
  | _ => none

/-- The columns that tokens name, in order. -/
def Token.columnsOf (ts : List Token) : List String := ts.filterMap Token.column?

/-- The columns of an expression in the order of the text. -/
def Expr.columns : Expr → List String
  | .literal _ => []
  | .column name => [name]
  | .neg operand => operand.columns
  | .not operand => operand.columns
  | .binary _ left right => left.columns ++ right.columns
  | .conditional condition yes no => condition.columns ++ yes.columns ++ no.columns

namespace Token

/-! ## Characters and tokens -/

theorem quotedPart_of_readQuoted? {quote : Char} {cs text rest : List Char}
    (h : readQuoted? quote cs = some (text, rest)) : (quotedPart quote cs).2 = rest := by
  fun_induction readQuoted? quote cs generalizing text rest with
  | case1 => cases h
  | case2 => cases h
  | case3 c cs ih =>
    obtain ⟨⟨text', rest'⟩, hread, heq⟩ := Option.map_eq_some_iff.1 h
    cases heq
    rw [quotedPart]
    exact ih hread
  | case4 cs hend hescape =>
    cases h
    unfold quotedPart
    simp_all
  | case5 c cs hend hescape hne ih =>
    obtain ⟨⟨text', rest'⟩, hread, heq⟩ := Option.map_eq_some_iff.1 h
    cases heq
    unfold quotedPart
    simp_all

/-- A reference that a formula reads is one that the scan finds, and both go on after it. -/
theorem afterDollar_of_readColumn {cs rest : List Char} {t : Token}
    (h : readColumn cs = .ok (t, rest)) :
    ∃ name, t = .column (String.ofList name) ∧
      (afterDollar formulaStyle cs).name? = some name ∧
      (afterDollar formulaStyle cs).rest = rest := by
  unfold readColumn at h
  split at h
  · next inner =>
    dsimp only at h
    split at h
    · cases h
    · next hname =>
      have hne : inner.takeWhile Text.isNameChar ≠ [] := fun hnil => hname (by rw [hnil])
      split at h
      · next rest' hrest =>
        cases h
        refine ⟨_, rfl, ?_⟩
        cases hrun : inner.takeWhile Text.isNameChar with
        | nil => exact absurd hrun hne
        | cons c name => simp [afterDollar, hrun, hrest]
      · cases h
  · next hbrace =>
    dsimp only at h
    split at h
    · cases h
    · next hname =>
      have hne : cs.takeWhile Text.isNameChar ≠ [] := fun hnil => hname (by rw [hnil])
      cases h
      refine ⟨_, rfl, ?_⟩
      cases hrun : cs.takeWhile Text.isNameChar with
      | nil => exact absurd hrun hne
      | cons c name =>
        unfold afterDollar
        split
        · next inner => exact absurd rfl (hbrace inner)
        · simp [formulaStyle, hrun]

theorem not_marks_of_isNumberChar {c : Char} (h : isNumberChar c = true) :
    ¬ formulaStyle.marks c := by
  rintro (rfl | ⟨-, rfl | rfl⟩) <;> revert h <;> decide

theorem isNumberChar_of_startsNumber {c : Char} {cs : List Char} (h : startsNumber c cs = true) :
    isNumberChar c = true := by
  simp only [startsNumber, Bool.or_eq_true, Bool.and_eq_true] at h
  simp only [isNumberChar, Bool.or_eq_true]
  exact h.imp_right And.left

theorem column?_of_readNumber {cs : List Char} {t : Token} (h : readNumber cs = .ok t) :
    column? t = none := by
  unfold readNumber at h
  dsimp only at h
  split at h <;> cases h
  rfl

theorem column?_of_single? {c : Char} {t : Token} (h : single? c = some t) : column? t = none := by
  unfold single? at h
  split at h <;> cases h <;> rfl

theorem column?_of_pair? {c d : Char} {t : Token} (h : pair? c d = some t) :
    column? t = none ∧ ¬ formulaStyle.marks d := by
  unfold pair? at h
  split at h <;> cases h <;> exact ⟨rfl, by simp [Style.marks]⟩

/-- A sign is read from two characters or from one. -/
theorem readSign_cases {c : Char} {cs rest : List Char} {t : Token}
    (h : readSign c cs = .ok (t, rest)) :
    (∃ d, cs = d :: rest ∧ pair? c d = some t) ∨ single? c = some t ∧ rest = cs := by
  unfold readSign at h
  dsimp only at h
  split at h
  · split at h
    · next hpair =>
      cases h
      exact .inl ⟨_, rfl, hpair⟩
    · split at h
      · next hsingle =>
        cases h
        exact .inr ⟨hsingle, rfl⟩
      · cases h
  · split at h
    · next hsingle =>
      cases h
      exact .inr ⟨hsingle, rfl⟩
    · cases h

theorem columns_readSign {c : Char} {cs rest : List Char} {t : Token}
    (h : readSign c cs = .ok (t, rest)) :
    column? t = none ∧ namesIn formulaStyle rest = namesIn formulaStyle cs := by
  rcases readSign_cases h with ⟨d, rfl, hpair⟩ | ⟨hsingle, rfl⟩
  · obtain ⟨hcolumn, hplain⟩ := column?_of_pair? hpair
    exact ⟨hcolumn, (namesIn_plain hplain).symm⟩
  · exact ⟨column?_of_single? hsingle, rfl⟩

/-- A token names what the scan finds in its characters. -/
theorem columns_readToken {c : Char} {cs rest : List Char} {t : Token}
    (h : readToken c cs = .ok (t, rest)) :
    (column? t).toList ++ namesIn formulaStyle rest = namesIn formulaStyle (c :: cs) := by
  unfold readToken at h
  split at h
  · next hnumber =>
    split at h
    · next token hread =>
      cases h
      rw [column?_of_readNumber hread, namesIn_plain
        (not_marks_of_isNumberChar (isNumberChar_of_startsNumber hnumber))]
      exact namesIn_dropWhile fun _ => not_marks_of_isNumberChar
    · cases h
  · split at h
    · next hquote =>
      split at h
      · next text rest' hread =>
        cases h
        rw [namesIn_quoted rfl hquote, quotedPart_of_readQuoted? hread]
        rfl
      · cases h
    · next hquote =>
      split at h
      · next hdollar =>
        obtain ⟨name, rfl, hname, hrest⟩ := afterDollar_of_readColumn h
        rw [hdollar, namesIn_dollar, hname, ← hrest, namesIn_rest]
        rfl
      · next hdollar =>
        have hplain : ¬ formulaStyle.marks c := fun hm => hm.elim hdollar fun hq => hquote hq.2
        rw [namesIn_plain hplain]
        split at h
        · cases h
          exact namesIn_dropWhile fun _ => not_marks_of_isNameChar
        · obtain ⟨hcolumn, hnames⟩ := columns_readSign h
          rw [hcolumn, hnames]
          rfl

/-- The names that the scan finds are those of the tokens, in order. -/
theorem columnsOf_ofChars {cs : List Char} {ts : List Token} (h : ofChars cs = .ok ts) :
    columnsOf ts = namesIn formulaStyle cs := by
  fun_induction ofChars cs generalizing ts with
  | case1 =>
    cases h
    exact namesIn_nil.symm
  | case2 c cs hblank ih =>
    rw [namesIn_plain (not_marks_of_isBlank hblank)]
    exact ih h
  | case3 => cases h
  | case4 => cases h
  | case5 c cs hblank t rest hread hle tokens htokens ih =>
    cases h
    rw [← columns_readToken hread, ← ih htokens]
    cases t <;> rfl

end Token

namespace Expr

open Token

/-! ## Tokens and expressions -/

theorem columnsOf_of_expect {wanted : Token} {ts : List Token}
    {r : { rest : List Token // rest.length < ts.length }} (h : expect wanted ts = .ok r)
    (hwanted : column? wanted = none) : columnsOf r.1 = columnsOf ts := by
  unfold expect at h
  split at h
  · cases h
  · split at h
    · next ht =>
      cases h
      rw [columnsOf, columnsOf, List.filterMap_cons_none (ht ▸ hwanted)]
    · cases h

/-- A whole expression is an operand, or one before a question mark and two expressions after it. -/
theorem read_cases {ts : List Token} {r : Read ts} (h : read ts = .ok r) :
    ∃ c, readBinary 1 ts = .ok c ∧
      (r.1 = c.1 ∨
        ∃ rest yes colon no, c.1.2 = .question :: rest ∧ read rest = .ok yes ∧
          expect .colon yes.1.2 = .ok colon ∧ read colon.1 = .ok no ∧
          r.1 = (.conditional c.1.1 yes.1.1 no.1.1, no.1.2)) := by
  unfold read at h
  split at h
  · cases h
  · next condition rest hlt hcondition =>
    refine ⟨_, hcondition, ?_⟩
    split at h
    · split at h
      · cases h
      · next hyes =>
        split at h
        · cases h
        · next hcolon =>
          split at h
          · cases h
          · next hno =>
            cases h
            exact .inr ⟨_, _, _, _, rfl, hyes, hcolon, hno, rfl⟩
    · cases h
      exact .inl rfl

theorem readBinary_cases {least : Nat} {ts : List Token} {r : Read ts}
    (h : readBinary least ts = .ok r) :
    ∃ left whole, readSigned ts = .ok left ∧ extend least left.1.1 left.1.2 = .ok whole ∧
      r.1 = whole.1 := by
  unfold readBinary at h
  split at h
  · cases h
  · next hleft =>
    split at h
    · cases h
    · next hwhole =>
      cases h
      exact ⟨_, _, hleft, hwhole, rfl⟩

theorem extend_cases {least : Nat} {left : Expr} {ts : List Token}
    {r : { r : Expr × List Token // r.2.length ≤ ts.length }} (h : extend least left ts = .ok r) :
    (r.1 = (left, ts) ∧ ∀ o rest, ts = .op o :: rest → o.precedence < least) ∨
      ∃ o rest right whole, ts = .op o :: rest ∧ least ≤ o.precedence ∧
        readBinary (o.precedence + 1) rest = .ok right ∧
        extend least (.binary o left right.1.1) right.1.2 = .ok whole ∧ r.1 = whole.1 := by
  unfold extend at h
  split at h
  · split at h
    · next hlt =>
      cases h
      refine .inl ⟨rfl, fun o rest heq => ?_⟩
      cases heq
      exact hlt
    · next hle =>
      split at h
      · cases h
      · next hright =>
        split at h
        · cases h
        · next hwhole =>
          cases h
          exact .inr ⟨_, _, _, _, rfl, Nat.le_of_not_lt hle, hright, hwhole, rfl⟩
  · next hop =>
    cases h
    exact .inl ⟨rfl, fun o rest heq => absurd heq (hop o rest)⟩

mutual

theorem columns_read {ts : List Token} {r : Read ts} (h : read ts = .ok r) :
    r.1.1.columns ++ columnsOf r.1.2 = columnsOf ts := by
  obtain ⟨c, hcondition, hr | ⟨rest, yes, colon, no, hrest, hyes, hcolon, hno, hr⟩⟩ := read_cases h
  · rw [hr]
    exact columns_readBinary hcondition
  · have hlt : rest.length < ts.length := by
      have hc := c.2
      rw [hrest] at hc
      exact Nat.lt_of_succ_lt hc
    have hltno : colon.1.length < ts.length := colon.2.trans (yes.2.trans hlt)
    rw [hr, ← columns_readBinary hcondition, hrest]
    show _ = c.1.1.columns ++ columnsOf rest
    rw [← columns_read hyes, ← columnsOf_of_expect hcolon rfl, ← columns_read hno]
    simp [columns]
termination_by (ts.length, 3)

theorem columns_readBinary {least : Nat} {ts : List Token} {r : Read ts}
    (h : readBinary least ts = .ok r) : r.1.1.columns ++ columnsOf r.1.2 = columnsOf ts := by
  obtain ⟨left, whole, hleft, hwhole, hr⟩ := readBinary_cases h
  have hlt := left.2
  rw [hr, columns_extend hwhole, columns_readSigned hleft]
termination_by (ts.length, 2)

theorem columns_extend {least : Nat} {left : Expr} {ts : List Token}
    {r : { r : Expr × List Token // r.2.length ≤ ts.length }} (h : extend least left ts = .ok r) :
    r.1.1.columns ++ columnsOf r.1.2 = left.columns ++ columnsOf ts := by
  obtain ⟨hr, -⟩ | ⟨o, rest, right, whole, rfl, -, hright, hwhole, hr⟩ := extend_cases h
  · rw [hr]
  · have hlt : right.1.2.length < (Token.op o :: rest).length := Nat.lt_succ_of_lt right.2
    rw [hr, columns_extend hwhole, columns, List.append_assoc, columns_readBinary hright]
    rfl
termination_by (ts.length, 2)

theorem columns_readSigned {ts : List Token} {r : Read ts} (h : readSigned ts = .ok r) :
    r.1.1.columns ++ columnsOf r.1.2 = columnsOf ts := by
  unfold readSigned at h
  split at h
  · split at h
    · cases h
    · next hread =>
      have ih := columns_readSigned hread
      cases h
      exact ih
  · split at h
    · cases h
    · next hread =>
      have ih := columns_readSigned hread
      cases h
      exact ih
  · exact columns_readOperand h
termination_by (ts.length, 1)

theorem columns_readOperand {ts : List Token} {r : Read ts} (h : readOperand ts = .ok r) :
    r.1.1.columns ++ columnsOf r.1.2 = columnsOf ts := by
  unfold readOperand at h
  split at h
  · cases h
    rfl
  · cases h
    rfl
  · cases h
    rfl
  · split at h
    · cases h
      rfl
    · split at h <;> cases h
      rfl
  · split at h
    · cases h
    · next hinner =>
      have ih := columns_read hinner
      split at h
      · cases h
      · next hclose =>
        have hsame := columnsOf_of_expect hclose rfl
        cases h
        exact (congrArg _ hsame).trans ih
  · cases h
  · cases h
termination_by (ts.length, 0)

end

/-- The names that the scan finds in a formula are the columns of its expression, in order. -/
theorem columns_ofText {source : String} {e : Expr} (h : ofText source = .ok e) :
    e.columns = Reference.names (formulaVariables source) := by
  unfold ofText at h
  split at h
  · cases h
  · next ts htokens =>
    rw [formulaVariables, names_scan, ← columnsOf_ofChars htokens]
    unfold ofTokens at h
    split at h
    · cases h
    · split at h
      · cases h
      · next hread =>
        cases h
        rw [← columns_read hread]
        simp [columnsOf]
      · cases h

end Expr

end SynthTable
